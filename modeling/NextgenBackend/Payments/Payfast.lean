import NextgenBackend.Library.Dict
import NextgenBackend.Payments.Providers

namespace NextgenBackend.Payfast

open Payments.PayFast

abbrev Params := Dict String String

-- `none` is the TypeError of `compare_digest` on a text that is not ASCII.
def compareDigest (expected received : String) : Option Bool :=
  if received.toList.all (·.toNat < 128) then some (expected = received) else none

def verifySignature (md5 : String → String) (params : Params) (passphrase : Option String) :
    Option Bool :=
  if passphrase.filter (· ≠ "") = none then some false
  else
    match (params.lookup "signature").filter (· ≠ "") with
    | none => some false
    | some receivedSig =>
        compareDigest (md5 (baseString (params.erase "signature").entries passphrase)) receivedSig

variable {md5 : String → String} {params params' : Params} {passphrase : Option String}
  {entry entry' : String × String}

def PlainKeys (params : Params) : Prop :=
  ∀ entry ∈ params.entries, '&' ∉ entry.1.toList

instance : Decidable (PlainKeys params) := inferInstanceAs (Decidable (∀ _ ∈ _, _))

theorem equals_notMem_quotePlus (text : String) : '=' ∉ Percent.quotePlus text :=
  fun h => (Percent.plain_of_mem_quotePlus h).2 rfl

-- The value has no equals sign of its own, so the last one of the pair ends its key.
theorem eq_of_append_equals {key key' value value' : List Char} (hvalue : '=' ∉ value)
    (hvalue' : '=' ∉ value') (h : key ++ '=' :: value = key' ++ '=' :: value') :
    key = key' ∧ value = value' := by
  rcases List.append_eq_append_iff.mp h with ⟨between, hkey, hrest⟩ | ⟨between, hkey, hrest⟩
  · cases between with
    | nil => exact ⟨by simpa using hkey.symm, (List.cons.inj hrest).2⟩
    | cons c between =>
        rw [(List.cons.inj hrest).2] at hvalue
        exact absurd (List.mem_append_right _ List.mem_cons_self) hvalue
  · cases between with
    | nil => exact ⟨by simpa using hkey, ((List.cons.inj hrest).2).symm⟩
    | cons c between =>
        rw [(List.cons.inj hrest).2] at hvalue'
        exact absurd (List.mem_append_right _ List.mem_cons_self) hvalue'

theorem pairText_injective : Function.Injective pairText := by
  rintro ⟨key, value⟩ ⟨key', value'⟩ h
  obtain ⟨hkey, hvalue⟩ := eq_of_append_equals (equals_notMem_quotePlus value)
    (equals_notMem_quotePlus value') h
  exact Prod.ext (String.toList_inj.mp hkey) (Percent.quotePlus_injective hvalue)

theorem pairText_plain (h : '&' ∉ entry.1.toList) :
    pairText entry ≠ [] ∧ '&' ∉ pairText entry := by
  refine ⟨by simp [pairText], ?_⟩
  unfold pairText
  rw [List.mem_append, List.mem_cons]
  rintro (hkey | hequals | hvalue)
  · exact h hkey
  · cases hequals
  · exact (Percent.plain_of_mem_quotePlus hvalue).1 rfl

theorem sorted_plain (h : PlainKeys params) :
    ∀ text ∈ (sortParams params.entries).map pairText, text ≠ [] ∧ '&' ∉ text := by
  intro text htext
  obtain ⟨entry, hentry, rfl⟩ := List.mem_map.mp htext
  exact pairText_plain (h entry ((List.mergeSort_perm _ _).mem_iff.mp hentry))

theorem lookup_of_baseString (h : PlainKeys params) (h' : PlainKeys params')
    (hbase : baseString params.entries passphrase = baseString params'.entries passphrase)
    (key : String) : params.lookup key = params'.lookup key := by
  have hpairs : pairsText params.entries = pairsText params'.entries :=
    List.append_cancel_right (String.ofList_injective hbase)
  have hsorted : sortParams params.entries = sortParams params'.entries :=
    List.map_injective_iff.mpr pairText_injective
      (InBand.intercalate_inj (sorted_plain h) (sorted_plain h') hpairs)
  have hperm (params : Params) : (sortParams params.entries).Perm params.entries :=
    List.mergeSort_perm _ _
  exact Dict.lookup_of_perm ((hperm params).symm.trans (hsorted ▸ hperm params')) key

theorem verifySignature_accepts
    (h : verifySignature md5 params passphrase = some true) :
    params.lookup "signature" =
      some (md5 (baseString (params.erase "signature").entries passphrase)) := by
  unfold verifySignature at h
  split at h
  · cases h
  · split at h
    · cases h
    next receivedSig hreceived =>
      obtain ⟨hlookup, -⟩ := Option.filter_eq_some_iff.mp hreceived
      unfold compareDigest at h
      split at h
      · rw [hlookup, of_decide_eq_true (Option.some.inj h)]
      · cases h

theorem base_string_determines_parameters (md5 : String → String)
    (hmd5 : Function.Injective md5) (passphrase : Option String) (params params' : Params)
    (h : PlainKeys params) (h' : PlainKeys params') :
    (baseString params.entries passphrase = baseString params'.entries passphrase →
      ∀ key, params.lookup key = params'.lookup key) ∧
    (params'.lookup "signature" = some (md5 (baseString params.entries passphrase)) →
      verifySignature md5 params' passphrase = some true →
      ∀ key, (params'.erase "signature").lookup key = params.lookup key) := by
  refine ⟨fun hbase => lookup_of_baseString h h' hbase, fun hsigned haccepts => ?_⟩
  have herased : PlainKeys (params'.erase "signature") := fun entry hentry =>
    h' entry (List.mem_of_mem_filter hentry)
  have hdigest := (verifySignature_accepts haccepts).symm.trans hsigned
  exact lookup_of_baseString herased h (hmd5 (Option.some.inj hdigest))

def paid : Params := (Dict.empty.set "amount" "10.00").set "m_payment_id" "7"

def merged : Params := Dict.empty.set "amount=10.00&m_payment_id" "7"

theorem baseString_paid :
    baseString paid.entries (some "secret") = "amount=10.00&m_payment_id=7&passphrase=secret" := by
  have hsorted : sortParams paid.entries = paid.entries :=
    List.mergeSort_of_pairwise (by decide +kernel)
  unfold baseString pairsText
  rw [hsorted]
  decide +kernel

theorem baseString_merged :
    baseString merged.entries (some "secret") =
      "amount=10.00&m_payment_id=7&passphrase=secret" := by
  have hsorted : sortParams merged.entries = merged.entries := List.mergeSort_singleton _
  unfold baseString pairsText
  rw [hsorted]
  decide +kernel

-- The digest of the payment's own text, with the texts themselves for all others.
def digest (text : String) : String :=
  if text = "amount=10.00&m_payment_id=7&passphrase=secret" then "1ec1753db5591106a8285ba608bcb76a"
  else "#" ++ text

theorem digest_injective : Function.Injective digest := by
  have hmark (text : String) : "#" ++ text ≠ "1ec1753db5591106a8285ba608bcb76a" := by
    intro h
    have hhead := congrArg (fun text => text.toList.head?) h
    rw [String.toList_append] at hhead
    cases hhead
  intro text text' h
  unfold digest at h
  split at h <;> split at h
  next htext htext' => exact htext.trans htext'.symm
  next => exact absurd h.symm (hmark _)
  next => exact absurd h (hmark _)
  next => exact String.append_right_inj "#" |>.mp h

def notified : Params := paid.set "signature" "1ec1753db5591106a8285ba608bcb76a"

theorem payment_determined_by_signature :
    (notified.erase "signature").lookup "amount" = paid.lookup "amount" := by
  have hdigest : digest (baseString paid.entries (some "secret")) =
      "1ec1753db5591106a8285ba608bcb76a" := if_pos baseString_paid
  refine (base_string_determines_parameters digest digest_injective (some "secret") paid notified
    (by decide +kernel) (by decide +kernel)).2 ?_ ?_ "amount"
  · rw [hdigest]
    decide +kernel
  · have herased : (notified.erase "signature").entries = paid.entries := by decide +kernel
    have hverify : verifySignature digest notified (some "secret") =
        compareDigest (digest (baseString (notified.erase "signature").entries (some "secret")))
          "1ec1753db5591106a8285ba608bcb76a" := rfl
    rw [hverify, herased, hdigest]
    decide +kernel

-- No blank value comes out of a decoded form; its keys may hold any character.
def FormDecoded (params : Params) : Prop :=
  ∀ entry ∈ params.entries, entry.2 ≠ ""

instance : Decidable (FormDecoded params) := inferInstanceAs (Decidable (∀ _ ∈ _, _))

theorem merged_parameters_signed_alike :
    ¬ ∀ (passphrase : Option String) (params params' : Params),
      FormDecoded params → FormDecoded params' →
      baseString params.entries passphrase = baseString params'.entries passphrase →
      ∀ key, params.lookup key = params'.lookup key := by
  intro h
  have hlookup := h (some "secret") paid merged (by decide +kernel) (by decide +kernel)
    (baseString_paid.trans baseString_merged.symm) "amount"
  revert hlookup
  decide +kernel

end NextgenBackend.Payfast
