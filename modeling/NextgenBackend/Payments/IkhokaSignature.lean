import NextgenBackend.Library.Json.Values

namespace NextgenBackend.IkhokaSignature

open Json

-- A digest is known by its key and by the text it is of.
inductive Signature where
  | hexdigest (appSecret payload : List Char)
  | text (chars : List Char)
deriving DecidableEq

-- Without a secret nothing is signed or accepted.
structure AppSecret where
  text : List Char
  configured : text ≠ []

structure Platform where
  limits : Limits
  encoderDepth : ℕ
  -- The texts of bytes that are not in UTF-8.
  otherEncodings : List UInt8 → Option (List Char)

def escapeQuotes (compactBody : List Char) : List Char :=
  compactBody.flatMap fun c => if c = '"' then ['\\', '"'] else [c]

def sign (path compactBody appSecret : List Char) : Signature :=
  .hexdigest appSecret (path ++ escapeQuotes compactBody)

-- `none` is the TypeError of `compare_digest` on a text that is not ASCII.
def compareDigest (expected : Signature) : Signature → Option Bool
  | .hexdigest appSecret payload => some (expected = .hexdigest appSecret payload)
  | .text chars => if chars.all (·.toNat < 128) then some false else none

def byteOrderMarks : List (List UInt8) :=
  [[0, 0, 0xfe, 0xff], [0xff, 0xfe], [0xfe, 0xff], [0xef, 0xbb, 0xbf]]

-- No byte order mark, and none of the zeros that the wider encodings put between ASCII characters.
def detectsUtf8 (raw : List UInt8) : Bool :=
  !byteOrderMarks.any (·.isPrefixOf raw) &&
    (raw.length < 4 && raw.length ≠ 2 || raw[0]? ≠ some 0 && raw[1]? ≠ some 0)

section Verify

variable (p : Platform)

def bodyText (raw : List UInt8) : Option (List Char) :=
  if detectsUtf8 raw then
    ((String.fromUTF8? ⟨raw.toArray⟩).map String.toList).or (p.otherEncodings raw)
  else p.otherEncodings raw

def loads (raw : List UInt8) : Option Value :=
  (bodyText p raw).bind fun text => (read p.limits text).toOption.map Tree.value

def dumps (value : Value) : Option (List Char) :=
  if value.tree.depth ≤ p.encoderDepth then some value.tree.text else none

def compact (rawBody : List UInt8) : Option (List Char) := (loads p rawBody).bind (dumps p)

def verifySignature (rawBody : List UInt8) (ikSign : Signature) (appSecret callbackPath : List Char) :
    Option Bool :=
  if ikSign = .text [] ∨ appSecret = [] then some false
  else
    match compact p rawBody with
    | none => some false
    | some compact => compareDigest (sign callbackPath compact appSecret) ikSign

end Verify

variable {p : Platform} {path key body body' : List Char} {secret : AppSecret}
  {rawBody : List UInt8} {t : Tree}

theorem escapeQuotes_cons {c : Char} : escapeQuotes (c :: body) =
    (if c = '"' then ['\\', '"'] else [c]) ++ escapeQuotes body := List.flatMap_cons

-- A quote never comes without the backslash before it.
theorem escapeQuotes_ne_quote : escapeQuotes body ≠ '"' :: body' := by
  cases body with
  | nil => exact fun h => nomatch h
  | cons c body =>
      rw [escapeQuotes_cons]
      split
      next => exact fun h => absurd (List.cons.inj h).1 (by decide)
      next hc => exact fun h => hc (List.cons.inj h).1

theorem escapeQuotes_injective : Function.Injective escapeQuotes := by
  intro body body' h
  induction body generalizing body' with
  | nil =>
      cases body' with
      | nil => rfl
      | cons c body' =>
          rw [escapeQuotes_cons] at h
          split at h <;> cases h
  | cons c body ih =>
      cases body' with
      | nil =>
          rw [escapeQuotes_cons] at h
          split at h <;> cases h
      | cons d body' =>
          rw [escapeQuotes_cons, escapeQuotes_cons] at h
          split at h <;> split at h
          next hc hd =>
            rw [hc, hd, ih (List.append_cancel_left h)]
          next => exact absurd (List.cons.inj h).2.symm escapeQuotes_ne_quote
          next => exact absurd (List.cons.inj h).2 escapeQuotes_ne_quote
          next =>
            obtain ⟨hcd, hrest⟩ := List.cons.inj h
            rw [hcd, ih hrest]

theorem sign_inj : sign path body key = sign path body' key ↔ body = body' := by
  refine ⟨fun h => escapeQuotes_injective ?_, fun h => h ▸ rfl⟩
  exact List.append_cancel_left (Signature.hexdigest.inj h).2

theorem verifySignature_sign :
    verifySignature p rawBody (sign path body secret.text) secret.text path = some true ↔
      compact p rawBody = some body := by
  unfold verifySignature
  have hset : ¬ (sign path body secret.text = .text [] ∨ secret.text = []) :=
    not_or.mpr ⟨nofun, secret.configured⟩
  rw [if_neg hset]
  split
  next hnone => simp [hnone]
  next compact hcompact =>
    change some (decide (sign path compact secret.text = sign path body secret.text)) = _ ↔ _
    rw [Option.some_inj, decide_eq_true_eq, sign_inj, hcompact, Option.some_inj]

theorem loads_of_fits (hvalid : t.Valid) (hraw : bodyText p rawBody = some t.text)
    (hfits : t.Fits p.limits) : loads p rawBody = some t.value := by
  rw [loads, hraw, Option.bind_some, read_text hvalid hfits]
  rfl

theorem fits_of_loads {value : Value} (hvalid : t.Valid) (hraw : bodyText p rawBody = some t.text)
    (h : loads p rawBody = some value) : t.Fits p.limits := by
  obtain ⟨limits, hfits⟩ := exists_fits t
  rw [loads, hraw, Option.bind_some] at h
  cases hread : read p.limits t.text with
  | error e =>
      rw [hread] at h
      cases h
  | ok u => exact ((read_iff (read_text hvalid hfits)).mp hread).2

theorem compact_eq (hvalid : t.Valid) (hraw : bodyText p rawBody = some t.text) :
    compact p rawBody = some t.text ↔
      t.Canonical ∧ t.Fits p.limits ∧ t.depth ≤ p.encoderDepth := by
  constructor
  · intro h
    obtain ⟨value, hloads, hdumps⟩ := Option.bind_eq_some_iff.mp h
    have hfits := fits_of_loads hvalid hraw hloads
    obtain rfl := Option.some.inj ((loads_of_fits hvalid hraw hfits).symm.trans hloads)
    unfold dumps at hdumps
    split at hdumps
    next hdepth =>
      have hcanonical := (text_value_eq_iff hvalid).mp (Option.some.inj hdumps)
      rw [(tree_value_eq_iff hvalid).mpr hcanonical] at hdepth
      exact ⟨hcanonical, hfits, hdepth⟩
    next => cases hdumps
  · rintro ⟨hcanonical, hfits, hdepth⟩
    rw [compact, loads_of_fits hvalid hraw hfits, Option.bind_some, dumps,
      (tree_value_eq_iff hvalid).mpr hcanonical, if_pos hdepth]

theorem callback_accepted_iff (p : Platform) (secret : AppSecret) (callbackPath : List Char) :
    (∀ (t : Tree) (rawBody : List UInt8), t.Valid → bodyText p rawBody = some t.text →
      (verifySignature p rawBody (sign callbackPath t.text secret.text) secret.text callbackPath =
          some true ↔
        t.Canonical ∧ t.Fits p.limits ∧ t.depth ≤ p.encoderDepth)) ∧
    ∀ (rawBody : List UInt8) (signed : List Char),
      verifySignature p rawBody (sign callbackPath signed secret.text) secret.text callbackPath =
        some true → compact p rawBody = some signed :=
  ⟨fun _ _ hvalid hraw => verifySignature_sign.trans (compact_eq hvalid hraw),
    fun _ _ h => verifySignature_sign.mp h⟩

section Callbacks

def utf8 (text : List Char) : List UInt8 := (String.ofList text).toUTF8.data.toList

theorem bodyText_utf8 {text : List Char} (h : detectsUtf8 (utf8 text)) :
    bodyText p (utf8 text) = some text := by
  have hbytes : String.fromUTF8? ⟨(utf8 text).toArray⟩ = some (String.ofList text) := by
    rw [utf8, Array.toArray_toList]
    exact dif_pos (String.ofList text).isValidUTF8
  rw [bodyText, if_pos h, hbytes, Option.map_some, String.toList_ofList]
  rfl

def python : Platform := ⟨⟨1000, 4300⟩, 1000, fun _ => none⟩

def appSecret : AppSecret := ⟨"s3cret".toList, by decide⟩

def callbackPath : List Char := "/v1/payments/webhooks/ikhoka/7".toList

-- {"status":"SUCCESS","amount":100}
def paid : Tree :=
  .object [("status".toList.map .plain, .string ("SUCCESS".toList.map .plain)),
    ("amount".toList.map .plain, .number "100".toList)]

theorem paid_callback_accepted :
    verifySignature python (utf8 paid.text) (sign callbackPath paid.text appSecret.text)
      appSecret.text callbackPath = some true := by
  have hraw : bodyText python (utf8 paid.text) = some paid.text := bodyText_utf8 (by decide +kernel)
  refine ((callback_accepted_iff python appSecret callbackPath).1 paid _ ?_ hraw).mpr ?_
  · decide +kernel
  · exact ⟨by decide +kernel, by decide +kernel, by decide⟩

-- {"payer":"Zoë"}
def accented : Tree :=
  .object [("payer".toList.map .plain, .string ("Zoë".toList.map .plain))]

theorem accented_callback_rejected :
    accented.Valid ∧ bodyText python (utf8 accented.text) = some accented.text ∧
      verifySignature python (utf8 accented.text) (sign callbackPath accented.text appSecret.text)
        appSecret.text callbackPath ≠ some true := by
  have hvalid : accented.Valid := by decide +kernel
  have hraw : bodyText python (utf8 accented.text) = some accented.text :=
    bodyText_utf8 (by decide +kernel)
  refine ⟨hvalid, hraw, fun h => ?_⟩
  obtain ⟨hcanonical, -⟩ := (compact_eq hvalid hraw).mp (verifySignature_sign.mp h)
  exact absurd hcanonical (by decide +kernel)

end Callbacks

end NextgenBackend.IkhokaSignature
