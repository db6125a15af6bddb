import NextgenBackend.Bot.CartCorrections
import NextgenBackend.Library.Pattern.Outline

namespace NextgenBackend.Bot.Confirmations

open Allocation (following isNegation shortReply)
open Corrections (cartCorrection isCartCorrection)
open Detectors (any anyOf dont gap gaps lit said saidThen)
open Pattern

def noThisIs : Pattern := inOrder [
  .start, lit "no", opt (.char [',', '.'].contains), gap, anyOf [["this"], ["that"]], gap,
  lit "is", gap,
  anyOf [["correct"], ["right"], ["fine"], ["good"], ["perfect"], ["the", "correct", "order"],
    ["the", "right", "order"], ["what", "i", "want"], ["my", "order"]],
  gaps, .many (.char ['.', '!'].contains), .finish]

-- An apostrophe is written in many ways or not at all.
def thats (phrases : List (List String)) : Pattern :=
  inOrder [lit "that", opt any, lit "s", gap, anyOf phrases]

def core : Pattern := oneOf [
  anyOf [["yes"], ["yep"], ["yeah"], ["yah"], ["ya"], ["yebo"], ["ja"], ["jah"],
    ["sure", "thing"], ["sure"], ["sharp"], ["sho"], ["confirm"], ["confirmed"], ["correct"],
    ["looks", "good"], ["perfect"], ["lekker"], ["100"], ["right"], ["cool"], ["ok"], ["okay"],
    ["done"], ["place", "it"], ["send", "it"], ["go", "ahead"]],
  inOrder [lit "let", opt any, lit "s", gap, lit "go"],
  anyOf [["do", "it"], ["sounds", "good"], ["all", "good"], ["proceed"], ["carry", "on"]],
  thats [["it"], ["all"], ["correct"], ["right"], ["fine"], ["good"], ["my", "order"],
    ["the", "order"], ["what", "i", "want"]],
  .seq (saidThen ["that", "is"])
    (anyOf [["correct"], ["right"], ["fine"], ["good"], ["it"], ["my", "order"]]),
  .seq (saidThen ["this", "is"])
    (anyOf [["correct"], ["right"], ["fine"], ["good"], ["my", "order"],
      ["the", "correct", "order"], ["the", "right", "order"]]),
  inOrder [saidThen ["place"], opt (saidThen ["the"]), lit "order"],
  inOrder [saidThen ["confirm"], opt (saidThen ["the"]), lit "order"],
  .seq (saidThen ["go", "ahead"])
    (opt (.seq (saidThen ["with"]) (anyOf [["it"], ["that"], ["the", "order"]])))]

def trailing : Pattern := .many (.seq gap (oneOf [
  anyOf [["please"], ["thanks"], ["thank", "you"], ["bru"], ["man"], ["mate"], ["now"], ["china"],
    ["sure", "thing"], ["great"], ["awesome"], ["for", "sure"], ["shot"], ["confirm"],
    ["confirmed"], ["proceed"], ["place"], ["order"], ["my", "order"], ["the", "order"], ["it"],
    ["correct"], ["right"], ["fine"], ["good"]],
  thats [["correct"], ["right"], ["fine"], ["good"], ["it"]],
  anyOf [["delivery"], ["for", "delivery"], ["pickup"], ["for", "pickup"], ["collection"],
    ["for", "collection"]]]))

def confirmations : Pattern := inOrder [
  .start, core, trailing, gaps, .many (.char [',', '!', '.'].contains), .finish]

-- A reply that is made up of these words and of what ends a sentence.
def wholeReply (r : Pattern) : Pattern := inOrder [
  .start, r, gaps, .many (.char fun c => [',', '!', '.', '?'].contains c), .finish]

def edits : Pattern := wholeReply (oneOf [
  anyOf ([["no"], ["nah"], ["nope"]] ++
    following "no" [["thanks"], ["thank", "you"], ["please"], ["ta"], ["man"], ["bru"], ["more"]] ++
    following "nah" [["thanks"], ["thank", "you"], ["please"], ["man"], ["bru"]] ++
    following "not" [["quite"], ["exactly"], ["really"]] ++
    [["wait"], ["hold", "on"], ["not", "yet"], ["not", "now"], ["hang", "on"]] ++
    following "one" [["sec"], ["second"], ["mo"], ["moment"]] ++
    [["just", "a", "sec"], ["just", "a", "moment"], ["actually"]]),
  inOrder [lit "i", opt any, opt (lit "d"), gap, anyOf [["like"], ["want"]], gap, lit "to", gap,
    anyOf [["change"], ["edit"], ["adjust"], ["modify"]], opt (.seq gap (lit "something"))],
  .seq (saidThen ["let", "me"]) (anyOf [["change"], ["reconsider"], ["think"]])])

def cancels : Pattern := wholeReply (oneOf [
  anyOf [["actually", "no"], ["no", "actually"]],
  inOrder [lit "i", gap, anyOf [["changed"], ["change"]], gap, said ["my", "mind"]],
  inOrder [lit "i", gap, dont, gap, said ["want", "it"], opt (.seq gap (lit "anymore"))]])

section Replies

variable (text : Cart.Text)

def reads (r : Pattern) (msg : String) : Bool :=
  (matchAt Text.isWordChar r [] (text.strip msg).toList).isSome

def isConfirmation (msg : String) : Bool := reads text noThisIs msg || reads text confirmations msg

def isOrderEdit (msg : String) : Bool := reads text edits msg

def isOrderCancel (msg : String) : Bool := reads text cancels msg

-- What a handler takes a reply for.
inductive Taken where
  | placed
  | cancelled
  | edited
  | corrected
  | other
deriving DecidableEq

-- The replies of a customer who is asked to confirm an order.
def confirmingOrder (msg : String) : Taken :=
  if isConfirmation text msg then .placed
  else if isOrderCancel text msg then .cancelled
  else if isOrderEdit text msg then .edited
  else if isCartCorrection text msg then .corrected
  else .other

-- The replies of a customer who is asked to accept a delivery fee.
def waitingDeliveryFee (msg : String) : Taken :=
  if isConfirmation text msg then .placed
  else if isNegation text msg then .cancelled
  else .other

def refused (msg : String) : Bool :=
  isNegation text msg || isOrderEdit text msg || isOrderCancel text msg || isCartCorrection text msg

-- The tests of a reply, in the order in which they are made.
def firstTaken (tests : List ((String → Bool) × Taken)) (msg : String) : Taken :=
  ((tests.find? fun test => test.1 msg).map (·.2)).getD .other

def confirmingTests : List ((String → Bool) × Taken) := [
  (isConfirmation text, .placed), (isOrderCancel text, .cancelled), (isOrderEdit text, .edited),
  (isCartCorrection text, .corrected)]

def feeTests : List ((String → Bool) × Taken) := [
  (isConfirmation text, .placed), (isNegation text, .cancelled)]

end Replies

-- Letters are read in either case, and all white space alike.
def symbol (c : Char) : Char :=
  if Text.isSpace (Normalizer.fold c) then ' ' else Normalizer.fold c

def symbolOf (d : Char) : Char := if Text.isSpace d then ' ' else d

theorem isSpace_fold {c : Char} (h : Text.isSpace c = true) :
    Text.isSpace (Normalizer.fold c) = true := by
  have hpoints : ∀ n ∈ Text.spacePoints,
      Text.isSpace (Normalizer.fold (Char.ofNat n)) = true := by decide +kernel
  rw [← Char.ofNat_toNat c]
  exact hpoints c.toNat (Text.mem_spacePoints h)

section Outlines

instance {d : Char} : Outlined Text.isWordChar symbol (.char fun c => Normalizer.fold c = d) :=
  .ofChar (some [symbolOf d]) fun _ hc _ hsymbols => by
    obtain rfl := Option.some.inj hsymbols
    rw [← of_decide_eq_true hc]
    exact List.mem_singleton_self _

@[reducible]
def outlinedSpelled : (ds : List Char) →
    Outlined Text.isWordChar symbol (spelled Normalizer.fold ds)
  | [] => inferInstanceAs (Outlined _ _ .empty)
  | d :: ds =>
      have := outlinedSpelled ds
      inferInstanceAs (Outlined _ _ (.seq (.char fun c => Normalizer.fold c = d)
        (spelled Normalizer.fold ds)))

instance {s : String} : Outlined Text.isWordChar symbol (lit s) := outlinedSpelled s.toList

instance : Outlined Text.isWordChar symbol (.char Text.isSpace) :=
  .ofChar (some [' ']) fun _ hc _ hsymbols => by
    obtain rfl := Option.some.inj hsymbols
    rw [symbol, if_pos (isSpace_fold hc)]
    exact List.mem_singleton_self _

instance : Outlined Text.isWordChar symbol gap :=
  inferInstanceAs (Outlined _ _ (plus (.char Text.isSpace)))

instance : Outlined Text.isWordChar symbol gaps :=
  inferInstanceAs (Outlined _ _ (.many (.char Text.isSpace)))

instance : Outlined Text.isWordChar symbol any := .ofChar none fun _ _ => nofun

instance : Outlined Text.isWordChar symbol (.char Text.isDigit) := .ofChar none fun _ _ => nofun

@[reducible]
def outlinedSaid : (ws : List String) → Outlined Text.isWordChar symbol (said ws)
  | [] => inferInstanceAs (Outlined _ _ .empty)
  | [w] => inferInstanceAs (Outlined _ _ (lit w))
  | w :: v :: ws =>
      match ws, outlinedSaid (v :: ws) with
      | [], _ => inferInstanceAs (Outlined _ _ (.seq (lit w) (.seq gap (said [v]))))
      | u :: ws, _ => inferInstanceAs (Outlined _ _ (.seq (lit w) (.seq gap (said (v :: u :: ws)))))

instance {ws : List String} : Outlined Text.isWordChar symbol (said ws) := outlinedSaid ws

instance {ws : List String} : Outlined Text.isWordChar symbol (saidThen ws) :=
  inferInstanceAs (Outlined _ _ (.seq (said ws) gap))

@[reducible]
def outlinedChoice (phrase : List String → Pattern)
    [(ws : List String) → Outlined Text.isWordChar symbol (phrase ws)] :
    (phrases : List (List String)) → Outlined Text.isWordChar symbol (oneOf (phrases.map phrase))
  | [] => inferInstanceAs (Outlined _ _ (.notBefore .empty))
  | [ws] => inferInstanceAs (Outlined _ _ (phrase ws))
  | ws :: vs :: phrases =>
      have := outlinedChoice phrase (vs :: phrases)
      inferInstanceAs (Outlined _ _ (.alt (phrase ws) (oneOf ((vs :: phrases).map phrase))))

instance {phrases : List (List String)} : Outlined Text.isWordChar symbol (anyOf phrases) :=
  outlinedChoice said phrases

instance {phrases : List (List String)} :
    Outlined Text.isWordChar symbol (Detectors.anyThen phrases) :=
  outlinedChoice saidThen phrases

instance {phrases : List (List String)} : Outlined Text.isWordChar symbol (thats phrases) := by
  unfold thats
  infer_instance

instance : Outlined Text.isWordChar symbol dont := by
  unfold dont
  infer_instance

instance : Filled Text.isWordChar symbol noThisIs := by
  unfold noThisIs
  infer_instance

instance : Outlined Text.isWordChar symbol core := by
  unfold core
  infer_instance

instance : Outlined Text.isWordChar symbol trailing := by
  unfold trailing
  infer_instance

instance : Filled Text.isWordChar symbol confirmations := by
  unfold confirmations
  infer_instance

instance {r : Pattern} [Outlined Text.isWordChar symbol r] :
    Filled Text.isWordChar symbol (wholeReply r) := by
  unfold wholeReply
  infer_instance

instance : Filled Text.isWordChar symbol edits := by
  unfold edits
  infer_instance

instance : Filled Text.isWordChar symbol cancels := by
  unfold cancels
  infer_instance

instance : Filled Text.isWordChar symbol (shortReply Allocation.negations) :=
  inferInstanceAs (Filled _ _ (wholeReply (anyOf Allocation.negations)))

instance : Outlined Text.isWordChar symbol Corrections.amongAll := by
  unfold Corrections.amongAll
  infer_instance

instance {marks : List Char} : Outlined Text.isWordChar symbol (Corrections.noThen marks) := by
  unfold Corrections.noThen
  infer_instance

instance : Outlined Text.isWordChar symbol cartCorrection := by
  unfold cartCorrection
  infer_instance

end Outlines

section Disjoint

open Outline

-- What is left of one reply after every beginning of another never ends with it.
theorem apart_noThisIs :
    let confirms := Filled.outline Text.isWordChar symbol noThisIs
    apart 100 confirms (Filled.outline Text.isWordChar symbol (shortReply Allocation.negations)) ∧
      apart 100 confirms (Filled.outline Text.isWordChar symbol edits) ∧
      apart 100 confirms (Filled.outline Text.isWordChar symbol cancels) ∧
      apart 100 confirms (Outlined.outline Text.isWordChar symbol cartCorrection).within := by
  decide +kernel

theorem apart_confirmations :
    let confirms := Filled.outline Text.isWordChar symbol confirmations
    apart 100 confirms (Filled.outline Text.isWordChar symbol (shortReply Allocation.negations)) ∧
      apart 100 confirms (Filled.outline Text.isWordChar symbol edits) ∧
      apart 100 confirms (Filled.outline Text.isWordChar symbol cancels) ∧
      apart 100 confirms (Outlined.outline Text.isWordChar symbol cartCorrection).within := by
  decide +kernel

variable {text : Cart.Text} {msg : String}

theorem not_refused_of_reads {r : Pattern} [a : Filled Text.isWordChar symbol r]
    (hnegation : apart 100 a.outline
      (Filled.outline Text.isWordChar symbol (shortReply Allocation.negations)))
    (hedit : apart 100 a.outline (Filled.outline Text.isWordChar symbol edits))
    (hcancel : apart 100 a.outline (Filled.outline Text.isWordChar symbol cancels))
    (hcorrection : apart 100 a.outline
      (Outlined.outline Text.isWordChar symbol cartCorrection).within)
    (h : reads text r msg = true) : refused text msg = false := by
  have hneg : isNegation text msg = false := not_matchAt_of_apart hnegation h
  have hed : isOrderEdit text msg = false := not_matchAt_of_apart hedit h
  have hcan : isOrderCancel text msg = false := not_matchAt_of_apart hcancel h
  have hcor : isCartCorrection text msg = false := not_search_of_apart hcorrection h
  rw [refused, hneg, hed, hcan, hcor]
  rfl

theorem not_refused_of_isConfirmation (h : isConfirmation text msg = true) :
    refused text msg = false := by
  rcases Bool.or_eq_true_iff.mp h with h | h
  · obtain ⟨hnegation, hedit, hcancel, hcorrection⟩ := apart_noThisIs
    exact not_refused_of_reads hnegation hedit hcancel hcorrection h
  · obtain ⟨hnegation, hedit, hcancel, hcorrection⟩ := apart_confirmations
    exact not_refused_of_reads hnegation hedit hcancel hcorrection h

end Disjoint

section Handlers

variable {text : Cart.Text} {msg : String} {tests : List ((String → Bool) × Taken)}

theorem firstTaken_cons (p : String → Bool) (taken : Taken) :
    firstTaken ((p, taken) :: tests) msg = if p msg then taken else firstTaken tests msg := by
  unfold firstTaken
  cases h : p msg <;> simp [h]

theorem confirmingOrder_eq : confirmingOrder text msg = firstTaken (confirmingTests text) msg := by
  rw [confirmingTests, firstTaken_cons, firstTaken_cons, firstTaken_cons, firstTaken_cons]
  rfl

theorem waitingDeliveryFee_eq : waitingDeliveryFee text msg = firstTaken (feeTests text) msg := by
  rw [feeTests, firstTaken_cons, firstTaken_cons]
  rfl

-- A test that finds a confirmation, or one that finds no more than a refusal.
def Sound (text : Cart.Text) (msg : String) (test : (String → Bool) × Taken) : Prop :=
  test = (isConfirmation text, .placed) ∨
    test.2 ≠ .placed ∧ (test.1 msg = true → refused text msg = true)

theorem refused_iff : refused text msg = true ↔ isNegation text msg = true ∨
    isOrderEdit text msg = true ∨ isOrderCancel text msg = true ∨
      isCartCorrection text msg = true := by
  rw [refused, Bool.or_eq_true_iff, Bool.or_eq_true_iff, Bool.or_eq_true_iff, or_assoc, or_assoc]

theorem sound_confirmingTests : ∀ test ∈ confirmingTests text, Sound text msg test := by
  intro test htest
  simp only [confirmingTests, List.mem_cons, List.not_mem_nil, or_false] at htest
  rcases htest with rfl | rfl | rfl | rfl
  · exact .inl rfl
  · exact .inr ⟨nofun, fun h => refused_iff.mpr (.inr (.inr (.inl h)))⟩
  · exact .inr ⟨nofun, fun h => refused_iff.mpr (.inr (.inl h))⟩
  · exact .inr ⟨nofun, fun h => refused_iff.mpr (.inr (.inr (.inr h)))⟩

theorem sound_feeTests : ∀ test ∈ feeTests text, Sound text msg test := by
  intro test htest
  simp only [feeTests, List.mem_cons, List.not_mem_nil, or_false] at htest
  rcases htest with rfl | rfl
  · exact .inl rfl
  · exact .inr ⟨nofun, fun h => refused_iff.mpr (.inl h)⟩

theorem isConfirmation_of_placed (hsound : ∀ test ∈ tests, Sound text msg test)
    (h : firstTaken tests msg = .placed) : isConfirmation text msg = true := by
  induction tests with
  | nil => cases h
  | cons test tests ih =>
      obtain ⟨p, taken⟩ := test
      rw [firstTaken_cons] at h
      split at h
      next hp =>
        rcases hsound _ List.mem_cons_self with heq | ⟨hne, -⟩
        · obtain ⟨rfl, -⟩ := Prod.mk.inj heq
          exact hp
        · exact absurd h hne
      next => exact ih (fun test htest => hsound test (List.mem_cons_of_mem _ htest)) h

theorem placed_of_isConfirmation (hmem : (isConfirmation text, .placed) ∈ tests)
    (hsound : ∀ test ∈ tests, Sound text msg test) (h : isConfirmation text msg = true) :
    firstTaken tests msg = .placed := by
  induction tests with
  | nil => cases hmem
  | cons test tests ih =>
      obtain ⟨p, taken⟩ := test
      rw [firstTaken_cons]
      rcases hsound _ List.mem_cons_self with heq | ⟨hne, hrefused⟩
      · obtain ⟨rfl, rfl⟩ := Prod.mk.inj heq
        exact if_pos h
      · have htail : (isConfirmation text, .placed) ∈ tests :=
          (List.mem_cons.mp hmem).resolve_left fun heq => hne (congrArg Prod.snd heq).symm
        cases hp : p msg with
        | false => exact ih htail fun test htest => hsound test (List.mem_cons_of_mem _ htest)
        | true =>
            have hnot := not_refused_of_isConfirmation h
            rw [hrefused hp] at hnot
            cases hnot

-- Whatever the order of the tests, they find the same confirmations.
theorem perm_placed_iff {others : List ((String → Bool) × Taken)}
    (hmem : (isConfirmation text, .placed) ∈ tests)
    (hsound : ∀ test ∈ tests, Sound text msg test) (h : others.Perm tests) :
    firstTaken others msg = .placed ↔ isConfirmation text msg = true := by
  have hothers : ∀ test ∈ others, Sound text msg test := fun test htest =>
    hsound test (h.mem_iff.mp htest)
  exact ⟨isConfirmation_of_placed hothers, placed_of_isConfirmation (h.mem_iff.mpr hmem) hothers⟩

theorem confirmations_never_refused (text : Cart.Text) (msg : String) :
    (isConfirmation text msg &&
        (isNegation text msg || isOrderEdit text msg || isOrderCancel text msg ||
          isCartCorrection text msg)) = false ∧
      ¬ (confirmingOrder text msg = .placed ∧ refused text msg = true) ∧
      ¬ (waitingDeliveryFee text msg = .placed ∧ refused text msg = true) ∧
      (∀ tests, tests.Perm (confirmingTests text) →
        (firstTaken tests msg = .placed ↔ confirmingOrder text msg = .placed)) ∧
      ∀ tests, tests.Perm (feeTests text) →
        (firstTaken tests msg = .placed ↔ waitingDeliveryFee text msg = .placed) := by
  have hnot : ¬ (isConfirmation text msg = true ∧ refused text msg = true) := by
    rintro ⟨h, hrefused⟩
    rw [not_refused_of_isConfirmation h] at hrefused
    cases hrefused
  have hconfirming {tests : List ((String → Bool) × Taken)} (h : tests.Perm (confirmingTests text)) :
      firstTaken tests msg = .placed ↔ isConfirmation text msg = true :=
    perm_placed_iff List.mem_cons_self sound_confirmingTests h
  have hfee {tests : List ((String → Bool) × Taken)} (h : tests.Perm (feeTests text)) :
      firstTaken tests msg = .placed ↔ isConfirmation text msg = true :=
    perm_placed_iff List.mem_cons_self sound_feeTests h
  refine ⟨?_, ?_, ?_, fun tests htests => ?_, fun tests htests => ?_⟩
  · rw [Bool.and_eq_false_iff, ← Bool.not_eq_true, ← Bool.not_eq_true, ← not_and_or]
    exact hnot
  · rw [confirmingOrder_eq, hconfirming .rfl]
    exact hnot
  · rw [waitingDeliveryFee_eq, hfee .rfl]
    exact hnot
  · rw [confirmingOrder_eq, hconfirming htests, hconfirming .rfl]
  · rw [waitingDeliveryFee_eq, hfee htests, hfee .rfl]

end Handlers

end NextgenBackend.Bot.Confirmations
