import NextgenBackend.Bot.LineEdits
import NextgenBackend.Bot.RecognisedItems

namespace NextgenBackend.Bot.Corrections

open Allocation (PendingAllocation addAll askVariantFamily)
open Extraction (AddOns Entry Letters PendingOption extractItemsFromMessage
  getMissingRequiredGroups place readMessage withOptions)
open Llm (AddEntry Conversation Json Outcome ParsedLlmResponse Platform PyError Shop applyAdd
  applyReplace applyResponse joined parseLlmResponse pendingOf readAdd readRemove readReplace
  unmatchedText)
open Pattern
open Detectors (anyOf anyThen gap lit said saidThen)

-- The keys of the order that are kept beside the cart and the questions about items.
structure Checkout where
  orderMode : Option OrderMode := none
  pendingOrderId : Option Uuid := none
  deliveryFeeCents : Option Cents := none
  deliveryFeeStatus : Option DeliveryFeeStatus := none
  paymentMethod : Option ChosenPayment := none
  supersededOrderId : Option Uuid := none
  orderNotesAsked : Bool := false
  orderNotes : Option (Option String) := none

structure Session where
  conversation : Conversation
  pendingVariantAllocation : Option PendingAllocation
  checkout : Checkout

-- The cart is cleared before it is rebuilt.
def Session.cleared (s : Session) : Session where
  conversation := { state := .buildingCart, cart := [] }
  pendingVariantAllocation := s.pendingVariantAllocation
  checkout := {}

section Sizes

variable (text : Cart.Text)

def sizeKeywords : List String := [
  "small", "medium", "large", "regular", "xl", "xxl", "mini",
  "sm", "md", "lg", "half", "full", "single", "double"]

def sizeWords : Pattern := inOrder [
  .boundary, anyOf [["small"], ["medium"], ["large"]], .boundary]

def baseParts (item : MenuItem) : List String :=
  (text.words (text.lower item.name)).filter fun w => !sizeKeywords.contains w

-- Most of the longer words of the name stand in the message.
def mentioned (base msgWords : List String) : Bool :=
  let significant := base.filter fun w => 3 < w.length
  significant ≠ [] && 4 * significant.length ≤ 5 * (significant.filter msgWords.contains).length

def claimedByOther (msgLower base : String) (variants active : List MenuItem) : Bool :=
  active.any fun other => Cart.contains (text.lower other.name) base &&
    !(variants.any fun v => v.id = other.id) && Cart.contains msgLower (text.lower other.name)

def findSizeVariants (msgText : String) (menuItems : List MenuItem) :
    Option (String × List MenuItem) :=
  let active := menuItems.filter Llm.isActive
  let msgLower := text.lower msgText
  let variants := fun base => active.filter fun item => baseParts text item = base
  if (text.words msgLower).any sizeKeywords.contains then none
  else
    (((active.map (baseParts text)).filter (· ≠ [])).eraseDups.find? fun base =>
      2 ≤ (variants base).length && mentioned base (text.words msgLower) &&
        !claimedByOther text msgLower (" ".intercalate base) (variants base) active).map
      fun base => (" ".intercalate base, variants base)

end Sizes

def amongAll : Pattern := inOrder [gap, lit "of", gap, anyOf [["each"], ["every"]]]

def onlyThat : List (List String) := [["only", "want"], ["just", "want"], ["want", "only"]]

def noThen (marks : List Char) : Pattern :=
  inOrder [lit "no", opt (.char marks.contains), gap]

-- The whole order is said again.
def cartCorrection : Pattern := oneOf [
  inOrder [opt (saidThen ["i"]), anyOf onlyThat, gap, anyOf [["one"], ["1"], ["a", "single"]],
    amongAll],
  inOrder [opt (noThen [',', '.']), opt (saidThen ["just"]), anyOf [["one"], ["1"]], amongAll],
  inOrder [noThen [',', '.'], anyOf [["one"], ["1"]], amongAll],
  inOrder [anyOf [["actually"], ["no"]], opt (.char [',', '!'].contains), gap,
    opt (saidThen ["i"]), anyOf [["only", "want"], ["want", "only"], ["just", "want"]]],
  said ["make", "it", "just"],
  said ["make", "it", "only"],
  .seq (noThen [',', '.']) (said ["it", "must", "be"]),
  said ["actually", "make", "it"],
  inOrder [.boundary, noThen [',', '.'], opt (saidThen ["i"]),
    anyThen [["want"], ["give", "me"]], opt (anyThen [["just"], ["only"]]),
    .notBefore (.seq (said ["to", "add"]) .boundary),
    oneOf [
      said ["a", "single"],
      .seq (lit "a") .boundary,
      .seq (lit "an") .boundary,
      anyOf [["one"], ["two"], ["three"], ["four"], ["five"], ["six"]],
      plus (.char Text.isDigit)]]]

def isCartCorrection (text : Cart.Text) (msg : String) : Bool :=
  (Detectors.found cartCorrection (text.strip msg)).isSome

def onlyWant : Pattern :=
  inOrder [.boundary, anyOf [["only", "want"], ["just", "want"]], .boundary]

def modSignal : Pattern := inOrder [
  .boundary,
  anyOf [["extra"], ["more"], ["less"], ["to", "add"], ["to", "remove"], ["also"], ["and", "add"]],
  .boundary]

-- The items that are named are the whole order.
def replacesOrder (letters : Letters) (menuItems : List MenuItem) (normText : String) : Bool :=
  (Detectors.found onlyWant normText).isSome && (Detectors.found modSignal normText).isNone &&
    match extractItemsFromMessage letters true normText.toList menuItems with
    | .ok matched => !matched.isEmpty
    | .error _ => false

def noteOf (specialInstructions : Option String) : Llm.Note :=
  specialInstructions.elim .none .text

def llmLine (line : Cart.Line) : Llm.Line where
  entry := line
  note := noteOf line.specialInstructions
  options := .null

def llmPending (pending : PendingOption) : Llm.Pending where
  name := .str pending.item.name
  quantity := .int pending.quantity
  options := .null
  specialInstructions := pending.specialInstructions.elim .null .str

def someOf {α : Type} (xs : List α) : Option (List α) := if xs.isEmpty then none else some xs

section Deterministic

variable (letters : Letters) (p : Platform) (sortOrder : OptionGroup → Int) (addOns : AddOns)
  (menuItems : List MenuItem) (s : Session) (normText : String)

-- The other items of the message that need no options.
def siblings : Except PyError (List Cart.NewItem) :=
  (readMessage letters menuItems normText).map fun entries =>
    (entries.filter fun entry =>
      getMissingRequiredGroups p.toText entry.item entry.modifier (some normText) = []).map
      (withOptions p.toText sortOrder normText)

def askSize : Except PyError (Option Session) :=
  if (Detectors.found sizeWords normText).isSome then .ok none
  else
    match findSizeVariants p.toText normText menuItems with
    | none => .ok none
    | some (base, _) =>
        (siblings letters p sortOrder menuItems normText).map fun items => some
          { s.cleared with
            conversation :=
              { state := .choosingOptions
                cart := (addAll [] items).map llmLine
                pendingOptions := some [⟨.str base, .int 1, .null, .null⟩] } }

def askFamily : Except PyError (Option Session) :=
  (askVariantFamily p.toText ⟨siblings letters p sortOrder menuItems, fun _ => .ok []⟩
      ⟨.buildingCart, [], [], s.pendingVariantAllocation⟩ normText menuItems).map fun asked =>
    asked.2.map fun _ =>
      { s.cleared with
        conversation := { state := .buildingCart, cart := asked.1.cart.map llmLine }
        pendingVariantAllocation := asked.1.pending }

def placeItems : Except PyError (Option Session) :=
  (readMessage letters menuItems normText).map fun entries =>
    (place p.toText sortOrder addOns ⟨.buildingCart, [], [], [], []⟩
        (.order (some .orderStart) normText) entries).map fun placed =>
      { s.cleared with
        conversation :=
          { state := placed.1.state
            cart := placed.1.cart.map llmLine
            confirmedCart := placed.1.confirmedCart.map llmLine
            pendingOptions := someOf (placed.1.pendingOptions.map llmPending) } }

-- What is settled without the model: a question about a size or a family, or items placed.
def settledFirst : Except PyError (Option Session) := do
  match ← askSize letters p sortOrder menuItems s normText with
  | some after => pure (some after)
  | none =>
      match ← askFamily letters p sortOrder menuItems s normText with
      | some after => pure (some after)
      | none => placeItems letters p sortOrder addOns menuItems s normText

end Deterministic

section Replies

variable (letters : Letters) (p : Platform) (shop : Shop) (s : Session)

def contradicts (parsed : ParsedLlmResponse) : Bool :=
  Llm.changesCart parsed.action && parsed.items.isEmpty

-- A message whose handling raises is rolled back.
def settle (s : Session) (result : Except PyError Outcome) : Session :=
  match result with
  | .error _ => s
  | .ok outcome => { s.cleared with conversation := outcome.conversation }

def takeReply (reply : String) : Session :=
  match parseLlmResponse p reply with
  | .error _ => s
  | .ok parsed =>
      if contradicts parsed then s
      else settle s (applyResponse p shop s.cleared.conversation parsed)

end Replies

-- The shop as the model's answer to an order finds it.
def orderShop (letters : Letters) (shop : Shop) (s : Session) : Shop :=
  { shop with
    intent := some .orderStart
    snapshot := some s.conversation
    extract := fun ignorePriceAmbiguity msgText =>
      (extractItemsFromMessage letters ignorePriceAmbiguity msgText.toList shop.menu).map
        fun entries => entries.map fun entry => ⟨entry.1, entry.2.1, entry.2.2⟩ }

-- A correction of the cart and a wish for only some items are rebuilt in one way. The model
-- answers with a text or fails.
def rebuildCart (letters : Letters) (p : Platform) (sortOrder : OptionGroup → Int)
    (addOns : AddOns) (shop : Shop) (s : Session) (answer : Option String) : Session :=
  match settledFirst letters p sortOrder addOns shop.menu s shop.normText with
  | .error _ => s
  | .ok (some after) => after
  | .ok none => answer.elim s (takeReply p (orderShop letters shop s) s)

-- What becomes of an order under review, where the message takes its place.
def correctCart (letters : Letters) (p : Platform) (sortOrder : OptionGroup → Int)
    (addOns : AddOns) (shop : Shop) (s : Session) (answer : Option String) : Option Session :=
  if s.conversation.state = .confirmingOrder ∧ (isCartCorrection p.toText shop.normText ∨
      replacesOrder letters shop.menu shop.normText) then
    some (rebuildCart letters p sortOrder addOns shop s answer)
  else none

-- Items were added, are held as pending or asked about, or all is as it was.
inductive Kept (before after : Session) : Prop where
  | restored (h : after = before)
  | added (h : after.conversation.cart ≠ [])
  | pending (items : List Llm.Pending) (hstate : after.conversation.state = .choosingOptions)
      (hitems : after.conversation.pendingOptions = some items) (hne : items ≠ [])
  | allocation (hbefore : before.pendingVariantAllocation = none)
      (hafter : after.pendingVariantAllocation.isSome)

section Conditions

variable (p : Platform) (shop : Shop) (s : Session)

-- There was nothing to lose.
def Blank : Prop :=
  s = { s.cleared with conversation := { s.cleared.conversation with state := .confirmingOrder } }

def Adds (items : List Llm.ParsedItem) : Prop :=
  ∀ entries, items.mapM (readAdd p shop) = .ok entries →
    Fallible.Succeeds (joined (entries.filterMap unmatchedText)) →
      (∃ addition, AddEntry.found addition ∈ entries) ∨ Blank s

def Replaces (items : List Llm.ParsedItem) : Prop :=
  ∀ entries, items.mapM (readReplace p shop) = .ok entries →
    entries.foldl (applyReplace p) [] ≠ []

def Asks (items : List Llm.ParsedItem) : Prop :=
  pendingOf items = [] → ∀ found, shop.extract false shop.normText = .ok found → found ≠ []

-- An answer after which the order is not lost.
def Rebuilds (parsed : ParsedLlmResponse) : Prop :=
  if contradicts parsed then True
  else if parsed.action.is "add_items" then Adds p shop s parsed.items
  else if parsed.action.is "remove_item" then
    ¬ Fallible.Succeeds (parsed.items.mapM readRemove)
  else if parsed.action.is "replace_item" then Replaces p shop parsed.items
  else if parsed.action.is "recommend_items" && !parsed.items.isEmpty then False
  else if parsed.action.is "ask_options" then Asks shop parsed.items
  else if parsed.action.is "confirm_order" || parsed.action.is "cancel_order" ||
      parsed.action.is "handoff" then False
  else ¬ (parsed.action.isHashable ∧ Fallible.Succeeds (shop.extract true shop.msgText))

end Conditions

-- No size or family is asked about, and the items that are named miss no option and take a
-- priced one: the model is asked.
structure Undecided (letters : Letters) (p : Platform) (menuItems : List MenuItem) (s : Session)
    (normText : String) : Prop where
  sized : (Detectors.found sizeWords normText).isSome ∨
    findSizeVariants p.toText normText menuItems = none
  family : s.pendingVariantAllocation.isSome ∨
    (Allocation.findNamedVariantFamily p.toText normText menuItems).filter (·.1 ≠ "") = none
  placed : ∃ entries, readMessage letters menuItems normText = .ok entries ∧ (entries ≠ [] →
    (∀ entry ∈ entries,
      getMissingRequiredGroups p.toText entry.item entry.modifier (some normText) = []) ∧
    ∃ entry ∈ entries, Extraction.detHasPricedOption p.toText normText entry)

section Kept

variable {letters : Letters} {p : Platform} {sortOrder : OptionGroup → Int} {addOns : AddOns}
  {shop : Shop} {s after : Session} {result : Except PyError Outcome} {c : Conversation}
  {parsed : ParsedLlmResponse} {items : List Llm.ParsedItem}

theorem settle_kept_iff : Kept s (settle s result) ↔
    ∀ outcome, result = .ok outcome →
      Kept s { s.cleared with conversation := outcome.conversation } := by
  cases result with
  | error e => exact iff_of_true (.restored rfl) (by simp)
  | ok outcome => simp [settle]

-- An empty cart with nothing pending is a loss.
theorem lost (hcart : c.cart = []) (hpending : c.pendingOptions = none)
    (hstate : s.conversation.state ≠ c.state) :
    ¬ Kept s { s.cleared with conversation := c } := by
  rintro (h | h | ⟨items, -, hitems, -⟩ | ⟨hbefore, hafter⟩)
  · exact hstate (congrArg (fun s => s.conversation.state) h).symm
  · exact h hcart
  · rw [hpending] at hitems
    cases hitems
  · simp [Session.cleared, hbefore] at hafter

theorem addToCart_ne_nil {cart : List Llm.Line} {a : Llm.Addition} :
    Llm.addToCart cart a ≠ [] := by
  unfold Llm.addToCart
  split
  next i hi =>
    obtain ⟨hlt, -⟩ := List.findIdx?_eq_some_iff_getElem.mp hi
    have hlength : 0 < (cart.modify i (Llm.raiseQuantity a.item.quantity)).length := by
      rw [List.length_modify]
      omega
    exact List.ne_nil_of_length_pos hlength
  next => simp

theorem foldl_applyAdd_ne_nil {cart : List Llm.Line} {entries : List AddEntry} :
    entries.foldl applyAdd cart ≠ [] ↔ cart ≠ [] ∨ ∃ a, AddEntry.found a ∈ entries := by
  induction entries generalizing cart with
  | nil => simp
  | cons entry entries ih =>
      rw [List.foldl_cons, ih]
      cases entry with
      | skipped => simp [applyAdd]
      | unmatched text => simp [applyAdd]
      | found a => exact iff_of_true (.inl addToCart_ne_nil) (.inr ⟨a, List.mem_cons_self⟩)

-- The conversation after the items of an answer are added.
def extended (s : Session) (cart : List Llm.Line) : Session :=
  { s.cleared with
    conversation :=
      { s.cleared.conversation with
        cart := cart
        confirmedCart := cart
        state := .confirmingOrder } }

theorem addItems_ok {outcome : Outcome}
    (h : Llm.addItems p shop s.cleared.conversation items = .ok outcome) :
    ∃ entries, items.mapM (readAdd p shop) = .ok entries ∧
      Fallible.Succeeds (joined (entries.filterMap unmatchedText)) ∧
      { s.cleared with conversation := outcome.conversation } =
        extended s (entries.foldl applyAdd []) := by
  obtain ⟨entries, hentries, h⟩ := Fallible.bind_eq_ok h
  obtain ⟨unmatched, hunmatched, h⟩ := Fallible.bind_eq_ok h
  obtain ⟨-, -, h⟩ := Fallible.bind_eq_ok h
  obtain rfl := Except.ok.inj h
  exact ⟨entries, hentries, ⟨unmatched, hunmatched, trivial⟩, rfl⟩

theorem addItems_kept_iff :
    Kept s (settle s (Llm.addItems p shop s.cleared.conversation items)) ↔
      Adds p shop s items := by
  rw [settle_kept_iff]
  constructor
  · rintro h entries hentries ⟨unmatched, hunmatched, -⟩
    by_cases hfound : ∃ addition, AddEntry.found addition ∈ entries
    · exact .inl hfound
    · have hempty : entries.foldl applyAdd [] = [] := by
        by_contra hcart
        rcases foldl_applyAdd_ne_nil.mp hcart with hne | hfound'
        · exact hne rfl
        · exact hfound hfound'
      have hok : Llm.addItems p shop s.cleared.conversation items =
          .ok ⟨(extended s []).conversation,
            .added (entries.filterMap Llm.addedLabel) unmatched⟩ := by
        have hcart : entries.foldl applyAdd s.cleared.conversation.cart = [] := hempty
        simp only [Llm.addItems, hentries, hunmatched, hcart, bind, Except.bind]
        rfl
      rcases h _ hok with hrestored | hadded | ⟨pending, -, hpending, -⟩ | ⟨hbefore, hafter⟩
      · exact .inr hrestored.symm
      · exact absurd rfl hadded
      · cases hpending
      · simp [Session.cleared, hbefore] at hafter
  · intro h outcome houtcome
    obtain ⟨entries, hentries, hjoined, hafter⟩ := addItems_ok houtcome
    rw [hafter]
    rcases h entries hentries hjoined with hfound | hblank
    · exact .added (foldl_applyAdd_ne_nil.mpr (.inr hfound))
    · by_cases hcart : entries.foldl applyAdd [] = []
      · rw [hcart]
        exact .restored hblank.symm
      · exact .added hcart

theorem removeFromCart_nil {name : String} {hint : Option String} :
    (Llm.removeFromCart p [] name hint).1 = [] := by
  unfold Llm.removeFromCart
  split
  next => rfl
  next i hi => rfl

theorem foldl_applyRemove_nil {names : List (Option String)} :
    names.foldl (Llm.applyRemove p shop.msgText) [] = [] := by
  induction names with
  | nil => rfl
  | cons name names ih =>
      have hname : Llm.applyRemove p shop.msgText [] name = [] := by
        cases name with
        | none => rfl
        | some name => exact removeFromCart_nil
      rw [List.foldl_cons, hname, ih]

theorem removeItems_eq : Llm.removeItems p shop s.cleared.conversation items =
    (items.mapM readRemove).map fun _ =>
      ⟨{ s.cleared.conversation with state := .idle }, .emptied⟩ := by
  unfold Llm.removeItems
  cases items.mapM readRemove with
  | error e => rfl
  | ok names =>
      have hcart : names.foldl (Llm.applyRemove p shop.msgText) s.cleared.conversation.cart = [] :=
        foldl_applyRemove_nil
      simp only [bind, Except.bind, hcart]
      rfl

-- An outcome that loses the order wherever there is one.
theorem settle_map_kept_iff {α : Type} {x : Except PyError α} {f : α → Outcome}
    (hlost : ∀ a, ¬ Kept s { s.cleared with conversation := (f a).conversation }) :
    Kept s (settle s (x.map f)) ↔ ¬ Fallible.Succeeds x := by
  cases x with
  | error e => exact iff_of_true (.restored rfl) (by simp)
  | ok a => exact iff_of_false (hlost a) (by simp)

theorem removeItems_kept_iff (hstate : s.conversation.state = .confirmingOrder) :
    Kept s (settle s (Llm.removeItems p shop s.cleared.conversation items)) ↔
      ¬ Fallible.Succeeds (items.mapM readRemove) := by
  rw [removeItems_eq]
  exact settle_map_kept_iff fun _ => lost rfl rfl (by simp [hstate])

theorem replaceItems_kept_iff (hstate : s.conversation.state = .confirmingOrder) :
    Kept s (settle s (Llm.replaceItems p shop s.cleared.conversation items)) ↔
      Replaces p shop items := by
  rw [settle_kept_iff]
  constructor
  · intro h entries hentries hempty
    have hok : ∃ reply, Llm.replaceItems p shop s.cleared.conversation items =
        .ok ⟨{ s.cleared.conversation with state := .idle }, reply⟩ := by
      have hcart : entries.foldl (applyReplace p) s.cleared.conversation.cart = [] := hempty
      simp only [Llm.replaceItems, hentries, hcart, bind, Except.bind]
      exact ⟨_, rfl⟩
    obtain ⟨reply, hok⟩ := hok
    exact lost rfl rfl (by simp [hstate]) (h _ hok)
  · intro h outcome houtcome
    obtain ⟨entries, hentries, houtcome⟩ := Fallible.bind_eq_ok houtcome
    have hne : entries.foldl (applyReplace p) s.cleared.conversation.cart ≠ [] :=
      h entries hentries
    dsimp only at houtcome
    split at houtcome
    next hempty => exact absurd (List.isEmpty_iff.mp hempty) hne
    next =>
      obtain ⟨-, -, houtcome⟩ := Fallible.bind_eq_ok houtcome
      obtain rfl := Except.ok.inj houtcome
      exact .added hne

theorem asked_kept_iff (hstate : s.conversation.state = .confirmingOrder)
    {pending : List Llm.Pending} :
    Kept s { s.cleared with
      conversation :=
        { s.cleared.conversation with
          pendingOptions := if pending.isEmpty then none else some pending
          state := .choosingOptions } } ↔ pending ≠ [] := by
  constructor
  · rintro h rfl
    exact lost rfl rfl (by simp [hstate]) h
  · intro hne
    exact .pending pending rfl (by simp [hne]) hne

theorem askOptions_eq : Llm.askOptions shop s.cleared.conversation parsed =
    (if (pendingOf parsed.items).isEmpty then
        (shop.extract false shop.normText).map fun found => found.map Llm.extractedPending
      else .ok (pendingOf parsed.items)).map fun pending =>
        ⟨{ s.cleared.conversation with
            pendingOptions := if pending.isEmpty then none else some pending
            state := .choosingOptions }, .message parsed.message⟩ := by
  unfold Llm.askOptions
  split
  next => cases shop.extract false shop.normText <;> rfl
  next => rfl

theorem askOptions_kept_iff (hstate : s.conversation.state = .confirmingOrder) :
    Kept s (settle s (Llm.askOptions shop s.cleared.conversation parsed)) ↔
      Asks shop parsed.items := by
  rw [askOptions_eq]
  unfold Asks
  cases hpending : pendingOf parsed.items with
  | nil =>
      cases hfound : shop.extract false shop.normText with
      | error e => exact iff_of_true (.restored rfl) (by simp)
      | ok found =>
          have hne : found.map Llm.extractedPending ≠ [] ↔ found ≠ [] := by simp
          refine Iff.trans (asked_kept_iff hstate) (hne.trans ?_)
          simp
  | cons item items =>
      exact iff_of_true ((asked_kept_iff hstate).mpr (List.cons_ne_nil item items)) (by simp)

theorem chat_eq (hintent : shop.intent = some .orderStart) (hhash : parsed.action.isHashable) :
    Llm.chat shop s.cleared.conversation parsed =
      (shop.extract true shop.msgText).map fun mentioned =>
        ⟨s.cleared.conversation,
          if mentioned.isEmpty then .message parsed.message else .retry Llm.itemsRetry⟩ := by
  have horder : shop.intent.any (· ∈ Llm.orderIntents) = true := by
    rw [hintent]
    decide
  unfold Llm.chat
  rw [if_pos horder, if_pos hhash, hintent]
  cases shop.extract true shop.msgText with
  | error e => rfl
  | ok mentioned =>
      cases mentioned with
      | nil => rfl
      | cons first rest => rfl

theorem chat_kept_iff (hstate : s.conversation.state = .confirmingOrder)
    (hintent : shop.intent = some .orderStart) :
    Kept s (settle s (Llm.chat shop s.cleared.conversation parsed)) ↔
      ¬ (parsed.action.isHashable ∧ Fallible.Succeeds (shop.extract true shop.msgText)) := by
  by_cases hhash : parsed.action.isHashable = true
  · have hlost (reply : Llm.Reply) :
        ¬ Kept s { s.cleared with
          conversation := (⟨s.cleared.conversation, reply⟩ : Outcome).conversation } :=
      lost rfl rfl (by simp [hstate, Session.cleared])
    rw [chat_eq hintent hhash, settle_map_kept_iff fun _ => hlost _]
    simp [hhash]
  · refine iff_of_true ?_ fun h => hhash h.1
    have horder : shop.intent.any (· ∈ Llm.orderIntents) = true := by
      rw [hintent]
      decide
    unfold Llm.chat
    rw [if_pos horder, if_neg hhash]
    exact .restored rfl

theorem applyResponse_kept_iff (hstate : s.conversation.state = .confirmingOrder)
    (hintent : shop.intent = some .orderStart) (hguard : contradicts parsed = false) :
    Kept s (settle s (applyResponse p shop s.cleared.conversation parsed)) ↔
      Rebuilds p shop s parsed := by
  have hlost {c : Conversation} {reply : Llm.Reply} (hcart : c.cart = [])
      (hpending : c.pendingOptions = none) (hc : c.state ≠ .confirmingOrder) :
      Kept s (settle s (.ok ⟨c, reply⟩)) ↔ False :=
    iff_of_false (lost hcart hpending (hstate ▸ hc.symm)) id
  have hcontradictory : (Llm.changesCart parsed.action && parsed.items.isEmpty) = false := hguard
  simp only [applyResponse, Rebuilds, hguard, hcontradictory, Bool.false_eq_true, if_false]
  split
  next => exact addItems_kept_iff
  next =>
    split
    next => exact removeItems_kept_iff hstate
    next =>
      split
      next => exact replaceItems_kept_iff hstate
      next =>
        split
        next => exact hlost rfl rfl nofun
        next =>
          split
          next => exact askOptions_kept_iff hstate
          next =>
            cases parsed.action.is "confirm_order" with
            | true => exact hlost rfl rfl nofun
            | false =>
                cases parsed.action.is "cancel_order" with
                | true => exact hlost rfl rfl nofun
                | false =>
                    cases parsed.action.is "handoff" with
                    | true => exact hlost rfl rfl nofun
                    | false => exact chat_kept_iff hstate hintent

theorem takeReply_kept_iff (hstate : s.conversation.state = .confirmingOrder)
    (hintent : shop.intent = some .orderStart) {reply : String} :
    Kept s (takeReply p shop s reply) ↔
      ∀ parsed, parseLlmResponse p reply = .ok parsed → Rebuilds p shop s parsed := by
  unfold takeReply
  cases parseLlmResponse p reply with
  | error e => exact iff_of_true (.restored rfl) (by simp)
  | ok parsed =>
      simp only [Except.ok.injEq, forall_eq']
      split
      next hguard => exact iff_of_true (.restored rfl) (by simp [Rebuilds, hguard])
      next hguard => exact applyResponse_kept_iff hstate hintent (Bool.not_eq_true _ ▸ hguard)

end Kept

section Settled

variable {letters : Letters} {p : Platform} {sortOrder : OptionGroup → Int} {addOns : AddOns}
  {menuItems : List MenuItem} {s after : Session} {normText : String}

theorem askSize_none_iff : askSize letters p sortOrder menuItems s normText = .ok none ↔
    (Detectors.found sizeWords normText).isSome ∨
      findSizeVariants p.toText normText menuItems = none := by
  unfold askSize
  split
  next hsized => simp [hsized]
  next hsized =>
    split
    next hnone => simp [hnone]
    next base variants hsome => simp [hsized, hsome, Fallible.map_eq_ok]

theorem askFamily_none_iff : askFamily letters p sortOrder menuItems s normText = .ok none ↔
    s.pendingVariantAllocation.isSome ∨
      (Allocation.findNamedVariantFamily p.toText normText menuItems).filter (·.1 ≠ "") =
        none := by
  unfold askFamily askVariantFamily
  split
  next hpending => exact iff_of_true rfl (.inl (hpending.resolve_left nofun))
  next hpending =>
    split
    next hnone => exact iff_of_true rfl (.inr hnone)
    next hsome =>
      refine iff_of_false (fun h => ?_) fun h => ?_
      · obtain ⟨asked, hasked, hnone⟩ := Fallible.map_eq_ok.mp h
        obtain ⟨requested, -, hasked⟩ := Fallible.bind_eq_ok hasked
        obtain ⟨items, -, hasked⟩ := Fallible.bind_eq_ok hasked
        obtain rfl := Except.ok.inj hasked
        cases hnone
      · rcases h with h | h
        · exact hpending (.inr h)
        · exact nomatch hsome.symm.trans h

theorem askFirst_none_iff {text : Cart.Text} {needs : Entry → Bool}
    {ready : Entry → Cart.NewItem} {order : Extraction.Order} {entries : List Entry} :
    Extraction.askFirst text needs ready order entries = none ↔
      ∀ entry ∈ entries, needs entry = false := by
  simp [Extraction.askFirst]

theorem place_none_iff {text : Cart.Text} {order : Extraction.Order}
    {intent : Option MessageIntent} {entries : List Entry} :
    place text sortOrder addOns order (.order intent normText) entries = none ↔
      (entries ≠ [] →
        (∀ entry ∈ entries,
          getMissingRequiredGroups text entry.item entry.modifier (some normText) = []) ∧
        ∃ entry ∈ entries, Extraction.detHasPricedOption text normText entry) := by
  unfold place
  by_cases hempty : entries = []
  · simp [hempty]
  · simp [hempty, Extraction.addReady, askFirst_none_iff, Extraction.needsOpts]

theorem placeItems_none_iff :
    placeItems letters p sortOrder addOns menuItems s normText = .ok none ↔
      ∃ entries, readMessage letters menuItems normText = .ok entries ∧ (entries ≠ [] →
        (∀ entry ∈ entries,
          getMissingRequiredGroups p.toText entry.item entry.modifier (some normText) = []) ∧
        ∃ entry ∈ entries, Extraction.detHasPricedOption p.toText normText entry) := by
  simp only [placeItems, Fallible.map_eq_ok, Option.map_eq_none_iff, place_none_iff]

theorem settledFirst_none_iff :
    settledFirst letters p sortOrder addOns menuItems s normText = .ok none ↔
      Undecided letters p menuItems s normText := by
  have hall : settledFirst letters p sortOrder addOns menuItems s normText = .ok none ↔
      askSize letters p sortOrder menuItems s normText = .ok none ∧
        askFamily letters p sortOrder menuItems s normText = .ok none ∧
        placeItems letters p sortOrder addOns menuItems s normText = .ok none := by
    constructor
    · intro h
      obtain ⟨sized, hsized, h⟩ := Fallible.bind_eq_ok h
      cases sized with
      | some after => cases h
      | none =>
          obtain ⟨family, hfamily, h⟩ := Fallible.bind_eq_ok h
          cases family with
          | some after => cases h
          | none => exact ⟨hsized, hfamily, h⟩
    · rintro ⟨hsized, hfamily, hplaced⟩
      simp [settledFirst, hsized, hfamily, hplaced, bind, Except.bind]
  rw [hall, askSize_none_iff, askFamily_none_iff, placeItems_none_iff]
  exact ⟨fun ⟨hsized, hfamily, hplaced⟩ => ⟨hsized, hfamily, hplaced⟩,
    fun h => ⟨h.sized, h.family, h.placed⟩⟩

theorem addAll_ne_nil {cart : List Cart.Line} {items : List Cart.NewItem}
    (h : cart ≠ [] ∨ items ≠ []) : addAll cart items ≠ [] := by
  unfold addAll
  induction items generalizing cart with
  | nil => simpa using h
  | cons item items ih =>
      refine ih (.inl ?_)
      unfold Cart.addToCart
      split
      next hany =>
        obtain ⟨line, hline, -⟩ := List.any_eq_true.mp hany
        rw [← List.length_pos_iff, Detectors.length_updateFirst]
        exact List.length_pos_of_mem hline
      next => simp

theorem perUnit_ne_nil {text : Cart.Text} {entry : Entry} :
    Extraction.perUnit text sortOrder normText entry ≠ [] := by
  simp only [Extraction.perUnit, ne_eq, List.map_eq_nil_iff,
    Extraction.splitDistinctPerUnitModifiers]
  split
  next h =>
    obtain ⟨hquantity, -, hlength, -⟩ := h
    rw [List.map_eq_nil_iff, ← List.length_eq_zero_iff]
    omega
  next => simp

theorem askSize_kept (h : askSize letters p sortOrder menuItems s normText = .ok (some after)) :
    Kept s after := by
  unfold askSize at h
  split at h
  next => cases h
  next =>
    split at h
    next => cases h
    next =>
      obtain ⟨items, -, h⟩ := Fallible.map_eq_ok.mp h
      obtain rfl := Option.some.inj h
      exact .pending _ rfl rfl (List.cons_ne_nil _ _)

theorem askFamily_kept (h : askFamily letters p sortOrder menuItems s normText = .ok (some after)) :
    Kept s after := by
  obtain ⟨asked, hasked, h⟩ := Fallible.map_eq_ok.mp h
  obtain ⟨reply, hreply, rfl⟩ := Option.map_eq_some_iff.mp h
  unfold askVariantFamily at hasked
  split at hasked
  next =>
    obtain rfl := Except.ok.inj hasked
    cases hreply
  next hpending =>
    split at hasked
    next =>
      obtain rfl := Except.ok.inj hasked
      cases hreply
    next =>
      obtain ⟨requested, -, hasked⟩ := Fallible.bind_eq_ok hasked
      obtain ⟨items, -, hasked⟩ := Fallible.bind_eq_ok hasked
      obtain rfl := Except.ok.inj hasked
      have hnone : s.pendingVariantAllocation = none := by
        simpa using fun hsome => hpending (.inr hsome)
      exact .allocation hnone rfl

theorem placeItems_kept
    (h : placeItems letters p sortOrder addOns menuItems s normText = .ok (some after)) :
    Kept s after := by
  obtain ⟨entries, -, h⟩ := Fallible.map_eq_ok.mp h
  obtain ⟨placed, hplaced, rfl⟩ := Option.map_eq_some_iff.mp h
  simp only [place] at hplaced
  split at hplaced
  next => cases hplaced
  next hentries =>
    rcases Option.or_eq_some_iff.mp hplaced with hasked | ⟨-, hready⟩
    · obtain ⟨entry, -, rfl⟩ := Option.map_eq_some_iff.mp hasked
      exact .pending _ rfl rfl (List.cons_ne_nil _ _)
    · simp only [Extraction.addReady] at hready
      split at hready
      next => cases hready
      next =>
        obtain rfl := Option.some.inj hready
        have hcart : ∀ items : List Cart.NewItem, items ≠ [] →
            (addAll [] items).map llmLine ≠ [] := fun items hitems => by
          simpa using addAll_ne_nil (.inr hitems)
        refine .added (hcart _ ?_)
        split
        next => simpa using hentries
        next =>
          obtain ⟨first, rest, rfl⟩ := List.exists_cons_of_ne_nil hentries
          simp [perUnit_ne_nil]

theorem settledFirst_kept
    (h : settledFirst letters p sortOrder addOns menuItems s normText = .ok (some after)) :
    Kept s after := by
  obtain ⟨sized, hsized, h⟩ := Fallible.bind_eq_ok h
  cases sized with
  | some asked =>
      obtain rfl := Option.some.inj (Except.ok.inj h)
      exact askSize_kept hsized
  | none =>
      obtain ⟨family, hfamily, h⟩ := Fallible.bind_eq_ok h
      cases family with
      | some asked =>
          obtain rfl := Option.some.inj (Except.ok.inj h)
          exact askFamily_kept hfamily
      | none => exact placeItems_kept h

end Settled

section Corrected

variable {letters : Letters} {p : Platform} {sortOrder : OptionGroup → Int} {addOns : AddOns}
  {shop : Shop} {s after : Session} {answer : Option String}

theorem rebuildCart_kept_iff (hstate : s.conversation.state = .confirmingOrder) :
    Kept s (rebuildCart letters p sortOrder addOns shop s answer) ↔
      (Undecided letters p shop.menu s shop.normText → ∀ reply ∈ answer, ∀ parsed,
        parseLlmResponse p reply = .ok parsed →
          Rebuilds p (orderShop letters shop s) s parsed) := by
  unfold rebuildCart
  rw [← @settledFirst_none_iff letters p sortOrder addOns]
  cases hsettled : settledFirst letters p sortOrder addOns shop.menu s shop.normText with
  | error e => exact iff_of_true (.restored rfl) nofun
  | ok settled =>
      cases settled with
      | some after => exact iff_of_true (settledFirst_kept hsettled) nofun
      | none =>
          cases answer with
          | none => exact iff_of_true (.restored rfl) (by simp)
          | some reply => simpa using takeReply_kept_iff hstate rfl

theorem correction_kept_iff
    (h : correctCart letters p sortOrder addOns shop s answer = some after) :
    Kept s after ↔
      (Undecided letters p shop.menu s shop.normText → ∀ reply ∈ answer, ∀ parsed,
        parseLlmResponse p reply = .ok parsed →
          Rebuilds p (orderShop letters shop s) s parsed) := by
  unfold correctCart at h
  split at h
  next hcorrects =>
    obtain rfl := Option.some.inj h
    exact rebuildCart_kept_iff hcorrects.1
  next => cases h

end Corrected

section Wings

def wings : MenuItem := Extraction.soldItem 1 "Wings" 9000

def wingShop (normText : String) : Shop where
  menu := [wings]
  addOnsFor := fun _ => []
  intent := none
  msgText := normText
  normText := normText
  snapshot := none
  extract := fun _ _ => .ok []
  statedTotal := fun _ => .ok none

def threeWings : Llm.Line :=
  llmLine (Cart.newLine { menuItemId := 1, name := "Wings", priceCents := 9000, quantity := 3 })

def reviewed : Session where
  conversation := { state := .confirmingOrder, cart := [threeWings], confirmedCart := [threeWings] }
  pendingVariantAllocation := none
  checkout := { orderMode := some .pickup }

def corrected (normText : String) (answer : Option String) : Session :=
  rebuildCart Extraction.asciiLetters Extraction.asciiPlatform (fun _ => 0) Extraction.noAddOns
    (wingShop normText) reviewed answer

-- The two wings take the place of the three before the model is asked.
theorem two_wings_kept :
    Kept reviewed (corrected "no i want 2 wings" (some "Two wings, sure!")) := by
  refine (@correction_kept_iff Extraction.asciiLetters Extraction.asciiPlatform (fun _ => 0)
    Extraction.noAddOns (wingShop "no i want 2 wings") reviewed _ _
    (if_pos ⟨rfl, .inl (by decide +kernel)⟩)).mpr fun hundecided => ?_
  obtain ⟨entries, hread, hpriced⟩ := hundecided.placed
  have hwings : readMessage Extraction.asciiLetters [wings] "no i want 2 wings" =
      .ok [{ item := wings, quantity := 2, modifier := none }] := by decide +kernel
  obtain rfl := Except.ok.inj (hwings.symm.trans hread)
  obtain ⟨-, entry, hentry, hoption⟩ := hpriced (List.cons_ne_nil _ _)
  obtain rfl := List.mem_singleton.mp hentry
  cases hoption

def emptied : Session := corrected "i only want one of each" (some "One of each, sure!")

-- The model answers with nothing but a text, and the order is gone.
theorem wings_emptied :
    ¬ ∀ (letters : Letters) (p : Platform) (sortOrder : OptionGroup → Int) (addOns : AddOns)
      (shop : Shop) (s after : Session) (answer : Option String),
      correctCart letters p sortOrder addOns shop s answer = some after → Kept s after := by
  intro h
  have hkept : Kept reviewed emptied :=
    h Extraction.asciiLetters Extraction.asciiPlatform (fun _ => 0) Extraction.noAddOns
      (wingShop "i only want one of each") reviewed emptied (some "One of each, sure!")
      (if_pos ⟨rfl, .inl (by decide +kernel)⟩)
  obtain ⟨hempty, hnone, hstate, hfamily⟩ : emptied.conversation.cart.isEmpty = true ∧
      emptied.conversation.pendingOptions.isNone = true ∧
      emptied.conversation.state = .buildingCart ∧
      emptied.pendingVariantAllocation.isSome = false := by decide +kernel
  rcases hkept with hrestored | hadded | ⟨pending, -, hpending, -⟩ | ⟨-, hafter⟩
  · rw [hrestored] at hstate
    cases hstate
  · exact hadded (List.isEmpty_iff.mp hempty)
  · rw [hpending] at hnone
    cases hnone
  · rw [hfamily] at hafter
    cases hafter

end Wings

end NextgenBackend.Bot.Corrections
