import Mathlib
import NextgenBackend.Bot.LineDetectors
import NextgenBackend.Bot.Quantities
import NextgenBackend.Library.Run

namespace NextgenBackend.Bot.Allocation

open Pattern
open Detectors
open Cart (Line NewItem addToCart)
open Llm (PyError)
open Quantities (parseQuantityBefore)

structure Variant where
  menuItemId : Uuid
  name : String
  shortName : String
  priceCents : Cents
deriving DecidableEq

structure PendingAllocation where
  familyLabel : String
  variants : List Variant
  quantityNeeded : Int
deriving DecidableEq

structure Conversation where
  state : ConversationState
  cart : List Line
  confirmedCart : List Line
  pending : Option PendingAllocation
deriving DecidableEq

abbrev Choice := Variant × Int

inductive Reply where
  | asked (siblings : List NewItem) (allocation : PendingAllocation)
  | cancelled (allocation : PendingAllocation)
  | reminder (others : List NewItem) (allocation : PendingAllocation)
  | partly (added : List Choice) (allocation : PendingAllocation)
  | completed (added : List Choice)

-- What the extractor makes of a message besides the family: next to a request, and in an answer.
structure Extractor where
  siblings : String → Except PyError (List NewItem)
  others : String → Except PyError (List NewItem)

def postConfirmationStates : List ConversationState :=
  [.collectingDetails, .choosingOrderMode, .waitingDeliveryFeeApproval, .collectingPayment,
    .orderPlaced, .handoff]

def shortReply (phrases : List (List String)) : Pattern := inOrder [
  .start, anyOf phrases, gaps, .many (.char fun c => [',', '!', '.', '?'].contains c), .finish]

def following (first : String) (rest : List (List String)) : List (List String) :=
  rest.map fun words => first :: words

def negations : List (List String) := [
  ["no"], ["nah"], ["nope"],
  ["not", "yet"], ["not", "now"], ["wait"], ["hold", "on"],
  ["actually"], ["actually", "no"], ["no", "actually"]] ++
  following "no" [["thanks"], ["thank", "you"], ["please"], ["ta"], ["man"], ["bru"], ["way"],
    ["chance"], ["more"]] ++
  following "nah" [["thanks"], ["thank", "you"], ["please"], ["man"], ["bru"]] ++
  [["cancel", "that"], ["scratch", "that"], ["never", "mind"], ["nevermind"]]

def pauses : List (List String) := [
  ["wait"], ["hold", "on"], ["not", "yet"], ["not", "now"]] ++
  following "one" [["sec"], ["second"], ["mo"], ["moment"]] ++
  [["just", "a", "sec"], ["just", "a", "moment"], ["hang", "on"]]

def itemOf (choice : Choice) : NewItem where
  menuItemId := choice.1.menuItemId
  name := choice.1.name
  priceCents := choice.1.priceCents
  quantity := choice.2

def addAll (cart : List Line) (items : List NewItem) : List Line := items.foldl addToCart cart

def allocated (added : List Choice) : Int := (added.map (·.2)).sum

def ofFamily (variants : List Variant) (menuItemId : Uuid) : Bool :=
  variants.any fun v => v.menuItemId = menuItemId

-- The units in a cart of the items that are meant.
def units (meant : Uuid → Bool) (cart : List Line) : Int :=
  ((cart.filter fun line => meant line.menuItemId).map (·.quantity)).sum

def ordered (meant : Uuid → Bool) (items : List NewItem) : Int :=
  ((items.filter fun item => meant item.menuItemId).map (·.quantity)).sum

-- A key that is still there after checkout, where the cart holds as many units as it asks for.
def stale (c : Conversation) (p : PendingAllocation) : Bool :=
  postConfirmationStates.contains c.state &&
    decide (p.quantityNeeded ≤ units (ofFamily p.variants) c.cart)

section Handlers

variable (text : Cart.Text)

def matchesReply (phrases : List (List String)) (msg : String) : Bool :=
  (matchAt Text.isWordChar (shortReply phrases) [] (text.strip msg).toList).isSome

def isNegation (msg : String) : Bool := matchesReply text negations msg

def isPause (msg : String) : Bool := matchesReply text pauses msg

-- The customer takes the request back; a pause is no such answer.
def cancels (msg : String) : Bool := isNegation text msg && !isPause text msg

def wholeWord (name : String) : Pattern := inOrder [.boundary, spelled id name.toList, .boundary]

def plural (label : String) : Pattern := inOrder [
  .boundary, spelled id label.toList, opt (spelled id ['s']), .boundary]

def splitLabel : List Char → Option (List Char × List Char)
  | ':' :: ' ' :: rest => some ([], rest)
  | [] => none
  | c :: cs => (splitLabel cs).map fun parts => (c :: parts.1, parts.2)

def labelled (item : MenuItem) : Option (String × String) :=
  (splitLabel item.name.toList).map fun parts =>
    (text.strip (String.ofList parts.1), text.strip (String.ofList parts.2))

def familyKey (item : MenuItem) : Option String :=
  (labelled text item).map fun parts => text.lower parts.1

def shortName (item : MenuItem) : String := ((labelled text item).map (·.2)).getD ""

def ambiguous (msgLower key : String) (variants : List MenuItem) : Bool :=
  2 ≤ variants.length &&
    !(variants.any fun v =>
      (Detectors.found (wholeWord (text.lower (shortName text v))) msgLower).isSome) &&
    (Detectors.found (plural key) msgLower).isSome

def findNamedVariantFamily (msgText : String) (menuItems : List MenuItem) :
    Option (String × List MenuItem) :=
  let active := menuItems.filter Llm.isActive
  let family := fun key => active.filter fun item => familyKey text item = some key
  ((active.filterMap (familyKey text)).eraseDups.find? fun key =>
    ambiguous text (text.lower msgText) key (family key)).map fun key =>
      ((((family key).head?.bind (labelled text)).map (·.1)).getD "", family key)

def requestedQuantity (msgLower familyLabel : String) : Except PyError Int :=
  match Detectors.found (plural (text.lower familyLabel)) msgLower with
  | some m => parseQuantityBefore m.before.reverse
  | none => .ok 1

def variantOf (item : MenuItem) : Variant where
  menuItemId := item.id
  name := item.name
  shortName := shortName text item
  priceCents := item.priceCents

def chosen (msgLower : String) (v : Variant) : Except PyError (Option Choice) :=
  match Detectors.found (wholeWord (text.lower v.shortName)) msgLower with
  | some m => (parseQuantityBefore m.before.reverse).map fun quantity => some (v, quantity)
  | none => .ok none

def choices (msgLower : String) (variants : List Variant) : Except PyError (List Choice) :=
  (variants.mapM (chosen text msgLower)).map List.reduceOption

variable (extractor : Extractor)

def askVariantFamily (c : Conversation) (normText : String) (menuItems : List MenuItem) :
    Except PyError (Conversation × Option Reply) :=
  if c.state = .choosingOptions ∨ c.pending.isSome then .ok (c, none)
  else
    match (findNamedVariantFamily text normText menuItems).filter fun family => family.1 ≠ "" with
    | none => .ok (c, none)
    | some (familyLabel, family) => do
        let requested ← requestedQuantity text (text.lower normText) familyLabel
        let siblings ← extractor.siblings normText
        let allocation : PendingAllocation := ⟨familyLabel, family.map (variantOf text), requested⟩
        pure ({ c with cart := addAll c.cart siblings, pending := some allocation },
          some (.asked siblings allocation))

def otherMatches (normText : String) (intent : Option MessageIntent) :
    Except PyError (List NewItem) :=
  if intent = some .orderRemove ∨ intent = some .orderCancel then .ok []
  else extractor.others normText

def remind (c : Conversation) (p : PendingAllocation) (normText : String)
    (intent : Option MessageIntent) : Except PyError (Conversation × Option Reply) := do
  let others ← otherMatches extractor normText intent
  pure ({ c with cart := addAll c.cart others }, some (.reminder others p))

def settle (c : Conversation) (p : PendingAllocation) (added : List Choice) :
    Conversation × Option Reply :=
  let cart := addAll c.cart (added.map itemOf)
  let remaining := max 0 (p.quantityNeeded - allocated added)
  if remaining ≤ 0 then
    (⟨.confirmingOrder, cart, cart, none⟩, some (.completed added))
  else
    let left := { p with quantityNeeded := remaining }
    ({ c with cart := cart, pending := some left }, some (.partly added left))

def resolveVariantAllocationReply (c : Conversation) (normText : String)
    (intent : Option MessageIntent) : Except PyError (Conversation × Option Reply) :=
  match c.pending with
  | none => .ok (c, none)
  | some p =>
      if stale c p then .ok ({ c with pending := none }, none)
      else if isNegation text normText then
        .ok ({ c with pending := none }, some (.cancelled p))
      else do
        let added ← choices text (text.lower normText) p.variants
        if allocated added = 0 then remind extractor c p normText intent
        else pure (settle c p added)

end Handlers

-- A customer's answer, a message that reaches the routing, or a move of the rest of the platform.
inductive Event where
  | reply (normText : String) (intent : Option MessageIntent)
  | order (normText : String) (menuItems : List MenuItem)
  | elsewhere (state : ConversationState) (cart confirmedCart : List Line)

-- A conversation with the units that the last request asked for and those that answers to it added.
structure Talk where
  conversation : Conversation
  requested : Int
  answered : Int
deriving DecidableEq

def answers : Option Reply → Bool
  | some (.partly _ _) => true
  | some (.completed _) => true
  | _ => false

def gained (before after : Conversation) : Int :=
  match before.pending with
  | some p => units (ofFamily p.variants) after.cart - units (ofFamily p.variants) before.cart
  | none => 0

section Runs

variable (text : Cart.Text) (extractor : Extractor)

def step (t : Talk) : Event → Talk
  | .reply normText intent =>
      match resolveVariantAllocationReply text extractor t.conversation normText intent with
      | .ok (c, reply) =>
          { t with
            conversation := c
            answered := t.answered + if answers reply then gained t.conversation c else 0 }
      | .error _ => t
  | .order normText menuItems =>
      match askVariantFamily text extractor t.conversation normText menuItems with
      | .ok (c, some (.asked _ allocation)) => ⟨c, allocation.quantityNeeded, 0⟩
      | _ => t
  | .elsewhere state cart confirmedCart =>
      { t with
        conversation :=
          { t.conversation with state := state, cart := cart, confirmedCart := confirmedCart } }

def Next (t : Talk) (event : Event) (t' : Talk) : Prop := t' = step text extractor t event

-- The message goes on to the routing, which may confirm the order.
def passesOn (t : Talk) : Event → Bool
  | .reply normText intent =>
      match resolveVariantAllocationReply text extractor t.conversation normText intent with
      | .ok (_, none) => true
      | _ => false
  | _ => false

def confirms (t t' : Talk) : Event → Bool
  | .reply _ _ => t.conversation.state ≠ .confirmingOrder && t'.conversation.state = .confirmingOrder
  | _ => false

def cancelledBy : Event → Bool
  | .reply normText _ => cancels text normText
  | _ => false

-- A request is given up only where it was taken back or as many units were added as it asked for.
def Kept (t : Talk) (event : Event) (t' : Talk) : Prop :=
  t.conversation.pending.isSome →
    (t'.conversation.pending = none ∨ passesOn text extractor t event = true ∨
      confirms t t' event = true) →
    cancelledBy text event = true ∨ t'.requested ≤ t'.answered

-- An answer that takes nothing back meets a stale key or is a pause that reads as a negation.
def slips (t : Talk) : Event → Bool
  | .reply normText _ =>
      match t.conversation.pending with
      | some p => !cancels text normText && (stale t.conversation p || isNegation text normText)
      | none => false
  | _ => false

def Clean (t : Talk) (event : Event) (_ : Talk) : Prop := slips text t event = false

instance (t : Talk) (event : Event) (t' : Talk) : Decidable (Next text extractor t event t') := by
  unfold Next
  infer_instance

instance (t : Talk) (event : Event) (t' : Talk) : Decidable (Kept text extractor t event t') := by
  unfold Kept
  infer_instance

instance (t : Talk) (event : Event) (t' : Talk) : Decidable (Clean text t event t') := by
  unfold Clean
  infer_instance

variable {text extractor} {t t' : Talk} {c : Conversation} {p : PendingAllocation}
  {variants : List Variant} {meant : Uuid → Bool} {cart : List Line} {line : Line} {item : NewItem}
  {added : List Choice} {normText : String} {intent : Option MessageIntent} {event : Event}
  {result : Conversation × Option Reply} {steps : List (Event × Talk)}

theorem units_cons : units meant (line :: cart) =
    (if meant line.menuItemId then line.quantity else 0) + units meant cart := by
  unfold units
  by_cases h : meant line.menuItemId
  · simp [h]
  · simp [h]

theorem units_append {cart' : List Line} :
    units meant (cart ++ cart') = units meant cart + units meant cart' := by
  simp [units]

theorem ordered_cons {items : List NewItem} : ordered meant (item :: items) =
    (if meant item.menuItemId then item.quantity else 0) + ordered meant items := by
  unfold ordered
  by_cases h : meant item.menuItemId
  · simp [h]
  · simp [h]

theorem units_raised (h : cart.any (Cart.accumulates item)) :
    units meant (Cart.updateFirst (Cart.accumulates item)
        (fun line => Cart.setQuantity (line.quantity + item.quantity) line) cart) =
      units meant cart + if meant item.menuItemId then item.quantity else 0 := by
  induction cart with
  | nil => cases h
  | cons line cart ih =>
      unfold Cart.updateFirst
      by_cases hline : Cart.accumulates item line
      · have hid : line.menuItemId = item.menuItemId := (of_decide_eq_true hline).1
        rw [if_pos hline, units_cons, units_cons]
        simp only [Cart.setQuantity, hid]
        split <;> omega
      · have hrest : cart.any (Cart.accumulates item) := by simpa [hline] using h
        rw [if_neg hline, units_cons, units_cons, ih hrest]
        omega

theorem units_addToCart : units meant (addToCart cart item) =
    units meant cart + if meant item.menuItemId then item.quantity else 0 := by
  unfold addToCart
  split
  next h => exact units_raised h
  next =>
    have hnil : units meant [] = 0 := rfl
    rw [units_append, units_cons, hnil, add_zero]
    rfl

theorem units_addAll {items : List NewItem} :
    units meant (addAll cart items) = units meant cart + ordered meant items := by
  induction items generalizing cart with
  | nil => simp [addAll, ordered]
  | cons item items ih =>
      have hcart : addAll cart (item :: items) = addAll (addToCart cart item) items := rfl
      rw [hcart, ih, units_addToCart, ordered_cons, add_assoc]

theorem ordered_choices (h : ∀ choice ∈ added, choice.1 ∈ variants) :
    ordered (ofFamily variants) (added.map itemOf) = allocated added := by
  have hfilter : (added.map itemOf).filter (fun item => ofFamily variants item.menuItemId) =
      added.map itemOf := by
    rw [List.filter_eq_self]
    intro item hitem
    obtain ⟨choice, hchoice, rfl⟩ := List.mem_map.mp hitem
    exact List.any_eq_true.mpr ⟨choice.1, h choice hchoice, by simp [itemOf]⟩
  rw [ordered, hfilter, allocated, List.map_map]
  rfl

theorem chosen_variant {msgLower : String} {v : Variant} {choice : Choice}
    (h : chosen text msgLower v = .ok (some choice)) : choice.1 = v := by
  unfold chosen at h
  split at h
  next =>
    obtain ⟨quantity, -, hchoice⟩ := Fallible.map_eq_ok.mp h
    obtain rfl := Option.some.inj hchoice
    rfl
  next => cases h

theorem choices_mem {msgLower : String} (h : choices text msgLower variants = .ok added) :
    ∀ choice ∈ added, choice.1 ∈ variants := by
  obtain ⟨found, hfound, rfl⟩ := Fallible.map_eq_ok.mp h
  intro choice hchoice
  obtain ⟨v, hv, hchosen⟩ :=
    Fallible.mem_mapM_ok hfound (some choice) (List.reduceOption_mem_iff.mp hchoice)
  exact chosen_variant hchosen ▸ hv

theorem requestedQuantity_pos {msgLower familyLabel : String} {n : Int}
    (h : requestedQuantity text msgLower familyLabel = .ok n) : 0 < n := by
  unfold requestedQuantity at h
  split at h
  next => exact (Quantities.readQuantity_range h).1
  next => cases h; decide

-- All that becomes of an answer to an outstanding allocation.
inductive Resolved (text : Cart.Text) (c : Conversation) (p : PendingAllocation)
    (normText : String) : Conversation × Option Reply → Prop where
  | stale (h : stale c p = true) : Resolved text c p normText ({ c with pending := none }, none)
  | cancelled (hstale : Allocation.stale c p = false) (h : isNegation text normText = true) :
      Resolved text c p normText ({ c with pending := none }, some (.cancelled p))
  | reminder {others : List NewItem} (hstale : Allocation.stale c p = false)
      (hneg : isNegation text normText = false) :
      Resolved text c p normText
        ({ c with cart := addAll c.cart others }, some (.reminder others p))
  | settled {added : List Choice} (hstale : Allocation.stale c p = false)
      (hneg : isNegation text normText = false) (hmem : ∀ choice ∈ added, choice.1 ∈ p.variants) :
      Resolved text c p normText (settle c p added)

theorem resolve_cases (hp : c.pending = some p)
    (h : resolveVariantAllocationReply text extractor c normText intent = .ok result) :
    Resolved text c p normText result := by
  unfold resolveVariantAllocationReply at h
  simp only [hp] at h
  split at h
  next hstale =>
    obtain rfl := Except.ok.inj h
    exact .stale hstale
  next hstale =>
    rw [Bool.not_eq_true] at hstale
    split at h
    next hneg =>
      obtain rfl := Except.ok.inj h
      exact .cancelled hstale hneg
    next hneg =>
      rw [Bool.not_eq_true] at hneg
      obtain ⟨added, hadded, h⟩ := Fallible.bind_eq_ok h
      split at h
      next =>
        unfold remind at h
        obtain ⟨others, -, h⟩ := Fallible.bind_eq_ok h
        obtain rfl := Except.ok.inj h
        exact .reminder hstale hneg
      next =>
        obtain rfl := Except.ok.inj h
        exact .settled hstale hneg (choices_mem hadded)

theorem resolve_error (hp : c.pending = some p) {e : PyError}
    (h : resolveVariantAllocationReply text extractor c normText intent = .error e) :
    stale c p = false ∧ isNegation text normText = false := by
  unfold resolveVariantAllocationReply at h
  simp only [hp] at h
  split at h
  next => cases h
  next hstale =>
    split at h
    next => cases h
    next hneg => exact ⟨Bool.not_eq_true _ ▸ hstale, Bool.not_eq_true _ ▸ hneg⟩

-- What is still asked for is what was requested less what the answers added.
def Outstanding (t : Talk) : Prop :=
  ∀ p, t.conversation.pending = some p →
    p.quantityNeeded + t.answered = t.requested ∧ 0 < p.quantityNeeded

variable (text extractor) in
theorem reply_step (hp : t.conversation.pending = some p) (normText : String)
    (intent : Option MessageIntent) :
    (step text extractor t (.reply normText intent) = t ∧
        passesOn text extractor t (.reply normText intent) = false ∧
        stale t.conversation p = false ∧ isNegation text normText = false) ∨
      ∃ result, Resolved text t.conversation p normText result ∧
        passesOn text extractor t (.reply normText intent) = result.2.isNone ∧
        step text extractor t (.reply normText intent) =
          ⟨result.1, t.requested,
            t.answered + if answers result.2 then gained t.conversation result.1 else 0⟩ := by
  simp only [step, passesOn]
  cases hresult : resolveVariantAllocationReply text extractor t.conversation normText intent with
  | error e => exact .inl ⟨rfl, rfl, resolve_error hp hresult⟩
  | ok result =>
      refine .inr ⟨result, resolve_cases hp hresult, ?_, rfl⟩
      obtain ⟨c, reply⟩ := result
      cases reply <;> rfl

theorem order_step (hp : t.conversation.pending = some p) {menuItems : List MenuItem} :
    step text extractor t (.order normText menuItems) = t := by
  simp [step, askVariantFamily, hp]

theorem gained_settle (hp : t.conversation.pending = some p)
    (hmem : ∀ choice ∈ added, choice.1 ∈ p.variants) :
    (if answers (settle t.conversation p added).2 then
        gained t.conversation (settle t.conversation p added).1 else 0) = allocated added := by
  have hcart : (settle t.conversation p added).1.cart =
      addAll t.conversation.cart (added.map itemOf) := by
    simp only [settle]
    split <;> rfl
  have hanswers : answers (settle t.conversation p added).2 = true := by
    simp only [settle]
    split <;> rfl
  rw [if_pos hanswers, gained, hp]
  simp only [hcart, units_addAll, ordered_choices hmem]
  omega

theorem requested_step (h : t.conversation.pending = none) {menuItems : List MenuItem} :
    Outstanding (step text extractor t (.order normText menuItems)) := by
  simp only [step, askVariantFamily]
  split
  next hresult =>
    split at hresult
    next => cases hresult
    next =>
      split at hresult
      next => cases hresult
      next =>
        obtain ⟨requested, hrequested, hresult⟩ := Fallible.bind_eq_ok hresult
        obtain ⟨siblings, -, hresult⟩ := Fallible.bind_eq_ok hresult
        cases hresult
        intro p hp
        obtain rfl := Option.some.inj hp
        exact ⟨add_zero _, requestedQuantity_pos hrequested⟩
  next =>
    intro p hp
    rw [h] at hp
    cases hp

theorem outstanding_settle (h : Outstanding t) (hp : t.conversation.pending = some p) :
    Outstanding ⟨(settle t.conversation p added).1, t.requested, t.answered + allocated added⟩ := by
  obtain ⟨hsum, hpos⟩ := h p hp
  intro left hleft
  simp only [settle] at hleft ⊢
  split at hleft
  next => cases hleft
  next hremaining =>
    obtain rfl := Option.some.inj hleft
    dsimp only
    omega

theorem outstanding_step (h : Outstanding t) : Outstanding (step text extractor t event) := by
  cases event with
  | reply normText intent =>
      cases hp : t.conversation.pending with
      | none =>
          have hstep : step text extractor t (.reply normText intent) = t := by
            simp [step, resolveVariantAllocationReply, hp, answers]
          exact hstep.symm ▸ h
      | some p =>
          rcases reply_step text extractor hp normText intent with
            ⟨hsame, -⟩ | ⟨result, hresolved, -, hstep⟩
          · exact hsame.symm ▸ h
          · rw [hstep]
            cases hresolved with
            | stale => exact fun p hp => nomatch hp
            | cancelled => exact fun p hp => nomatch hp
            | reminder => simpa [Outstanding, answers] using h
            | settled hstale hneg hmem =>
                rw [gained_settle hp hmem]
                exact outstanding_settle h hp
  | order normText menuItems =>
      cases hp : t.conversation.pending with
      | none => exact requested_step hp
      | some p => exact (order_step hp).symm ▸ h
  | elsewhere state cart confirmedCart => exact h

theorem kept_settle (h : Outstanding t) (hp : t.conversation.pending = some p)
    (hmoved : (settle t.conversation p added).1.pending = none ∨
      t.conversation.state ≠ (settle t.conversation p added).1.state) :
    t.requested ≤ t.answered + allocated added := by
  obtain ⟨hsum, -⟩ := h p hp
  simp only [settle] at hmoved
  split at hmoved
  next hremaining => omega
  next => simp at hmoved

theorem resolved_kept_iff (h : Outstanding t) (hp : t.conversation.pending = some p)
    (hresolved : Resolved text t.conversation p normText result)
    (hpass : passesOn text extractor t (.reply normText intent) = result.2.isNone)
    (hstep : step text extractor t (.reply normText intent) = ⟨result.1, t.requested,
      t.answered + if answers result.2 then gained t.conversation result.1 else 0⟩) :
    Kept text extractor t (.reply normText intent)
        (step text extractor t (.reply normText intent)) ↔
      slips text t (.reply normText intent) = false := by
  obtain ⟨hsum, hpos⟩ := h p hp
  unfold Kept
  simp only [hp, hpass, hstep, Option.isSome_some, forall_const, cancelledBy, slips]
  cases hresolved with
  | stale hstale =>
      have hless : ¬ t.requested ≤ t.answered := by omega
      simp [hstale, answers, hless]
  | cancelled hstale hneg =>
      have hless : ¬ t.requested ≤ t.answered := by omega
      simp [hneg, answers, hless]
  | reminder hstale hneg => simp [hstale, hneg, hp, confirms]
  | settled hstale hneg hmem =>
      rw [gained_settle hp hmem]
      rw [hstale, hneg, Bool.or_self, Bool.and_false]
      refine iff_of_true (fun hmoved => ?_) rfl
      refine .inr (kept_settle h hp ?_)
      rcases hmoved with hdropped | hpassed | hconfirms
      · exact .inl hdropped
      · simp only [settle] at hpassed
        split at hpassed <;> cases hpassed
      · right
        simp only [confirms, Bool.and_eq_true, decide_eq_true_eq] at hconfirms
        rw [hconfirms.2]
        exact hconfirms.1

theorem step_kept_iff (h : Outstanding t) :
    Kept text extractor t event (step text extractor t event) ↔
      Clean text t event (step text extractor t event) := by
  cases event with
  | reply normText intent =>
      cases hp : t.conversation.pending with
      | none => simp [Kept, Clean, slips, hp]
      | some p =>
          rcases reply_step text extractor hp normText intent with
            ⟨hsame, hpass, hclean⟩ | ⟨result, hresolved, hpass, hstep⟩
          · simp [Kept, Clean, slips, hsame, hpass, hp, hclean, confirms]
          · exact resolved_kept_iff h hp hresolved hpass hstep
  | order normText menuItems =>
      cases hp : t.conversation.pending with
      | none => simp [Kept, Clean, slips, hp]
      | some p => simp [Kept, Clean, slips, order_step hp, hp, passesOn, confirms]
  | elsewhere state cart confirmedCart =>
      cases hp : t.conversation.pending with
      | none => simp [Kept, Clean, slips, hp]
      | some p => simp [Kept, Clean, slips, step, hp, passesOn, confirms]

theorem allocation_kept_iff (hstart : t.conversation.pending = none)
    (hrun : Run.Along (Next text extractor) t steps) :
    Run.Along (Kept text extractor) t steps ↔ Run.Along (Clean text) t steps := by
  have houtstanding : Outstanding t := by
    intro p hp
    rw [hstart] at hp
    cases hp
  have hcarried := hrun.carrying houtstanding fun t event t' h hnext =>
    hnext ▸ outstanding_step h
  have hiff : ∀ t event t', Next text extractor t event t' ∧ Outstanding t →
      (Kept text extractor t event t' ↔ Clean text t event t') := by
    rintro t event t' ⟨hnext, h⟩
    rw [hnext]
    exact step_kept_iff h
  constructor
  · intro h
    exact (hcarried.and h).mono fun t event t' hboth => (hiff t event t' hboth.1).mp hboth.2
  · intro h
    exact (hcarried.and h).mono fun t event t' hboth => (hiff t event t' hboth.1).mpr hboth.2

end Runs

section Bambino

def bambino (id : Uuid) (name : String) : MenuItem where
  id := id
  businessId := 1
  name := name
  priceCents := 5000
  optionGroups := []
  removableIngredients := []
  addOnIds := []
  isActive := true
  isDeleted := false
  requiresPreparation := true

def bambinoMenu : List MenuItem := [bambino 1 "Bambino Meal: Jose", bambino 2 "Bambino Meal: Pedro"]

-- A menu with nothing else on it.
def onlyFamily : Extractor := ⟨fun _ => .ok [], fun _ => .ok []⟩

def afterOrder : Talk := ⟨⟨.orderPlaced, [], [], none⟩, 0, 0⟩

def played : Talk → List Event → List (Event × Talk)
  | _, [] => []
  | t, event :: events =>
      (event, step asciiText onlyFamily t event) ::
        played (step asciiText onlyFamily t event) events

theorem along_played {t : Talk} {events : List Event} :
    Run.Along (Next asciiText onlyFamily) t (played t events) := by
  induction events generalizing t with
  | nil => trivial
  | cons event events ih => exact ⟨rfl, ih⟩

theorem four_meals_allocated :
    Run.Along (Kept asciiText onlyFamily) afterOrder
      (played afterOrder [.order "4 bambino meals please" bambinoMenu,
        .reply "1 jose" none, .reply "two pedro and 1 jose" none]) :=
  (allocation_kept_iff rfl along_played).mpr (by decide +kernel)

-- Two of four are chosen, and the two that are left are taken for those.
theorem two_meals_lost :
    ¬ ∀ (text : Cart.Text) (extractor : Extractor) (t : Talk) (steps : List (Event × Talk)),
      t.conversation.pending = none → Run.Along (Next text extractor) t steps →
        Run.Along (Kept text extractor) t steps := by
  intro h
  have hkept := h asciiText onlyFamily afterOrder
    (played afterOrder [.order "4 bambino meals please" bambinoMenu,
      .reply "2 jose" none, .reply "thanks" none]) rfl along_played
  exact absurd hkept (by decide +kernel)

end Bambino

end NextgenBackend.Bot.Allocation
