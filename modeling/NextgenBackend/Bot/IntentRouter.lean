import NextgenBackend.Bot.Confirmations
import NextgenBackend.Bot.FreshOrders

namespace NextgenBackend.Bot.IntentRouter

open Confirmations (isConfirmation wholeReply)
open Detectors (any anyOf dont gap gaps lit said wordChar)
open FreshOrders (Gate Heard Talk)
open Pattern

-- Parts with one character or none between them, and with any of a line between them.
def loose (parts : List String) : Pattern := inOrder ((parts.map lit).intersperse (opt any))

def spanning (parts : List String) : Pattern := inOrder ((parts.map lit).intersperse (.many any))

def word (alternatives : List Pattern) : Pattern :=
  inOrder [.boundary, oneOf alternatives, .boundary]

def optOuts : List Pattern :=
  [lit "stop", lit "unsubscribe", loose ["opt", "out"], loose ["cancel", "sub"]]

def timesOfDay : Pattern := oneOf [lit "morning", lit "afternoon", lit "evening"]

def greetings : Pattern := oneOf ([
  "hi", "hello", "hey", "howzit", "heita", "yebo", "yo", "sup", "sharp", "morning",
  "afternoon"].map lit ++ [inOrder [lit "good", gaps, timesOfDay]] ++
  ["sawubona", "molo", "hola", "ola", "gday"].map lit)

def recommendations : List Pattern := [
  lit "recommend", lit "recommendation", lit "popular", loose ["best", "sell"],
  loose ["best", "seller"], loose ["what", "s good"], lit "what is good", loose ["what", "s nice"],
  loose ["what", "s great"], loose ["what", "s your best"], lit "what do you suggest",
  lit "suggest", lit "most ordered", loose ["fan", "fav"], lit "fan favourite",
  lit "fan favorite", loose ["must", "try"],
  .seq (lit "what should i ") (oneOf [lit "get", lit "order", lit "try", lit "have"]),
  lit "worth trying"]

def specials : List Pattern := [
  lit "special", lit "specials", lit "deal", lit "deals", lit "promo", lit "promotion",
  lit "discount", inOrder [loose ["today", "s"], .many any, lit "special"],
  spanning ["weekly", "special"]]

def serving : Pattern := oneOf [lit "have", lit "sell", lit "serve"]

def menus : List Pattern := [
  lit "menu", lit "food", lit "eat",
  inOrder [lit "what", gap, oneOf [
    inOrder [said ["do", "you"], gap, serving],
    .seq (.many any) serving]],
  spanning ["what", "available"], lit "price list", lit "show me", lit "items", lit "catalog",
  lit "catalogue", said ["next", "page"],
  inOrder [lit "more", gap, oneOf [lit "photos", lit "pictures", lit "images"]]]

def hours : List Pattern := [
  lit "hours", lit "open", lit "close", lit "closing", lit "opening", spanning ["when", "open"],
  lit "what time", lit "are you open", lit "still open", lit "operating"]

def locations : List Pattern := [
  lit "location", lit "where", lit "address", lit "directions", lit "find you",
  lit "where are you", spanning ["how", "get", "there"]]

def tracking : List Pattern := [
  lit "track", lit "status", spanning ["where", "my", "order"], spanning ["order", "status"],
  lit "how long", spanning ["ready", "yet"], lit "is it ready", spanning ["when", "ready"],
  lit "eta"]

def removals : List Pattern := [
  lit "remove", said ["take", "off"], said ["take", "out"], said ["take", "away"], lit "delete",
  said ["leave", "out"], said ["leave", "off"], lit "drop", said ["no", "more"],
  inOrder [dont, gap, said ["want", "the"]]]

def cancellations : List Pattern := [
  lit "cancel", lit "nevermind", lit "never mind", lit "forget it", .seq dont (lit " want"),
  lit "start over", lit "clear", lit "remove all", lit "scratch that"]

def politely (verb : String) : Pattern := inOrder [
  said [verb, "i"], gap, upTo (.seq (plus wordChar) gap) 2,
  oneOf [lit "get", lit "have", lit "order"]]

def orders : List Pattern := [
  lit "order", loose ["i", "d like"], lit "i want", politely "can", politely "could",
  politely "may",
  inOrder [loose ["i", "ll"], gap, oneOf [lit "take", lit "have", lit "get"]],
  lit "give me", lit "let me get", spanning ["place", "order"]]

def confirms : Pattern := inOrder [
  .start,
  oneOf [
    lit "yes", lit "yep", lit "yeah", lit "yah", lit "sure", lit "confirm",
    .seq (loose ["that", "s "]) (oneOf [lit "it", lit "all", lit "correct", lit "right"]),
    lit "looks good", lit "perfect", lit "sharp", lit "100", lit "lekker", lit "right", lit "cool",
    lit "ok", lit "okay", lit "done", lit "place it", lit "send it", lit "go ahead"],
  gaps, .many (.char ['.', '!'].contains), .finish]

def additions : List Pattern := [lit "add", lit "plus", lit "another", lit "extra"]

def carts : List Pattern := [
  lit "cart", lit "my order",
  inOrder [lit "what", .many any, oneOf [lit "did i", lit "have i"], .many any,
    oneOf [lit "order", lit "add"]],
  spanning ["show", "order"], spanning ["view", "cart"], spanning ["current", "order"],
  spanning ["order", "so far"],
  inOrder [lit "what", .many any, oneOf [lit "in", lit "on"], .many any, lit "my", .many any,
    lit "cart"]]

def people : List Pattern := [
  lit "human", lit "staff", lit "agent", lit "person", lit "someone", lit "call me",
  lit "speak to", lit "talk to", lit "real person", lit "manager", spanning ["help", "person"],
  lit "connect me"]

-- The first pattern that is found tells the intent.
def patterns : List (Pattern × MessageIntent) := [
  (word optOuts, .optOut),
  (inOrder [.start, greetings, .boundary], .greeting),
  (word recommendations, .recommendation),
  (word specials, .specialsRequest),
  (word menus, .menuRequest),
  (word hours, .hoursRequest),
  (word locations, .locationRequest),
  (word tracking, .orderTrack),
  (word removals, .orderRemove),
  (word cancellations, .orderCancel),
  (word orders, .orderStart),
  (confirms, .orderConfirm),
  (word additions, .orderAdd),
  (word carts, .viewCart),
  (word people, .humanHandoff)]

def matchIntent (text : String) : Option MessageIntent :=
  let stripped := Text.strip text.toList
  if stripped = [] then none
  else (patterns.find? fun p => (search Text.isWordChar p.1 stripped).isSome).map (·.2)

example : matchIntent "Hello, what do you have today?" = some .greeting := by decide +kernel

-- A message as it arrives, and what the platform knows at that time.
structure Incoming where
  msgText : String
  messagesAllowed : Bool
  heard : Heard
  -- the cart with the items that a greeting names, where it names any
  embedded : List CartItem → Option (List CartItem)
  hasMenuImage : Bool
  menuPages : List String

section Handling

variable (text : Cart.Text) (extractor : Allocation.Extractor) (business : Business)

def noteOf (msgText : String) : Option String :=
  let note := text.strip msgText
  if text.lower note ∈ ["skip", "no", "none", "n/a", "nope", "-"] then none else some note

def hearing (m : Incoming) : Heard :=
  let normText := Normalizer.normalize m.msgText
  { m.heard with
    normText := normText
    reading :=
      { m.heard.reading with
        text := text.strip m.msgText
        note := noteOf text m.msgText
        intent := matchIntent normText } }

def pureGreeting (normText : String) : Bool :=
  (matchAt Text.isWordChar (inOrder [.start, greetings,
    .many (.char fun c => ['!', '.', ','].contains c || Text.isSpace c), .finish]) []
    (Text.strip normText.toList)).isSome

def confirmYieldStates : List ConversationState := [.confirmingOrder, .waitingDeliveryFeeApproval]

def skipConfirmGateStates : List ConversationState :=
  [.confirmingOrder, .waitingDeliveryFeeApproval, .collectingPayment, .choosingOptions]

def setCarts (cart : List CartItem) (t : Talk) : Talk :=
  { t with turn := (t.turn.setDraft fun draft =>
      { draft with cart := cart, confirmedCart := cart }).to .confirmingOrder }

def greet (m : Incoming) (normText : String) (t : Talk) : Talk :=
  let greeted := { t with turn := t.turn.to .greeting }
  if pureGreeting normText then greeted
  else (m.embedded t.turn.draft.cart).elim greeted fun cart => setCarts cart greeted

def showMenu (m : Incoming) (t : Talk) : Talk :=
  let t := { t with
    lastShownMenuPage :=
      if m.hasMenuImage then t.lastShownMenuPage else m.menuPages.head?.or t.lastShownMenuPage }
  t.browse

def cancelOrder (t : Talk) : Talk :=
  let t := t.clearCart
  { t with turn := t.turn.to .idle }

def gateConfirmation (t : Talk) : Talk :=
  if t.turn.draft.cart = [] then t else setCarts t.turn.draft.cart t

-- The answers that need no language model; a message without one goes on to its state's handler.
def template (m : Incoming) (h : Heard) (t : Talk) : Option Talk :=
  match h.reading.intent with
  | some .greeting =>
      if confirmYieldStates.contains t.state ∧ isConfirmation text h.normText then none
      else some (greet m h.normText t)
  | some .menuRequest => some (showMenu m t)
  | some .specialsRequest => some t
  | some .hoursRequest => some t
  | some .locationRequest => if t.state = .collectingDetails then none else some t
  | some .orderCancel => some (cancelOrder t)
  | some .orderTrack => some t
  | some .viewCart => some t
  | some .orderConfirm =>
      if skipConfirmGateStates.contains t.state then none else some (gateConfirmation t)
  | some .humanHandoff => some { t with turn := t.turn.to .handoff }
  | _ => none

def handleMessage (m : Incoming) (h : Heard) (t : Talk) : Talk :=
  match Allocation.resolveVariantAllocationReply text extractor t.allocation h.normText
      h.reading.intent with
  | .error _ => t
  | .ok (c, some _) => t.allocated c
  | .ok (c, none) =>
      let t := t.allocated c
      let excluded := t.state = .collectingDetails ∨ t.state = .choosingOrderMode
      match h.picture.filter fun _ => ¬ excluded with
      | some picture => t.show picture
      | none =>
          match template text m h t with
          | some t' => t'
          | none =>
              if t.state = .collectingDetails then t.checkout business h
              else (t.route business h).1

def optOut (t : Talk) : Talk :=
  { t with turn := { t.turn with customer := { t.turn.customer with optedOut := true } } }

def process (m : Incoming) (t : Talk) : Talk :=
  let h := hearing text m
  let t := t.quiet
  if t.turn.customer.optedOut then t
  else if h.reading.intent = some .optOut then optOut t
  else if ¬ m.messagesAllowed then t
  else match h.gate with
    | some gate => t.notify gate
    | none => handleMessage text extractor business m h t

end Handling

-- What a delivery conversation that collects details waits for once it has a name and a number.
inductive Question where
  | address
  | notes
deriving DecidableEq

def Question.Open (draft : Draft) (pendingOrderId : Option Uuid) : Question → Prop
  | .address => draft.deliveryAddress = none
  | .notes => draft.deliveryAddress ≠ none ∧ draft.orderNotesAsked = true ∧
      draft.orderNotes = none ∧ pendingOrderId = none

structure Waiting (business : Business) where
  talk : Talk
  question : Question
  state : talk.state = .collectingDetails
  delivery : talk.turn.draft.orderMode = some .delivery
  named : business.requireCustomerName = true → talk.turn.draft.customerName ≠ none
  reachable : business.requirePhoneNumber = true → talk.turn.draft.phoneNumber ≠ none
  unanswered : question.Open talk.turn.draft talk.turn.conversation.context.pendingOrderId
  subscribed : talk.turn.customer.optedOut = false
  allocated : talk.pendingVariantAllocation = none

-- A reply that the business takes at that time of the day.
structure Reply extends Incoming where
  notBlank : Text.strip msgText.toList ≠ []
  allowed : messagesAllowed = true
  ungated : heard.gate = none

section Answers

variable (text : Cart.Text) (extractor : Allocation.Extractor) {business : Business}
  (w : Waiting business) (r : Reply)

def wholePhrase (msgText : String) : Bool :=
  (matchAt Text.isWordChar (wholeReply (oneOf (optOuts ++ cancellations))) []
    (Text.strip (Normalizer.normalize msgText).toList)).isSome

def passesOn (intent : Option MessageIntent) : Bool :=
  intent ∈ [none, some .recommendation, some .locationRequest, some .orderRemove,
    some .orderStart, some .orderAdd, some .unknown]

def Question.store (msgText : String) (turn : Turn) : Question → Turn
  | .address => turn.setDraft fun draft => { draft with deliveryAddress := some (text.strip msgText) }
  | .notes => turn.setDraft fun draft => { draft with orderNotes := some (noteOf text msgText) }

def Question.Stored (msgText : String) (draft : Draft) : Question → Prop
  | .address => draft.deliveryAddress = some (text.strip msgText)
  | .notes => draft.orderNotes = some (noteOf text msgText)

-- The order that the answer completes is made from the draft as it was before it is cleared.
def placedDraft (turn : Turn) : Draft :=
  match turn.effect with
  | some (.placeOrder _ _ context) => context.draft
  | _ => turn.draft

-- The conversation as it goes on with the whole reply for an answer.
def answered : Talk :=
  let stored := w.question.store text r.msgText w.talk.quiet.turn
  { w.talk.quiet with
    turn :=
      if w.question = .address ∧ missingDetails business stored.draft then stored
      else nextAfterDetails business r.heard.newOrderId r.heard.ordersAllowed stored }

structure Honoured (after : Talk) : Prop where
  stored : w.question.Stored text r.msgText (placedDraft after.turn)
  unaffected : after = answered text w r

end Answers

section Routing

variable {text : Cart.Text} {extractor : Allocation.Extractor} {business : Business}
  {w : Waiting business} {r : Reply}

theorem allocated_allocation (t : Talk) : t.allocated t.allocation = t := by
  have hitems (items : List CartItem) :
      (items.map FreshOrders.itemLine).map FreshOrders.lineItem = items := by
    rw [List.map_map]
    exact List.map_id _
  unfold Talk.allocated Talk.allocation Turn.setDraft Turn.setContext Turn.to
  simp only [hitems]
  rfl

theorem handleMessage_waiting : handleMessage text extractor business r.toIncoming
    (hearing text r.toIncoming) w.talk.quiet =
      (template text r.toIncoming (hearing text r.toIncoming) w.talk.quiet).getD
        (w.talk.quiet.checkout business (hearing text r.toIncoming)) := by
  have hpending : w.talk.quiet.allocation.pending = none := w.allocated
  have hstate : w.talk.quiet.state = .collectingDetails := w.state
  have hresolved : Allocation.resolveVariantAllocationReply text extractor w.talk.quiet.allocation
      (hearing text r.toIncoming).normText (hearing text r.toIncoming).reading.intent =
        .ok (w.talk.quiet.allocation, none) := by
    unfold Allocation.resolveVariantAllocationReply
    rw [hpending]
  unfold handleMessage
  rw [hresolved]
  have hpicture : (hearing text r.toIncoming).picture.filter (fun _ => false) = none := by
    cases (hearing text r.toIncoming).picture <;> rfl
  simp only [allocated_allocation, hstate, true_or, not_true_eq_false, decide_false, hpicture,
    if_true]
  cases template text r.toIncoming (hearing text r.toIncoming) w.talk.quiet with
  | none => rfl
  | some t => rfl

theorem hearing_intent : (hearing text m).reading.intent =
    matchIntent (Normalizer.normalize m.msgText) := by
  simp only [hearing]

theorem process_waiting : process text extractor business r.toIncoming w.talk =
    if matchIntent (Normalizer.normalize r.msgText) = some .optOut then optOut w.talk.quiet
    else (template text r.toIncoming (hearing text r.toIncoming) w.talk.quiet).getD
      (w.talk.quiet.checkout business (hearing text r.toIncoming)) := by
  have hsubscribed : w.talk.quiet.turn.customer.optedOut = false := w.subscribed
  have hgate : (hearing text r.toIncoming).gate = none := r.ungated
  unfold process
  dsimp only
  rw [hsubscribed, if_neg Bool.false_ne_true, hearing_intent]
  refine if_congr Iff.rfl rfl ?_
  rw [if_neg (not_not.mpr r.allowed), hgate]
  exact handleMessage_waiting

theorem checkout_waiting :
    w.talk.quiet.checkout business (hearing text r.toIncoming) = answered text w r := by
  obtain ⟨t, question, hstate, hdelivery, hnamed, hreachable, hopen, -, -⟩ := w
  have hname : ¬ (business.requireCustomerName = true ∧ t.quiet.turn.draft.customerName = none) :=
    fun h => hnamed h.1 h.2
  have hphone : ¬ (business.requirePhoneNumber = true ∧ t.quiet.turn.draft.phoneNumber = none) :=
    fun h => hreachable h.1 h.2
  have hdetails (h : Heard) : t.quiet.checkout business h =
      { t.quiet with
        turn := handleCollectingDetails business h.newOrderId h.ordersAllowed
          { h.reading with chat := fun _ _ => none } t.quiet.turn } := by
    have hcollecting : t.quiet.turn.conversation.state = .collectingDetails := hstate
    unfold Talk.checkout Bot.handleMessage
    rw [hcollecting]
  rw [hdetails]
  unfold handleCollectingDetails answered
  dsimp only
  rw [if_neg hname, if_neg hphone]
  cases question with
  | address =>
      have hawaited : t.quiet.turn.draft.orderMode = some .delivery ∧
          t.quiet.turn.draft.deliveryAddress = none := ⟨hdelivery, hopen⟩
      rw [if_pos hawaited]
      simp only [true_and]
      rfl
  | notes =>
      have hknown : ¬ (t.quiet.turn.draft.orderMode = some .delivery ∧
          t.quiet.turn.draft.deliveryAddress = none) := fun h => hopen.1 h.2
      have hasked : t.quiet.turn.draft.orderNotesAsked = true ∧
          t.quiet.turn.draft.orderNotes = none := ⟨hopen.2.1, hopen.2.2.1⟩
      rw [if_neg hknown, if_pos hasked, if_neg (by simp)]
      rfl

section Kept

variable {turn turn' : Turn} {newOrderId : Uuid} {ordersAllowed : Bool} {draft : Draft}

-- The details that a draft holds are still there, or went into an order.
structure Keeps (draft : Draft) (turn : Turn) : Prop where
  deliveryAddress : (placedDraft turn).deliveryAddress = draft.deliveryAddress
  orderNotes : (placedDraft turn).orderNotes = draft.orderNotes

theorem placedDraft_of_quiet (h : turn.effect = none) : placedDraft turn = turn.draft := by
  unfold placedDraft
  rw [h]

theorem keeps_of_quiet (h : turn'.effect = none) (haddress : turn'.draft.deliveryAddress = draft.deliveryAddress)
    (hnotes : turn'.draft.orderNotes = draft.orderNotes) : Keeps draft turn' :=
  ⟨by rw [placedDraft_of_quiet h, haddress], by rw [placedDraft_of_quiet h, hnotes]⟩

theorem keeps_placed {status : OrderStatus} {set : Context → Context} {state : ConversationState} :
    Keeps turn.draft (((placed turn status).setContext set).to state) := by
  have hlocked (context : Context) : (lockCart context).draft.deliveryAddress =
      context.draft.deliveryAddress ∧
        (lockCart context).draft.orderNotes = context.draft.orderNotes := by
    unfold lockCart
    split <;> exact ⟨rfl, rfl⟩
  exact ⟨(hlocked _).1, (hlocked _).2⟩

theorem handleOrderConfirmation_keeps (h : turn.effect = none) :
    Keeps turn.draft (handleOrderConfirmation business newOrderId ordersAllowed turn) := by
  unfold handleOrderConfirmation
  split
  · exact keeps_of_quiet h rfl rfl
  · dsimp only
    generalize turn.draft.orderMode.getD (if business.orderInOnly then OrderMode.dineIn else .pickup) = mode
    split
    · exact keeps_of_quiet h rfl rfl
    · split
      · exact keeps_of_quiet h rfl rfl
      · have hplaced (status : OrderStatus) (set : Context → Context) (state : ConversationState) :
            Keeps turn.draft (((placed (turn.setDraft fun draft =>
              { draft with orderMode := some mode }) status).setContext set).to state) :=
          ⟨keeps_placed.deliveryAddress, keeps_placed.orderNotes⟩
        split
        · split
          · exact keeps_of_quiet h rfl rfl
          · exact hplaced _ _ _
        · split
          · exact keeps_of_quiet h rfl rfl
          · exact hplaced _ _ _

theorem finalize_address (h : turn.effect = none) :
    (placedDraft (finalizePendingDeliveryOrder business turn)).deliveryAddress =
      turn.draft.deliveryAddress := by
  unfold finalizePendingDeliveryOrder
  dsimp only
  split
  · rw [placedDraft_of_quiet h]
  · rfl

theorem stored_answered :
    w.question.Stored text r.msgText (placedDraft (answered text w r).turn) := by
  obtain ⟨t, question, hstate, hdelivery, hnamed, hreachable, hopen, -, -⟩ := w
  cases question with
  | address =>
      have haddress : (t.quiet.turn.setDraft fun draft =>
          { draft with deliveryAddress := some (text.strip r.msgText) }).draft.deliveryAddress =
            some (text.strip r.msgText) := rfl
      unfold answered Question.store Question.Stored
      dsimp only
      split
      · exact haddress
      · unfold nextAfterDetails
        split
        · exact finalize_address rfl
        · exact (handleOrderConfirmation_keeps rfl).deliveryAddress
  | notes =>
      have hpending : (t.quiet.turn.setDraft fun draft =>
          { draft with orderNotes := some (noteOf text r.msgText) }).conversation.context.pendingOrderId =
            none := hopen.2.2.2
      unfold answered Question.store Question.Stored
      dsimp only
      rw [if_neg (by simp), nextAfterDetails, hpending]
      exact (handleOrderConfirmation_keeps rfl).orderNotes

-- A template answers without a detail: it keeps the address, and the notes unless it clears them.
structure Leaves (t t' : Talk) : Prop where
  effect : t'.turn.effect = t.turn.effect
  deliveryAddress : t'.turn.draft.deliveryAddress = t.turn.draft.deliveryAddress
  orderNotes : t'.turn.draft.orderNotes = t.turn.draft.orderNotes ∨
    t'.turn.draft.orderNotes = none

variable {t t' : Talk} {m : Incoming} {h : Heard}

theorem Leaves.refl : Leaves t t := ⟨rfl, rfl, .inl rfl⟩

theorem greet_leaves {normText : String} : Leaves t (greet m normText t) := by
  unfold greet
  dsimp only
  split
  · exact ⟨rfl, rfl, .inl rfl⟩
  · cases m.embedded t.turn.draft.cart with
    | none => exact ⟨rfl, rfl, .inl rfl⟩
    | some cart => exact ⟨rfl, rfl, .inl rfl⟩

theorem browse_leaves : Leaves t t.browse := by
  unfold Talk.browse
  split
  · exact Leaves.refl
  · exact ⟨rfl, rfl, .inl rfl⟩

theorem showMenu_leaves : Leaves t (showMenu m t) := by
  obtain ⟨heffect, haddress, hnotes⟩ := @browse_leaves { t with
    lastShownMenuPage :=
      if m.hasMenuImage then t.lastShownMenuPage else m.menuPages.head?.or t.lastShownMenuPage }
  exact ⟨heffect, haddress, hnotes⟩

theorem gateConfirmation_leaves : Leaves t (gateConfirmation t) := by
  unfold gateConfirmation
  split
  · exact Leaves.refl
  · exact ⟨rfl, rfl, .inl rfl⟩

theorem template_leaves (ht : template text m h t = some t') : Leaves t t' := by
  unfold template at ht
  split at ht
  · split at ht
    · cases ht
    · obtain rfl := Option.some.inj ht
      exact greet_leaves
  · obtain rfl := Option.some.inj ht
    exact showMenu_leaves
  · obtain rfl := Option.some.inj ht
    exact Leaves.refl
  · obtain rfl := Option.some.inj ht
    exact Leaves.refl
  · split at ht
    · cases ht
    · obtain rfl := Option.some.inj ht
      exact Leaves.refl
  · obtain rfl := Option.some.inj ht
    exact ⟨rfl, rfl, .inr rfl⟩
  · obtain rfl := Option.some.inj ht
    exact Leaves.refl
  · obtain rfl := Option.some.inj ht
    exact Leaves.refl
  · split at ht
    · cases ht
    · obtain rfl := Option.some.inj ht
      exact gateConfirmation_leaves
  · obtain rfl := Option.some.inj ht
    exact ⟨rfl, rfl, .inl rfl⟩
  · cases ht

theorem not_stored_of_leaves {msgText : String} (hleaves : Leaves w.talk.quiet t') :
    ¬ w.question.Stored text msgText (placedDraft t'.turn) := by
  have hopen := w.unanswered
  rw [placedDraft_of_quiet hleaves.effect]
  cases hquestion : w.question with
  | address =>
      rw [hquestion] at hopen
      have hnone : t'.turn.draft.deliveryAddress = none := hleaves.deliveryAddress.trans hopen
      unfold Question.Stored
      rw [hnone]
      exact nofun
  | notes =>
      rw [hquestion] at hopen
      have hnone : t'.turn.draft.orderNotes = none :=
        hleaves.orderNotes.elim (fun hsame => hsame.trans hopen.2.2.1) id
      unfold Question.Stored
      rw [hnone]
      exact nofun

-- In this state the intents that have a template are the ones that do not pass on.
theorem template_isSome_iff (text : Cart.Text) (m : Incoming) (h : Heard)
    (hstate : t.state = .collectingDetails) :
    (template text m h t).isSome ↔
      h.reading.intent ≠ some .optOut ∧ passesOn h.reading.intent = false := by
  unfold template
  rw [hstate]
  cases h.reading.intent with
  | none => simp [passesOn]
  | some intent => cases intent <;> simp [passesOn, confirmYieldStates, skipConfirmGateStates]

theorem process_of_passesOn
    (hpasses : passesOn (matchIntent (Normalizer.normalize r.msgText)) = true) :
    process text extractor business r.toIncoming w.talk = answered text w r := by
  have hnone : template text r.toIncoming (hearing text r.toIncoming) w.talk.quiet = none := by
    have hiff := template_isSome_iff text r.toIncoming (hearing text r.toIncoming)
      (t := w.talk.quiet) w.state
    rw [hearing_intent] at hiff
    exact Option.not_isSome_iff_eq_none.mp fun hsome =>
      Bool.false_ne_true ((hiff.mp hsome).2.symm.trans hpasses)
  have hsubscribed : matchIntent (Normalizer.normalize r.msgText) ≠ some .optOut := by
    intro hoptOut
    rw [hoptOut] at hpasses
    cases hpasses
  rw [process_waiting, if_neg hsubscribed, hnone, Option.getD_none, checkout_waiting]

theorem process_leaves
    (hintercepted : passesOn (matchIntent (Normalizer.normalize r.msgText)) = false) :
    Leaves w.talk.quiet (process text extractor business r.toIncoming w.talk) := by
  rw [process_waiting]
  split
  · exact ⟨rfl, rfl, .inl rfl⟩
  next hsubscribed =>
    have hiff := template_isSome_iff text r.toIncoming (hearing text r.toIncoming)
      (t := w.talk.quiet) w.state
    rw [hearing_intent] at hiff
    obtain ⟨t', ht'⟩ := Option.isSome_iff_exists.mp (hiff.mpr ⟨hsubscribed, hintercepted⟩)
    rw [ht', Option.getD_some]
    exact template_leaves ht'

theorem reply_kept_iff (text : Cart.Text) (extractor : Allocation.Extractor) {business : Business}
    (w : Waiting business) (r : Reply) :
    (wholePhrase r.msgText = false →
        Honoured text w r (process text extractor business r.toIncoming w.talk)) ↔
      wholePhrase r.msgText = true ∨
        passesOn (matchIntent (Normalizer.normalize r.msgText)) = true := by
  constructor
  · intro hkept
    by_contra hneither
    obtain ⟨hphrase, hintercepted⟩ := not_or.mp hneither
    have hstored := (hkept (Bool.eq_false_iff.mpr hphrase)).stored
    exact not_stored_of_leaves (process_leaves (Bool.eq_false_iff.mpr hintercepted)) hstored
  · rintro (hphrase | hpasses) hnot
    · rw [hphrase] at hnot
      cases hnot
    · rw [process_of_passesOn hpasses]
      exact ⟨stored_answered, rfl⟩

def awaitingAddress : Waiting FreshOrders.pizzeria where
  talk :=
    let talk := FreshOrders.after { cart := [FreshOrders.pizza], orderMode := some .delivery } none
    { talk with turn := talk.turn.to .collectingDetails }
  question := .address
  state := rfl
  delivery := rfl
  named := nofun
  reachable := nofun
  unanswered := rfl
  subscribed := rfl
  allocated := rfl

def foodLane : Reply where
  msgText := "12 Food Lane"
  messagesAllowed := true
  heard := FreshOrders.said "" fun _ => none
  embedded := fun _ => none
  hasMenuImage := false
  menuPages := []
  notBlank := by decide
  allowed := rfl
  ungated := rfl

-- The menu is sent for an answer, and the address is asked for again.
theorem food_lane_not_kept : ¬ (wholePhrase foodLane.msgText = false →
    Honoured Detectors.asciiText awaitingAddress foodLane
      (process Detectors.asciiText Allocation.onlyFamily FreshOrders.pizzeria foodLane.toIncoming
        awaitingAddress.talk)) := by
  intro hkept
  have hphrase : wholePhrase foodLane.msgText = false := by decide +kernel
  have hmenu : passesOn (matchIntent (Normalizer.normalize foodLane.msgText)) = false := by
    decide +kernel
  have hleaves := @process_leaves Detectors.asciiText Allocation.onlyFamily FreshOrders.pizzeria
    awaitingAddress foodLane hmenu
  exact not_stored_of_leaves hleaves (hkept hphrase).stored

end Kept

end Routing

end NextgenBackend.Bot.IntentRouter
