import NextgenBackend.Bot.Dialogue
import NextgenBackend.Bot.VariantAllocation

namespace NextgenBackend.Bot.FreshOrders

open Allocation (PendingAllocation Extractor resolveVariantAllocationReply)
open Llm (PyError)

-- What the bot still wants to know about items, and what it has offered.
structure Choices where
  pendingOptions : Option (List Llm.Pending) := none
  proposedItems : Option (List Llm.Extracted) := none
  recommendedItems : Option (List Llm.Pending) := none

structure Talk where
  turn : Turn
  choices : Choices
  pendingVariantAllocation : Option PendingAllocation
  lastShownMenuPage : Option String

def Talk.state (t : Talk) : ConversationState := t.turn.conversation.state

def Talk.clearCart (t : Talk) : Talk :=
  { t with turn := t.turn.setContext Bot.clearCart, choices := {} }

def itemLine (item : CartItem) : Cart.Line where
  menuItemId := item.menuItemId
  name := item.name
  priceCents := item.breakdown.unitPriceCents
  basePriceCents := item.breakdown.basePriceCents
  selectedOptions := item.selectedOptions
  addOns := item.addOns
  optionAdjustmentCents := item.breakdown.optionAdjustmentCents
  addOnTotalCents := item.breakdown.addOnTotalCents
  unitPriceCents := item.breakdown.unitPriceCents
  quantity := item.breakdown.quantity
  lineTotalCents := item.breakdown.lineTotalCents
  options := none
  specialInstructions := item.specialInstructions

def lineItem (line : Cart.Line) : CartItem where
  menuItemId := line.menuItemId
  name := line.name
  breakdown :=
    { basePriceCents := line.basePriceCents
      optionAdjustmentCents := line.optionAdjustmentCents
      addOnTotalCents := line.addOnTotalCents
      unitPriceCents := line.unitPriceCents
      quantity := line.quantity
      lineTotalCents := line.lineTotalCents }
  selectedOptions := line.selectedOptions
  addOns := line.addOns
  specialInstructions := line.specialInstructions

def Talk.allocation (t : Talk) : Allocation.Conversation where
  state := t.state
  cart := t.turn.draft.cart.map itemLine
  confirmedCart := t.turn.draft.confirmedCart.map itemLine
  pending := t.pendingVariantAllocation

def Talk.allocated (t : Talk) (c : Allocation.Conversation) : Talk :=
  { t with
    turn := (t.turn.setDraft fun draft =>
      { draft with
        cart := c.cart.map lineItem
        confirmedCart := c.confirmedCart.map lineItem }).to c.state
    pendingVariantAllocation := c.pending }

-- All that the ordering handlers read of a conversation.
structure Basket where
  state : ConversationState
  cart : List CartItem
  confirmedCart : List CartItem
  orderMode : Option OrderMode
  choices : Choices

def Talk.basket (t : Talk) : Basket where
  state := t.state
  cart := t.turn.draft.cart
  confirmedCart := t.turn.draft.confirmedCart
  orderMode := t.turn.draft.orderMode
  choices := t.choices

-- What they make of it: they may clear the cart first, and may ask which variants are meant.
structure Ordered where
  cleared : Bool
  state : ConversationState
  cart : List CartItem
  confirmedCart : List CartItem
  choices : Choices
  asksFor : Option PendingAllocation
  reply : String

def Talk.ordered (t : Talk) (o : Ordered) : Talk :=
  let t := if o.cleared then t.clearCart else t
  { t with
    turn := (t.turn.setDraft fun draft =>
      { draft with cart := o.cart, confirmedCart := o.confirmedCart }).to o.state
    choices := o.choices
    pendingVariantAllocation := o.asksFor.or t.pendingVariantAllocation }

inductive Gate where
  | closed (today : String)
  | paused (key : String)

def Talk.notify (t : Talk) (gate : Gate) : Talk :=
  { t with
    turn := t.turn.setContext fun context =>
      match gate with
      | .closed today => { context with closedMsgSentDate := some today }
      | .paused key => { context with busyMsgSentFor := some key } }

-- A picture of a product, of a page of the menu, or of the page after the last one shown.
inductive Picture where
  | product
  | page (name : String)
  | next (pages : List String)

def nextPage (pages : List String) (lastShown : Option String) : Option String :=
  match lastShown.bind fun page => pages.findIdx? (· = page) with
  | none => pages.head?
  | some i => pages[i + 1]?

def orderActiveStates : List ConversationState := [.buildingCart, .confirmingOrder, .collectingDetails]

def Talk.browse (t : Talk) : Talk :=
  if orderActiveStates.contains t.state then t else { t with turn := t.turn.to .browsingMenu }

def Talk.show (t : Talk) (picture : Picture) : Talk :=
  let shown := match picture with
    | .product => none
    | .page name => some name
    | .next pages => nextPage pages t.lastShownMenuPage
  { t.browse with lastShownMenuPage := shown.or t.lastShownMenuPage }

-- A message as it arrives, what is read in it, and what the platform knows at that time.
structure Heard where
  gate : Option Gate
  normText : String
  picture : Option Picture
  ordering : Basket → Option Ordered
  reading : Reading
  newOrderId : Uuid
  ordersAllowed : Bool
  lastOrder : Option Order

inductive Asked where
  | closed
  | failed
  | allocation (reply : Allocation.Reply)
  | picture
  | ordering (reply : String)
  | checkout

section Hearing

variable (text : Cart.Text) (extractor : Extractor) (business : Business)

def Talk.checkout (t : Talk) (h : Heard) : Talk :=
  { t with
    turn := handleMessage business h.newOrderId h.ordersAllowed h.lastOrder
      { h.reading with chat := fun _ _ => none } t.turn }

def Talk.route (t : Talk) (h : Heard) : Talk × Asked :=
  let excluded := t.state = .collectingDetails ∨ t.state = .choosingOrderMode
  match h.picture.filter fun _ => ¬ excluded with
  | some picture => (t.show picture, .picture)
  | none =>
      match h.ordering t.basket with
      | some o => (t.ordered o, .ordering o.reply)
      | none => (t.checkout business h, .checkout)

def Talk.quiet (t : Talk) : Talk := { t with turn := { t.turn with effect := none } }

def Talk.hear (t : Talk) (h : Heard) : Talk × Asked :=
  let t := t.quiet
  match h.gate with
  | some gate => (t.notify gate, .closed)
  | none =>
      match resolveVariantAllocationReply text extractor t.allocation h.normText h.reading.intent with
      | .error _ => (t, .failed)
      | .ok (c, some reply) => (t.allocated c, .allocation reply)
      | .ok (c, none) => (t.allocated c).route business h

end Hearing

-- A conversation without the dates of its notices, its times and the page of the menu it is at.
def forgetNotices (context : Context) : Context :=
  { context with closedMsgSentDate := none, busyMsgSentFor := none }

def forgetEffect : Effect → Effect
  | .placeOrder superseded status context =>
      .placeOrder superseded status (forgetNotices context)
  | .rejectDeliveryFee orderId => .rejectDeliveryFee orderId
  | .finalizeDelivery orderId feeCents payment => .finalizeDelivery orderId feeCents payment

def forgetTurn (turn : Turn) : Turn :=
  { turn with
    conversation :=
      { turn.conversation with
        context := forgetNotices turn.conversation.context
        lastActivityAt := 0
        expiresAt := none }
    effect := turn.effect.map forgetEffect }

def Talk.forget (t : Talk) : Talk :=
  { t with turn := forgetTurn t.turn, lastShownMenuPage := none }

section Checkout

variable {business : Business} {newOrderId : Uuid} {ordersAllowed : Bool} {turn : Turn}
  {reading : Reading} {state : ConversationState}

@[simp]
theorem forget_draft : (forgetTurn turn).draft = turn.draft := rfl

@[simp]
theorem forget_customer : (forgetTurn turn).customer = turn.customer := rfl

@[simp]
theorem forget_setDraft {set : Draft → Draft} :
    (forgetTurn turn).setDraft set = forgetTurn (turn.setDraft set) := rfl

@[simp]
theorem forget_to : (forgetTurn turn).to state = forgetTurn (turn.to state) := rfl

@[simp]
theorem forget_clearCart :
    (forgetTurn turn).setContext clearCart = forgetTurn (turn.setContext clearCart) := rfl

@[simp]
theorem forget_placed {status : OrderStatus} :
    placed (forgetTurn turn) status = forgetTurn (placed turn status) := by
  by_cases hcart : turn.conversation.context.draft.cart = []
  · simp [placed, Turn.setContext, lockCart, forgetTurn, forgetNotices, forgetEffect, hcart]
  · simp [placed, Turn.setContext, lockCart, forgetTurn, forgetNotices, forgetEffect, hcart]

theorem forget_parkDelivery :
    parkDelivery (forgetTurn turn) newOrderId = forgetTurn (parkDelivery turn newOrderId) := by
  unfold parkDelivery
  rw [forget_placed]
  rfl

theorem forget_handleOrderConfirmation :
    handleOrderConfirmation business newOrderId ordersAllowed (forgetTurn turn) =
      forgetTurn (handleOrderConfirmation business newOrderId ordersAllowed turn) := by
  have hstatus (turn : Turn) : (forgetTurn turn).conversation.context.deliveryFeeStatus =
      turn.conversation.context.deliveryFeeStatus := rfl
  unfold handleOrderConfirmation
  rw [forget_draft]
  split
  · rfl
  · simp only [forget_setDraft, forget_draft, forget_customer, forget_to, forget_placed,
      forget_clearCart, forget_parkDelivery, hstatus, apply_ite forgetTurn]

theorem forget_finalizePendingDeliveryOrder :
    finalizePendingDeliveryOrder business (forgetTurn turn) =
      forgetTurn (finalizePendingDeliveryOrder business turn) := by
  unfold finalizePendingDeliveryOrder
  have hpending : (forgetTurn turn).conversation.context.pendingOrderId =
      turn.conversation.context.pendingOrderId := rfl
  simp only [hpending]
  split
  · rfl
  · rfl

theorem forget_handleChoosingOrderMode :
    handleChoosingOrderMode business newOrderId ordersAllowed reading (forgetTurn turn) =
      forgetTurn (handleChoosingOrderMode business newOrderId ordersAllowed reading turn) := by
  unfold handleChoosingOrderMode
  split
  · rfl
  · rw [forget_setDraft, forget_to, forget_handleOrderConfirmation]

theorem forget_handleWaitingDeliveryFee :
    handleWaitingDeliveryFee business reading (forgetTurn turn) =
      forgetTurn (handleWaitingDeliveryFee business reading turn) := by
  have happroved : (forgetTurn turn).setContext (fun context =>
        { context with deliveryFeeStatus := some .approved }) =
      forgetTurn (turn.setContext fun context =>
        { context with deliveryFeeStatus := some .approved }) := rfl
  unfold handleWaitingDeliveryFee
  split
  · simp only [happroved, forget_finalizePendingDeliveryOrder, forget_to, apply_ite forgetTurn]
  · split
    · have hrejected (rejected : Option Uuid) :
          (rejected.map Effect.rejectDeliveryFee).map forgetEffect =
            rejected.map Effect.rejectDeliveryFee := by
        cases rejected <;> rfl
      simp only [forgetTurn, hrejected]
      rfl
    · rfl

theorem forget_handleCollectingPayment :
    handleCollectingPayment business reading (forgetTurn turn) =
      forgetTurn (handleCollectingPayment business reading turn) := by
  have hpaid (payment : ChosenPayment) : (forgetTurn turn).setContext (fun context =>
        { context with paymentMethod := some payment }) =
      forgetTurn (turn.setContext fun context =>
        { context with paymentMethod := some payment }) := rfl
  unfold handleCollectingPayment
  split
  · rfl
  · simp only [hpaid, forget_draft, forget_customer, forget_to,
      forget_finalizePendingDeliveryOrder, apply_ite forgetTurn]

theorem forget_nextAfterDetails :
    nextAfterDetails business newOrderId ordersAllowed (forgetTurn turn) =
      forgetTurn (nextAfterDetails business newOrderId ordersAllowed turn) := by
  have hpending : (forgetTurn turn).conversation.context.pendingOrderId =
      turn.conversation.context.pendingOrderId := rfl
  unfold nextAfterDetails
  rw [forget_finalizePendingDeliveryOrder, forget_handleOrderConfirmation, hpending,
    apply_ite forgetTurn]

theorem forget_captureName {name : String} {phoneLine : Option String} :
    captureName business name phoneLine (forgetTurn turn) =
      forgetTurn (captureName business name phoneLine turn) := by
  unfold captureName
  cases phoneLine with
  | none => rfl
  | some phone =>
      simp only [apply_ite forgetTurn]
      rfl

theorem forget_handleCollectingDetails :
    handleCollectingDetails business newOrderId ordersAllowed reading (forgetTurn turn) =
      forgetTurn (handleCollectingDetails business newOrderId ordersAllowed reading turn) := by
  have hphone (phone : String) :
      capturePhone phone (forgetTurn turn) = forgetTurn (capturePhone phone turn) := rfl
  unfold handleCollectingDetails
  simp only [forget_draft, forget_setDraft, forget_nextAfterDetails, apply_ite forgetTurn]
  congr 1
  · cases reading.name with
    | none => rfl
    | some name =>
        simp only [forget_captureName, forget_draft, forget_nextAfterDetails, apply_ite forgetTurn]
  · congr 1
    cases reading.phoneDigits with
    | none => rfl
    | some phone =>
        simp only [hphone, forget_draft, forget_nextAfterDetails, apply_ite forgetTurn]

theorem forget_guardPlacedOrder {lastOrder : Option Order} :
    guardPlacedOrder lastOrder (forgetTurn turn) = forgetTurn (guardPlacedOrder lastOrder turn) := by
  unfold guardPlacedOrder
  split
  · rfl
  · simp only [apply_ite forgetTurn]
    rfl

theorem forget_handleMessage {lastOrder : Option Order} :
    handleMessage business newOrderId ordersAllowed lastOrder reading (forgetTurn turn) =
      forgetTurn (handleMessage business newOrderId ordersAllowed lastOrder reading turn) := by
  have hstate : (forgetTurn turn).conversation.state = turn.conversation.state := rfl
  unfold handleMessage
  rw [forget_draft, hstate]
  split
  next chat _ =>
    unfold applyChat
    cases chat.cleared <;> cases chat.next <;> rfl
  next =>
    split
    · rw [forget_guardPlacedOrder, apply_ite forgetTurn]
    · simp only [forget_setDraft, forget_handleOrderConfirmation, apply_ite forgetTurn]
    · exact forget_handleChoosingOrderMode
    · exact forget_handleWaitingDeliveryFee
    · exact forget_handleCollectingPayment
    · exact forget_handleCollectingDetails
    · rfl

end Checkout

section Runs

variable {text : Cart.Text} {extractor : Extractor} {business : Business} {t t' : Talk} {h : Heard}

-- What a customer sees of a message's outcome, and the order that comes of it.
structure Shown where
  asked : Asked
  state : ConversationState
  cart : List CartItem
  order : Option Effect

def answer (text : Cart.Text) (extractor : Extractor) (business : Business) (t : Talk) (h : Heard) :
    Talk × Shown :=
  let heard := t.hear text extractor business h
  (heard.1, ⟨heard.2, heard.1.state, heard.1.turn.draft.cart,
    heard.1.turn.effect.map forgetEffect⟩)

structure SameCustomer (t t' : Talk) : Prop where
  customer : t.turn.customer = t'.turn.customer
  businessId : t.turn.conversation.businessId = t'.turn.conversation.businessId
  customerId : t.turn.conversation.customerId = t'.turn.conversation.customerId
  state : t.state = t'.state
  customerName : t.turn.draft.customerName = t'.turn.draft.customerName
  phoneNumber : t.turn.draft.phoneNumber = t'.turn.draft.phoneNumber

-- What an order leaves behind that a later one reads.
structure SameLeftovers (t t' : Talk) : Prop where
  deliveryAddress : t.turn.draft.deliveryAddress = t'.turn.draft.deliveryAddress
  allocation : t.pendingVariantAllocation = t'.pendingVariantAllocation

theorem forget_forget : t.forget.forget = t.forget := by
  have heffect (effect : Option Effect) :
      (effect.map forgetEffect).map forgetEffect = effect.map forgetEffect := by
    rcases effect with _ | _ | _ | _ <;> rfl
  simp only [Talk.forget, forgetTurn, heffect]
  rfl

theorem forget_show {picture : Picture} : (t.forget.show picture).forget = (t.show picture).forget := by
  have hbrowse : t.forget.browse = t.browse.forget := by
    by_cases hactive : orderActiveStates.contains t.state = true
    · have hactive' : orderActiveStates.contains t.forget.state = true := hactive
      rw [Talk.browse, Talk.browse, if_pos hactive, if_pos hactive']
    · have hactive' : ¬ orderActiveStates.contains t.forget.state = true := hactive
      rw [Talk.browse, Talk.browse, if_neg hactive, if_neg hactive']
      rfl
  unfold Talk.show
  rw [hbrowse]
  exact forget_forget

theorem forget_ordered {o : Ordered} : t.forget.ordered o = (t.ordered o).forget := by
  unfold Talk.ordered
  cases o.cleared <;> rfl

theorem forget_checkout : t.forget.checkout business h = (t.checkout business h).forget := by
  unfold Talk.checkout Talk.forget
  rw [forget_handleMessage]

theorem forget_route : (t.forget.route business h).2 = (t.route business h).2 ∧
    (t.forget.route business h).1.forget = (t.route business h).1.forget := by
  have hstate : t.forget.state = t.state := rfl
  have hbasket : t.forget.basket = t.basket := rfl
  simp only [Talk.route, hstate, hbasket]
  split
  · exact ⟨rfl, forget_show⟩
  · split
    · exact ⟨rfl, by rw [forget_ordered, forget_forget]⟩
    · exact ⟨rfl, by rw [forget_checkout, forget_forget]⟩

theorem forget_notify {gate : Gate} : (t.notify gate).forget = t.forget := by
  cases gate <;> rfl

theorem forget_hear : (t.forget.hear text extractor business h).2 =
      (t.hear text extractor business h).2 ∧
    (t.forget.hear text extractor business h).1.forget =
      (t.hear text extractor business h).1.forget := by
  have hquiet : t.forget.quiet = t.quiet.forget := rfl
  simp only [Talk.hear, hquiet]
  generalize t.quiet = t
  have hallocation : t.forget.allocation = t.allocation := rfl
  have hallocated (c : Allocation.Conversation) : t.forget.allocated c = (t.allocated c).forget := rfl
  rw [hallocation]
  split
  · exact ⟨rfl, by rw [forget_notify, forget_notify, forget_forget]⟩
  · split
    · exact ⟨rfl, forget_forget⟩
    · exact ⟨rfl, by rw [hallocated, forget_forget]⟩
    · rw [hallocated]
      exact forget_route

-- Conversations that differ in the notices, the times, the page shown and the last order made.
def Alike (t t' : Talk) : Prop := t.quiet.forget = t'.quiet.forget

theorem answer_alike (halike : Alike t t') :
    (answer text extractor business t h).2 = (answer text extractor business t' h).2 ∧
      Alike (answer text extractor business t h).1 (answer text extractor business t' h).1 := by
  have hheard (t : Talk) : (t.quiet.forget.hear text extractor business h).2 =
        (t.hear text extractor business h).2 ∧
      (t.quiet.forget.hear text extractor business h).1.forget =
        (t.hear text extractor business h).1.forget := forget_hear
  have hasked := (hheard t).1.symm.trans (halike ▸ (hheard t').1)
  have hsame := (hheard t).2.symm.trans (halike ▸ (hheard t').2)
  have hturn := congrArg Talk.turn hsame
  have hstate := congrArg (fun turn => turn.conversation.state) hturn
  have hcart := congrArg (fun turn => turn.draft.cart) hturn
  have horder := congrArg Turn.effect hturn
  refine ⟨?_, congrArg Talk.quiet hsame⟩
  simp only [answer, Shown.mk.injEq]
  exact ⟨hasked, hstate, hcart, horder⟩

-- Nothing else of an order is left where the cart is cleared.
theorem forget_clearCart_eq : t.clearCart.quiet.forget =
    { turn :=
        { customer := t.turn.customer
          conversation :=
            { businessId := t.turn.conversation.businessId
              customerId := t.turn.conversation.customerId
              state := t.state
              context :=
                { draft :=
                    { customerName := t.turn.draft.customerName
                      phoneNumber := t.turn.draft.phoneNumber
                      deliveryAddress := t.turn.draft.deliveryAddress } }
              lastActivityAt := 0
              expiresAt := none } }
      choices := {}
      pendingVariantAllocation := t.pendingVariantAllocation
      lastShownMenuPage := none } := rfl

theorem alike_clearCart (hsame : SameCustomer t t') (hleft : SameLeftovers t t') :
    Alike t.clearCart t'.clearCart := by
  unfold Alike
  rw [forget_clearCart_eq, forget_clearCart_eq, hsame.customer, hsame.businessId, hsame.customerId,
    hsame.state, hsame.customerName, hsame.phoneNumber, hleft.deliveryAddress, hleft.allocation]

theorem fresh_after_clearCart (hsame : SameCustomer t t') (hleft : SameLeftovers t t')
    (messages : List Heard) :
    Run.outputs (answer text extractor business) t.clearCart messages =
      Run.outputs (answer text extractor business) t'.clearCart messages :=
  Run.outputs_eq (fun _ _ _ => answer_alike) (alike_clearCart hsame hleft)

end Runs

section Deliveries

def pizzeria : Business where
  id := 1
  deliveryEnabled := true
  requirePhoneNumber := false

def pizza : CartItem where
  menuItemId := 7
  name := "Margherita"
  breakdown := ⟨9000, 0, 0, 9000, 1, 9000⟩
  selectedOptions := []
  addOns := []
  specialInstructions := none

-- A customer's conversation after an order was placed.
def after (draft : Draft) (page : Option String) : Talk where
  turn :=
    { customer := ⟨3, 1, none, none, none, 0, .bronze, none, false, none⟩
      conversation :=
        { businessId := 1
          customerId := 3
          state := .orderPlaced
          context := { draft := draft, deliveryFeeCents := some 3500 }
          lastActivityAt := 0
          expiresAt := none } }
  choices := {}
  pendingVariantAllocation := none
  lastShownMenuPage := page

def delivered (address : String) : Draft :=
  { cart := [pizza], orderMode := some .delivery, deliveryAddress := some address }

def collected : Draft := { cart := [pizza], orderMode := some .pickup, orderNotesAsked := true }

def said (normText : String) (ordering : Basket → Option Ordered) : Heard where
  gate := none
  normText := normText
  picture := none
  ordering := ordering
  reading :=
    { text := normText
      intent := none
      confirms := normText = "yes for delivery"
      negates := false
      confirmedMode := some .delivery
      chosenMode := none
      payment := none
      name := none
      phoneLine := none
      phoneDigits := none
      note := none
      chat := fun _ _ => none }
  newOrderId := 9
  ordersAllowed := true
  lastOrder := none

def orderPizza (basket : Basket) : Option Ordered :=
  some ⟨false, .confirmingOrder, basket.cart ++ [pizza], [pizza], basket.choices, none, "Added"⟩

def nextOrder : List Heard :=
  [said "a margherita" orderPizza, said "yes for delivery" fun _ => none, said "skip" fun _ => none]

theorem fresh_after_collection :
    Run.outputs (answer Detectors.asciiText Allocation.onlyFamily pizzeria)
        (after collected (some "Pizzas")).clearCart nextOrder =
      Run.outputs (answer Detectors.asciiText Allocation.onlyFamily pizzeria)
        (after {} none).clearCart nextOrder :=
  fresh_after_clearCart ⟨rfl, rfl, rfl, rfl, rfl, rfl⟩ ⟨rfl, rfl⟩ nextOrder

-- The next delivery goes to the address of the last one, which nobody asks for again.
theorem old_address_kept :
    ¬ ∀ (text : Cart.Text) (extractor : Extractor) (business : Business) (t t' : Talk)
      (messages : List Heard), SameCustomer t t' →
        Run.outputs (answer text extractor business) t.clearCart messages =
          Run.outputs (answer text extractor business) t'.clearCart messages := by
  intro h
  have hsame := h Detectors.asciiText Allocation.onlyFamily pizzeria
    (after (delivered "1 Old Road") none) (after {} none) nextOrder ⟨rfl, rfl, rfl, rfl, rfl, rfl⟩
  have hstates := congrArg (List.map Shown.state) hsame
  exact absurd hstates (by decide +kernel)

end Deliveries

end NextgenBackend.Bot.FreshOrders
