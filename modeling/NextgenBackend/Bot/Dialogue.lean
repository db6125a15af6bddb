import NextgenBackend.Bot.StateMachine
import NextgenBackend.Shared.Enums

namespace NextgenBackend.Bot

def chatStates : List ConversationState :=
  [.idle, .greeting, .browsingMenu, .buildingCart, .choosingOptions, .confirmingOrder, .handoff]

-- A turn answered from the text alone: it edits the draft, may clear the cart and may move on.
structure Chat where
  cleared : Bool
  draft : Draft
  next : Option ConversationState
  nextChats : ∀ state ∈ next, state ∈ chatStates

-- What the text patterns and the language model read in a message.
structure Reading where
  text : String
  intent : Option MessageIntent
  confirms : Bool
  negates : Bool
  confirmedMode : Option OrderMode
  chosenMode : Option OrderMode
  payment : Option ChosenPayment
  name : Option String
  phoneLine : Option String
  phoneDigits : Option String
  note : Option String
  chat : ConversationState → Draft → Option Chat

inductive Effect where
  | placeOrder (superseded : Option Uuid) (status : OrderStatus) (context : Context)
  | rejectDeliveryFee (orderId : Uuid)
  | finalizeDelivery (orderId : Uuid) (feeCents : Cents) (payment : Option ChosenPayment)
deriving DecidableEq, Repr

structure Turn where
  customer : Customer
  conversation : ConversationSession
  effect : Option Effect := none
deriving DecidableEq, Repr

def Turn.to (turn : Turn) (state : ConversationState) : Turn :=
  { turn with conversation := { turn.conversation with state := state } }

def Turn.setContext (turn : Turn) (set : Context → Context) : Turn :=
  { turn with conversation := { turn.conversation with context := set turn.conversation.context } }

def Turn.setDraft (turn : Turn) (set : Draft → Draft) : Turn :=
  turn.setContext fun context => { context with draft := set context.draft }

def Turn.draft (turn : Turn) : Draft := turn.conversation.context.draft

def filled (text : Option String) : Bool :=
  text.any (· ≠ "")

def lockCart (context : Context) : Context :=
  if context.draft.cart = [] then context
  else { context with draft := { context.draft with confirmedCart := context.draft.cart } }

def placed (turn : Turn) (status : OrderStatus) : Turn :=
  let superseded := turn.conversation.context.supersededOrderId
  let turn := turn.setContext fun context => lockCart { context with supersededOrderId := none }
  { turn with effect := some (.placeOrder superseded status turn.conversation.context) }

-- The order takes its id from the message that confirmed it.
def parkDelivery (turn : Turn) (newOrderId : Uuid) : Turn :=
  ((placed turn .pendingDeliveryFee).setContext fun context =>
    { clearCart context with pendingOrderId := some newOrderId }).to .waitingDeliveryFeeApproval

def handleOrderConfirmation (business : Business) (newOrderId : Uuid) (ordersAllowed : Bool)
    (turn : Turn) : Turn :=
  match turn.draft.orderMode, business.deliveryEnabled && !business.orderInOnly with
  | none, true => turn.to .choosingOrderMode
  | mode, _ =>
      let mode := mode.getD (if business.orderInOnly then .dineIn else .pickup)
      let turn := turn.setDraft fun draft => { draft with orderMode := some mode }
      let haveName := filled turn.draft.customerName
      let havePhone := filled turn.draft.phoneNumber || filled turn.customer.phoneNumber
      let haveAddress := filled turn.draft.deliveryAddress
      if (business.requireCustomerName && !haveName) ||
          (business.requirePhoneNumber && !havePhone) || (mode = .delivery && !haveAddress) then
        turn.to .collectingDetails
      else if ¬ turn.draft.orderNotesAsked then
        (turn.setDraft fun draft => { draft with orderNotesAsked := true }).to .collectingDetails
      else if mode = .delivery ∧
          turn.conversation.context.deliveryFeeStatus ≠ some .approved then
        if ¬ ordersAllowed then turn else parkDelivery turn newOrderId
      else if ¬ ordersAllowed then turn
      else ((placed turn .new).setContext clearCart).to .orderPlaced

def finalizePendingDeliveryOrder (business : Business) (turn : Turn) : Turn :=
  let context := turn.conversation.context
  match context.pendingOrderId with
  | none => turn
  | some orderId =>
      let payment := if business.onlinePaymentRequired then none
        else some (context.paymentMethod.getD .cashOnCollection)
      let turn := (turn.setContext clearCart).to .orderPlaced
      { turn with
        effect := some (.finalizeDelivery orderId (context.deliveryFeeCents.getD 0) payment) }

def handleChoosingOrderMode (business : Business) (newOrderId : Uuid) (ordersAllowed : Bool)
    (reading : Reading) (turn : Turn) : Turn :=
  match reading.chosenMode with
  | none => turn
  | some mode => handleOrderConfirmation business newOrderId ordersAllowed
      ((turn.setDraft fun draft => { draft with orderMode := some mode }).to .confirmingOrder)

def handleWaitingDeliveryFee (business : Business) (reading : Reading) (turn : Turn) : Turn :=
  if reading.confirms then
    let turn := turn.setContext fun context => { context with deliveryFeeStatus := some .approved }
    if business.onlinePaymentRequired then finalizePendingDeliveryOrder business turn
    else turn.to .collectingPayment
  else if reading.negates then
    let rejected := turn.conversation.context.pendingOrderId
    let turn := (turn.setContext clearCart).to .idle
    { turn with effect := rejected.map .rejectDeliveryFee }
  else turn

def handleCollectingPayment (business : Business) (reading : Reading) (turn : Turn) : Turn :=
  match reading.payment with
  | none => turn
  | some payment =>
      let turn := turn.setContext fun context => { context with paymentMethod := some payment }
      let haveName := filled turn.draft.customerName || filled turn.customer.displayName
      let havePhone := filled turn.draft.phoneNumber || filled turn.customer.phoneNumber
      if (business.requireCustomerName && !haveName) ||
          (business.requirePhoneNumber && !havePhone) then turn.to .collectingDetails
      else finalizePendingDeliveryOrder business turn

def missingDetails (business : Business) (draft : Draft) : Bool :=
  (business.requireCustomerName && !filled draft.customerName) ||
    (business.requirePhoneNumber && !filled draft.phoneNumber) ||
    (draft.orderMode = some .delivery && !filled draft.deliveryAddress)

def nextAfterDetails (business : Business) (newOrderId : Uuid) (ordersAllowed : Bool)
    (turn : Turn) : Turn :=
  if turn.conversation.context.pendingOrderId.isSome then finalizePendingDeliveryOrder business turn
  else handleOrderConfirmation business newOrderId ordersAllowed turn

def captureName (business : Business) (name : String) (phoneLine : Option String) (turn : Turn) :
    Turn :=
  let turn := turn.setDraft fun draft => { draft with customerName := some name }
  let turn := { turn with customer := { turn.customer with displayName := some name } }
  match phoneLine with
  | none => turn
  | some phone =>
      if business.requirePhoneNumber ∧ turn.draft.phoneNumber = none then
        let turn := turn.setDraft fun draft => { draft with phoneNumber := some phone }
        { turn with customer := { turn.customer with phoneNumber := some phone } }
      else turn

def capturePhone (phone : String) (turn : Turn) : Turn :=
  let turn := turn.setDraft fun draft => { draft with phoneNumber := some phone }
  { turn with customer := { turn.customer with phoneNumber := some phone } }

def handleCollectingDetails (business : Business) (newOrderId : Uuid) (ordersAllowed : Bool)
    (reading : Reading) (turn : Turn) : Turn :=
  let proceed (turn : Turn) : Turn :=
    if missingDetails business turn.draft then turn
    else nextAfterDetails business newOrderId ordersAllowed turn
  if business.requireCustomerName ∧ turn.draft.customerName = none then
    match reading.name with
    | none => turn
    | some name => proceed (captureName business name reading.phoneLine turn)
  else if business.requirePhoneNumber ∧ turn.draft.phoneNumber = none then
    match reading.phoneDigits with
    | none => turn
    | some phone => proceed (capturePhone phone turn)
  else if turn.draft.orderMode = some .delivery ∧ turn.draft.deliveryAddress = none then
    proceed (turn.setDraft fun draft => { draft with deliveryAddress := some reading.text })
  else if turn.draft.orderNotesAsked ∧ turn.draft.orderNotes = none then
    nextAfterDetails business newOrderId ordersAllowed
      (turn.setDraft fun draft => { draft with orderNotes := some reading.note })
  else nextAfterDetails business newOrderId ordersAllowed turn

def applyChat (chat : Chat) (turn : Turn) : Turn :=
  let turn := turn.setContext fun context =>
    { (if chat.cleared then clearCart context else context) with draft := chat.draft }
  chat.next.elim turn turn.to

def modifiableStatuses : List OrderStatus :=
  [.pendingDeliveryFee, .feeSent, .new, .accepted]

-- A placed order that is still modifiable is remembered, to be cancelled by the next one.
def guardPlacedOrder (lastOrder : Option Order) (turn : Turn) : Turn :=
  match lastOrder with
  | none => turn.to .buildingCart
  | some order =>
      if order.status = .inProgress ∨ order.status = .ready then turn
      else if order.status ∈ modifiableStatuses then
        (turn.setContext fun context =>
          { context with supersededOrderId := some order.id }).to .buildingCart
      else turn.to .buildingCart

def changesOrder (intent : Option MessageIntent) : Bool :=
  intent = some .orderStart || intent = some .orderAdd || intent = some .orderRemove

def handleMessage (business : Business) (newOrderId : Uuid) (ordersAllowed : Bool)
    (lastOrder : Option Order) (reading : Reading) (turn : Turn) : Turn :=
  match reading.chat turn.conversation.state turn.draft with
  | some chat => applyChat chat turn
  | none =>
      match turn.conversation.state with
      | .orderPlaced =>
          if changesOrder reading.intent then guardPlacedOrder lastOrder turn else turn
      | .confirmingOrder =>
          if reading.confirms then
            let turn := turn.setDraft fun draft =>
              { draft with orderMode := reading.confirmedMode <|> draft.orderMode }
            handleOrderConfirmation business newOrderId ordersAllowed turn
          else turn
      | .choosingOrderMode =>
          handleChoosingOrderMode business newOrderId ordersAllowed reading turn
      | .waitingDeliveryFeeApproval => handleWaitingDeliveryFee business reading turn
      | .collectingPayment => handleCollectingPayment business reading turn
      | .collectingDetails =>
          handleCollectingDetails business newOrderId ordersAllowed reading turn
      | _ => turn

-- What a turn may ask for, by the context it was taken in.
def Effect.Fits (context : Context) : Effect → Prop
  | .placeOrder superseded status _ =>
      superseded = context.supersededOrderId ∧ (status = .new ∨ status = .pendingDeliveryFee)
  | .rejectDeliveryFee orderId => context.pendingOrderId = some orderId
  | .finalizeDelivery orderId feeCents _ =>
      context.pendingOrderId = some orderId ∧ feeCents = context.deliveryFeeCents.getD 0

structure Turn.Fits (turn turn' : Turn) : Prop where
  customer : turn'.customer.id = turn.customer.id
  effect : ∀ effect ∈ turn'.effect, effect.Fits turn.conversation.context

structure Turn.Continues (turn turn' : Turn) : Prop where
  customer : turn'.customer.id = turn.customer.id
  superseded : turn'.conversation.context.supersededOrderId =
    turn.conversation.context.supersededOrderId
  pending : turn'.conversation.context.pendingOrderId = turn.conversation.context.pendingOrderId
  fee : turn'.conversation.context.deliveryFeeCents = turn.conversation.context.deliveryFeeCents
  effect : turn'.effect = none

section Effects

variable {business : Business} {newOrderId : Uuid} {ordersAllowed : Bool} {reading : Reading}
  {turn turn' turn'' : Turn}

theorem Turn.fits_of_none (hcustomer : turn'.customer.id = turn.customer.id)
    (heffect : turn'.effect = none) : turn.Fits turn' := by
  constructor
  · exact hcustomer
  · simp [heffect]

theorem Turn.Continues.fits (h : turn.Continues turn') : turn.Fits turn' :=
  Turn.fits_of_none h.customer h.effect

theorem Turn.Continues.then (h : turn.Continues turn') (h' : turn'.Fits turn'') :
    turn.Fits turn'' := by
  constructor
  · exact h'.customer.trans h.customer
  · intro effect heffect
    have hfits := h'.effect effect heffect
    cases effect with
    | placeOrder superseded status context =>
        exact ⟨hfits.1.trans h.superseded, hfits.2⟩
    | rejectDeliveryFee orderId => exact h.pending.symm.trans hfits
    | finalizeDelivery orderId feeCents payment =>
        obtain ⟨hpending, hfee⟩ := hfits
        rw [h.fee] at hfee
        exact ⟨h.pending.symm.trans hpending, hfee⟩

theorem setDraft_continues {set : Draft → Draft} (h : turn.effect = none) :
    turn.Continues (turn.setDraft set) :=
  ⟨rfl, rfl, rfl, rfl, h⟩

theorem placed_fits {status : OrderStatus} (h : status = .new ∨ status = .pendingDeliveryFee) :
    turn.Fits (placed turn status) := by
  constructor
  · rfl
  · intro effect heffect
    obtain rfl := Option.some.inj heffect
    exact ⟨rfl, h⟩

theorem Turn.Fits.setContext {set : Context → Context} (h : turn.Fits turn') :
    turn.Fits (turn'.setContext set) :=
  ⟨h.customer, h.effect⟩

theorem Turn.Fits.to {state : ConversationState} (h : turn.Fits turn') :
    turn.Fits (turn'.to state) :=
  ⟨h.customer, h.effect⟩

theorem handleOrderConfirmation_fits (h : turn.effect = none) :
    turn.Fits (handleOrderConfirmation business newOrderId ordersAllowed turn) := by
  unfold handleOrderConfirmation
  split
  · exact Turn.fits_of_none rfl h
  · dsimp only
    generalize turn.draft.orderMode.getD (if business.orderInOnly then OrderMode.dineIn else .pickup) = mode
    have hmode : turn.Continues
        (turn.setDraft fun draft => { draft with orderMode := some mode }) := setDraft_continues h
    apply hmode.then
    have heffect := hmode.effect
    split
    · exact Turn.fits_of_none rfl heffect
    · split
      · exact Turn.fits_of_none rfl heffect
      · split
        · split
          · exact Turn.fits_of_none rfl heffect
          · exact ((placed_fits (.inr rfl)).setContext).to
        · split
          · exact Turn.fits_of_none rfl heffect
          · exact ((placed_fits (.inl rfl)).setContext).to

theorem finalizePendingDeliveryOrder_fits (h : turn.effect = none) :
    turn.Fits (finalizePendingDeliveryOrder business turn) := by
  unfold finalizePendingDeliveryOrder
  dsimp only
  split
  · exact Turn.fits_of_none rfl h
  next orderId hpending =>
    constructor
    · rfl
    · intro effect heffect
      obtain rfl := Option.some.inj heffect
      exact ⟨hpending, rfl⟩

theorem handleWaitingDeliveryFee_fits (h : turn.effect = none) :
    turn.Fits (handleWaitingDeliveryFee business reading turn) := by
  unfold handleWaitingDeliveryFee
  split
  · have happroved : turn.Continues (turn.setContext fun context =>
        { context with deliveryFeeStatus := some .approved }) := ⟨rfl, rfl, rfl, rfl, h⟩
    apply happroved.then
    dsimp only
    split
    · exact finalizePendingDeliveryOrder_fits happroved.effect
    · exact Turn.fits_of_none rfl happroved.effect
  · split
    · constructor
      · rfl
      · intro effect heffect
        obtain ⟨orderId, hpending, rfl⟩ := Option.map_eq_some_iff.mp heffect
        exact hpending
    · exact Turn.fits_of_none rfl h

theorem handleCollectingPayment_fits (h : turn.effect = none) :
    turn.Fits (handleCollectingPayment business reading turn) := by
  unfold handleCollectingPayment
  split
  · exact Turn.fits_of_none rfl h
  next payment _ =>
    have hchosen : turn.Continues (turn.setContext fun context =>
        { context with paymentMethod := some payment }) := ⟨rfl, rfl, rfl, rfl, h⟩
    apply hchosen.then
    dsimp only
    split
    · exact Turn.fits_of_none rfl hchosen.effect
    · exact finalizePendingDeliveryOrder_fits hchosen.effect

theorem nextAfterDetails_fits (h : turn.effect = none) :
    turn.Fits (nextAfterDetails business newOrderId ordersAllowed turn) := by
  unfold nextAfterDetails
  split
  · exact finalizePendingDeliveryOrder_fits h
  · exact handleOrderConfirmation_fits h

theorem captureName_continues {name : String} {phoneLine : Option String}
    (h : turn.effect = none) : turn.Continues (captureName business name phoneLine turn) := by
  unfold captureName
  dsimp only
  split
  · exact ⟨rfl, rfl, rfl, rfl, h⟩
  · split
    · exact ⟨rfl, rfl, rfl, rfl, h⟩
    · exact ⟨rfl, rfl, rfl, rfl, h⟩

theorem handleCollectingDetails_fits (h : turn.effect = none) :
    turn.Fits (handleCollectingDetails business newOrderId ordersAllowed reading turn) := by
  have hproceed {turn' : Turn} (hcontinues : turn.Continues turn') :
      turn.Fits (if missingDetails business turn'.draft then turn'
        else nextAfterDetails business newOrderId ordersAllowed turn') := by
    split
    · exact hcontinues.fits
    · exact hcontinues.then (nextAfterDetails_fits hcontinues.effect)
  unfold handleCollectingDetails
  dsimp only
  split
  · split
    · exact Turn.fits_of_none rfl h
    · exact hproceed (captureName_continues h)
  · split
    · split
      · exact Turn.fits_of_none rfl h
      · exact hproceed ⟨rfl, rfl, rfl, rfl, h⟩
    · split
      · exact hproceed (setDraft_continues h)
      · split
        · have hnoted : turn.Continues
              (turn.setDraft fun draft => { draft with orderNotes := some reading.note }) :=
            setDraft_continues h
          exact hnoted.then (nextAfterDetails_fits hnoted.effect)
        · exact nextAfterDetails_fits h

theorem handleChoosingOrderMode_fits (h : turn.effect = none) :
    turn.Fits (handleChoosingOrderMode business newOrderId ordersAllowed reading turn) := by
  unfold handleChoosingOrderMode
  split
  · exact Turn.fits_of_none rfl h
  next mode _ =>
    have hchosen : turn.Continues ((turn.setDraft fun draft =>
        { draft with orderMode := some mode }).to .confirmingOrder) := ⟨rfl, rfl, rfl, rfl, h⟩
    exact hchosen.then (handleOrderConfirmation_fits hchosen.effect)

theorem handleMessage_fits {lastOrder : Option Order} (h : turn.effect = none) :
    turn.Fits (handleMessage business newOrderId ordersAllowed lastOrder reading turn) := by
  unfold handleMessage
  split
  next chat _ =>
    unfold applyChat
    cases chat.next with
    | none => exact Turn.fits_of_none rfl h
    | some state => exact Turn.fits_of_none rfl h
  · split
    · split
      · unfold guardPlacedOrder
        split
        · exact Turn.fits_of_none rfl h
        · split
          · exact Turn.fits_of_none rfl h
          · split
            · exact Turn.fits_of_none rfl h
            · exact Turn.fits_of_none rfl h
      · exact Turn.fits_of_none rfl h
    · split
      · have hmode : turn.Continues (turn.setDraft fun draft =>
            { draft with orderMode := reading.confirmedMode <|> draft.orderMode }) :=
          setDraft_continues h
        exact hmode.then (handleOrderConfirmation_fits hmode.effect)
      · exact Turn.fits_of_none rfl h
    · exact handleChoosingOrderMode_fits h
    · exact handleWaitingDeliveryFee_fits h
    · exact handleCollectingPayment_fits h
    · exact handleCollectingDetails_fits h
    · exact Turn.fits_of_none rfl h

end Effects

end NextgenBackend.Bot
