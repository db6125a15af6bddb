import NextgenBackend.Api.RoutesOrders
import NextgenBackend.Bot.Dialogue
import NextgenBackend.Bot.OrderCreator

namespace NextgenBackend.Bot

open Txn

open RoutesOrders (assign)

open RoutesPayments (addOrderEvent)

structure InboundMessage where
  phoneNumberId : String
  waMessageId : String
  waId : String
  contactName : Option String
  newCustomerId : Uuid
  newOrderId : Uuid
  messagesAllowed : Bool
  ordersAllowed : Bool
  closedOn : Option String
  reading : Reading

-- What the transaction has written so far is seen by its own queries.
def view {α : Type} (session : Session) (q : Tables → α) : Handler α :=
  .read fun db => q (session.pending db.toTables)

-- An UPDATE waits for the row it found and tests its condition again once it holds the row.
def updateOrder (session : Session) (orderId : Uuid) (condition : Order → Bool)
    (set : Order → Order) : Handler (Session × Bool) := do
  let found ← view session fun t => (t.orders.lookup orderId).filter condition
  match found with
  | none => pure (session, false)
  | some _ => do
      let locked ← .lock (.order orderId) fun db =>
        ((session.pending db.toTables).orders.lookup orderId).filter condition
      match locked with
      | none => pure (session, false)
      | some _ => pure (session.stage [.order orderId] (setOrder orderId set), true)

def statusEvent (orderId businessId : Uuid) (before : Option OrderStatus) (after : OrderStatus)
    (reason : String) : OrderEvent where
  orderId := orderId
  businessId := businessId
  oldStatus := before
  newStatus := after
  changedByUserId := none
  reason := some reason

def cancelWith (reason : String) (o : Order) : Order :=
  { o with status := .cancelled, cancelledReason := some reason }

def reverseIfFound (session : Session) (business : Business) (orderId : Uuid)
    (previous : Option OrderStatus) : Handler Session :=
  match previous with
  | none => pure session
  | some status => Inventory.reverseConsumptionOnCancel session business.id
      business.inventoryEnabled orderId status none

def supersedable (businessId : Uuid) (o : Order) : Bool :=
  o.businessId = businessId && o.status ∉ [.cancelled, .collected, .delivered]

def cancelSupersededOrder (session : Session) (business : Business) (superseded : Option Uuid) :
    Handler (Session × List StatusMove) :=
  match superseded with
  | none => pure (session, [])
  | some orderId => do
      let previous ← view session fun t =>
        ((t.orders.lookup orderId).filter (supersedable business.id)).map (·.status)
      let (session, updated) ← updateOrder session orderId (supersedable business.id)
        (cancelWith "Superseded by customer modification")
      let session := session.stage [] (addOrderEvent
        (statusEvent orderId business.id none .cancelled "Superseded by customer modification"))
      let session ← reverseIfFound session business orderId previous
      pure (session, [⟨orderId, none, .cancelled, updated⟩])

def cancellableStatuses : List OrderStatus :=
  [.pendingDeliveryFee, .feeSent, .new, .accepted]

def liveOrdersOf (businessId customerId excludeOrderId : Uuid) (t : Tables) : List Order :=
  t.orders.filter fun o => o.businessId = businessId ∧ o.customerId = some customerId ∧
    o.id ≠ excludeOrderId ∧ o.status ∈ cancellableStatuses

def cancelOldOrders (business : Business) : List Order → Session → Handler Session
  | [], session => pure session
  | old :: orders, session => do
      let session := session.stage [.order old.id]
        (setOrder old.id fun o => { o with status := .cancelled })
      let session := session.stage [] (addOrderEvent (statusEvent old.id business.id none
        .cancelled "Superseded by new customer order"))
      let session ← Inventory.reverseConsumptionOnCancel session business.id
        business.inventoryEnabled old.id old.status none
      cancelOldOrders business orders session

def lockOrders : List Uuid → Handler Unit
  | [] => pure ()
  | orderId :: orderIds => do
      .lock (.order orderId) fun _ => ()
      lockOrders orderIds

theorem readOnly_lockOrders {orderIds : List Uuid} :
    (lockOrders orderIds).ReadOnly fun _ => True := by
  induction orderIds with
  | nil => trivial
  | cons orderId orderIds ih => exact readOnly_seq readOnly_lock fun _ => ih

def cancelPriorLiveOrders (session : Session) (business : Business) (customer : Customer)
    (excludeOrderId : Uuid) : Handler (Session × List StatusMove) := do
  let old ← view session (liveOrdersOf business.id customer.id excludeOrderId)
  let session ← cancelOldOrders business old session
  lockOrders (old.map (·.id))
  pure (session, old.map fun o => ⟨o.id, none, .cancelled, true⟩)

def placeOrder (session : Session) (message : InboundMessage) (business : Business)
    (customer : Customer) (superseded : Option Uuid) (status : OrderStatus) (context : Context) :
    Handler (Session × List StatusMove) := do
  let (session, supersededMoves) ← cancelSupersededOrder session business superseded
  let session ← createOrderFromCart session message.newOrderId business customer context status
  let (session, priorMoves) ←
    cancelPriorLiveOrders session business customer message.newOrderId
  pure (session, supersededMoves ++ priorMoves)

def rejectDeliveryFee (session : Session) (business : Business) (orderId : Uuid) :
    Handler (Session × List StatusMove) := do
  let previous ← view session fun t =>
    ((t.orders.lookup orderId).filter fun o => o.businessId = business.id).map (·.status)
  let (session, updated) ← updateOrder session orderId (fun o => o.businessId = business.id)
    (cancelWith "Customer rejected delivery fee")
  let session := session.stage [] (addOrderEvent (statusEvent orderId business.id
    (some .pendingDeliveryFee) .cancelled "Customer rejected delivery fee"))
  let session ← reverseIfFound session business orderId previous
  pure (session, [⟨orderId, some .pendingDeliveryFee, .cancelled, updated⟩])

def finalizeWith (business : Business) (feeCents : Cents) (payment : Option ChosenPayment)
    (o : Order) : Order :=
  { o with
    deliveryFeeCents := feeCents
    totalCents := o.subtotalCents + feeCents
    status := .new
    paymentStatus := match payment with
      | none => .unpaid
      | some .cashOnCollection => .cashOnCollection
      | some .card => .pending
    paymentRequired := business.onlinePaymentRequired }

def finalizeDelivery (session : Session) (business : Business) (orderId : Uuid)
    (feeCents : Cents) (payment : Option ChosenPayment) : Handler (Session × List StatusMove) := do
  let (session, updated) ← updateOrder session orderId (fun o => o.businessId = business.id)
    (finalizeWith business feeCents payment)
  let session := session.stage [] (addOrderEvent (statusEvent orderId business.id
    (some .feeSent) .new "Customer approved delivery fee and provided payment method"))
  pure (session, [⟨orderId, some .feeSent, .new, updated⟩])

def perform (session : Session) (message : InboundMessage) (business : Business) (turn : Turn) :
    Handler (Session × List StatusMove) :=
  match turn.effect with
  | none => pure (session, [])
  | some (.placeOrder superseded status context) =>
      placeOrder session message business turn.customer superseded status context
  | some (.rejectDeliveryFee orderId) => rejectDeliveryFee session business orderId
  | some (.finalizeDelivery orderId feeCents payment) =>
      finalizeDelivery session business orderId feeCents payment

def finalizedBy : Option Effect → Option (Uuid × Cents)
  | some (.finalizeDelivery orderId feeCents _) => some (orderId, feeCents)
  | _ => none

def customerOf (businessId : Uuid) (waId : String) (t : Tables) : Option Customer :=
  t.customers.find? fun c => c.businessId = businessId ∧ c.waId = some waId

def getOrCreateCustomer (businessId : Uuid) (message : InboundMessage) :
    Handler (Customer × Session) := do
  let known ← .read fun db => customerOf businessId message.waId db.toTables
  match known with
  | some customer => pure (customer, {})
  | none => do
      let inserted ← .lock (.waCustomer businessId message.waId) fun db =>
        customerOf businessId message.waId db.toTables
      match inserted with
      | some customer => pure (customer, {})
      | none =>
          let customer : Customer :=
            { id := message.newCustomerId, businessId := businessId, waId := some message.waId
              displayName := message.contactName, phoneNumber := none }
          pure (customer, Session.stage {} [] (Loyalty.insertCustomer customer))

def greetCustomer (now : Instant) (contactName : Option String) (customer : Customer) : Customer :=
  { customer with
    lastMessageAt := some now
    displayName :=
      if filled contactName ∧ ¬ filled customer.displayName then contactName
      else customer.displayName }

def writeCustomer (loaded written c : Customer) : Customer :=
  { c with
    lastMessageAt := written.lastMessageAt
    displayName := assign loaded.displayName written.displayName c.displayName
    phoneNumber := assign loaded.phoneNumber written.phoneNumber c.phoneNumber
    optedOut := assign loaded.optedOut written.optedOut c.optedOut }

def setCustomer (customerId : Uuid) (set : Customer → Customer) : Pending := fun t =>
  { t with customers := t.customers.modify customerId set }

def insertMessage (message : Message) : Pending := fun t =>
  { t with messages := t.messages ++ [message] }

def reservation (businessId customerId : Uuid) (message : InboundMessage) : Message where
  businessId := businessId
  customerId := customerId
  waMessageId := some message.waMessageId
  direction := .inbound

def persistInbound (message : InboundMessage) : Pending := fun t =>
  { t with messages := t.messages.map fun m =>
      if m.waMessageId = some message.waMessageId then
        { m with text := some message.reading.text, intent := message.reading.intent }
      else m }

def later (a b : Order) : Order :=
  if a.createdAt < b.createdAt then b else a

def lastOrderOf (businessId customerId : Uuid) (t : Tables) : Option Order :=
  match t.orders.filter fun o => o.businessId = businessId ∧ o.customerId = some customerId with
  | [] => none
  | o :: orders => some (orders.foldl later o)

def pausedKey (business : Business) : String :=
  business.whatsappPausedAt.elim "unknown" Time.isoText

-- The turn of a message: silent while closed or paused, else the dialogue's.
def takeTurn (message : InboundMessage) (surroundings : Surroundings)
    (conversation : ConversationSession) : Turn :=
  let business := surroundings.business
  let turn : Turn := { customer := surroundings.customer, conversation := conversation }
  match message.closedOn with
  | some today => turn.setContext fun context => { context with closedMsgSentDate := some today }
  | none =>
      if business.whatsappPaused then
        turn.setContext fun context => { context with busyMsgSentFor := some (pausedKey business) }
      else handleMessage business message.newOrderId message.ordersAllowed surroundings.lastOrder
        message.reading turn

structure Processed where
  session : Session := {}
  turn : Option MessageTurn := none
  tally : Tally := {}

def converse (session : Session) (message : InboundMessage) (business : Business)
    (loaded customer : Customer) : Handler Processed := do
  let (conversation, session) ← getOrCreateSession session business.id customer.id
  -- The flush writes the customer, so that row stays locked until the commit.
  .lock (.customer customer.id) fun _ => ()
  let lastOrder ← .read fun db => lastOrderOf business.id customer.id db.toTables
  let surroundings : Surroundings := ⟨conversation.lastActivityAt, business, customer, lastOrder⟩
  let turn := takeTurn message surroundings conversation
  let (session, moves) ← perform session message business turn
  let session := session.stage [.conversation business.id customer.id]
    (setConversation business.id customer.id (writeConversation turn.conversation))
  let session := session.stage [.customer customer.id]
    (setCustomer customer.id (writeCustomer loaded turn.customer))
  pure { session := session, turn := some ⟨surroundings, moves, finalizedBy turn.effect⟩ }

abbrev Conversing := Session → Business → Customer → Customer → Handler Processed

-- How a message reaches its conversation.
def receive (message : InboundMessage) (converse : Conversing) : Handler Processed := do
  let business ← .read fun db => db.businesses.find? fun b =>
    b.whatsappPhoneNumberId = some message.phoneNumberId
  match business with
  | none => pure {}
  | some business =>
      if ¬ business.isActive then pure {} else do
        let (loaded, session) ← getOrCreateCustomer business.id message
        let now ← readNow
        let customer := greetCustomer now message.contactName loaded
        let keep (session : Session) (customer : Customer) : Session :=
          session.stage [.customer customer.id]
            (setCustomer customer.id (writeCustomer loaded customer))
        let taken ← .lock (.waMessage message.waMessageId) fun db =>
          db.messages.any fun m => m.waMessageId = some message.waMessageId
        if taken then pure { session := keep session customer } else do
          let session := session.stage [] (insertMessage
            (reservation business.id customer.id message))
          if customer.optedOut then pure { session := keep session customer } else do
            let session := session.stage [] (persistInbound message)
            if message.reading.intent = some .optOut then
              pure { session := keep session { customer with optedOut := true } }
            else if ¬ message.messagesAllowed then pure { session := keep session customer }
            else converse session business loaded customer

def process (message : InboundMessage) : Handler Processed :=
  receive message fun session business loaded customer =>
    converse session message business loaded customer

def processInboundMessage (message : InboundMessage) : Handler Unit := do
  let attempted ← (process message).attempt
  match attempted with
  | .error _ => pure ()
  | .ok processed => do
      let _ ← .tryCommit (.processMessage message.waMessageId processed.turn)
        processed.session.touched (Database.write processed.session.pending)
      pure ()

theorem takeTurn_fits {message : InboundMessage} {surroundings : Surroundings}
    {conversation : ConversationSession} :
    Turn.Fits { customer := surroundings.customer, conversation := conversation }
      (takeTurn message surroundings conversation) := by
  unfold takeTurn
  dsimp only
  split
  · exact Turn.fits_of_none rfl rfl
  · split
    · exact Turn.fits_of_none rfl rfl
    · exact handleMessage_fits rfl

end NextgenBackend.Bot
