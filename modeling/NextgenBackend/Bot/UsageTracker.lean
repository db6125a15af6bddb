import NextgenBackend.Bot.Pipeline

namespace NextgenBackend.Bot

open Txn

inductive LimitType where
  | messages
  | llmCalls
  | orders
deriving DecidableEq, Repr

def LimitType.current (counts : UsageCounts) : LimitType → Int
  | messages => counts.inboundMessages + counts.outboundMessages
  | llmCalls => counts.llmCalls
  | orders => counts.ordersCreated

def LimitType.limit (business : Business) : LimitType → Int
  | messages => business.dailyMessageLimit
  | llmCalls => business.dailyLlmCallLimit
  | orders => business.dailyOrderLimit

def UsageCounts.add (a b : UsageCounts) : UsageCounts where
  inboundMessages := a.inboundMessages + b.inboundMessages
  outboundMessages := a.outboundMessages + b.outboundMessages
  llmCalls := a.llmCalls + b.llmCalls
  llmTokens := a.llmTokens + b.llmTokens
  llmCostCents := a.llmCostCents + b.llmCostCents
  ordersCreated := a.ordersCreated + b.ordersCreated
  ordersCompleted := a.ordersCompleted + b.ordersCompleted
  cancelledOrders := a.cancelledOrders + b.cancelledOrders
  revenueCents := a.revenueCents + b.revenueCents
  uniqueCustomers := a.uniqueCustomers + b.uniqueCustomers

def addUsage (counts : UsageCounts) (usage : DailyUsage) : DailyUsage :=
  { usage with counts := UsageCounts.add usage.counts counts }

def upsertUsage (businessId : Uuid) (day : Int) (counts : UsageCounts) : Pending := fun t =>
  match t.dailyUsage.lookup (businessId, day) with
  | none => { t with dailyUsage := t.dailyUsage.insert ⟨businessId, day, counts⟩ }
  | some _ => { t with dailyUsage := t.dailyUsage.modify (businessId, day) (addUsage counts) }

section Tracker

-- Which calendar day a moment falls on in a time zone.
variable (localDate : String → Instant → Int)

def incrementUsage (session : Session) (business : Business) (counts : UsageCounts) :
    Handler (Session × Int) := do
  let now ← readNow
  let today := localDate business.timezone now
  pure (session.stage [.dailyUsage business.id today] (upsertUsage business.id today counts), today)

-- The counter is read without its row's lock, and a day without a row has no usage yet.
def checkDailyLimit (session : Session) (business : Business) (limitType : LimitType) :
    Handler Bool := do
  let now ← readNow
  let today := localDate business.timezone now
  let usage ← view session fun t => t.dailyUsage.lookup (business.id, today)
  pure (usage.all fun usage => limitType.current usage.counts < limitType.limit business)

-- Only a placed order and an approved fee are counted; the row they wrote gives the revenue.
def countOrder (session : Session) (business : Business) (effect : Option Effect) :
    Handler (Session × Tally) :=
  match effect with
  | some (.placeOrder _ status _) => do
      let order ← view session fun t => t.orders.getLast?
      let tally : Tally :=
        { businessId := business.id
          placed := order.map fun o => ⟨status, o.createdAt⟩ }
      if status = .new then do
        let (session, today) ← incrementUsage localDate session business
          { ordersCreated := 1, revenueCents := order.elim 0 (·.totalCents) }
        pure (session, { tally with today := today })
      else pure (session, tally)
  | some (.finalizeDelivery orderId feeCents _) => do
      let row ← view session fun t =>
        (t.orders.lookup orderId).filter fun o => o.businessId = business.id
      let (session, today) ← incrementUsage localDate session business
        { ordersCreated := 1, revenueCents := row.elim 0 (·.subtotalCents) + feeCents }
      pure (session, { businessId := business.id, finalized := true, today := today })
  | _ => pure (session, {})

def converseMetered (session : Session) (message : InboundMessage) (business : Business)
    (loaded customer : Customer) : Handler Processed := do
  let (conversation, session) ← getOrCreateSession session business.id customer.id
  .lock (.customer customer.id) fun _ => ()
  let lastOrder ← .read fun db => lastOrderOf business.id customer.id db.toTables
  let allowed ← checkDailyLimit localDate session business .orders
  let surroundings : Surroundings := ⟨conversation.lastActivityAt, business, customer, lastOrder⟩
  let turn := takeTurn { message with ordersAllowed := allowed } surroundings conversation
  let (session, moves) ← perform session message business turn
  let (session, tally) ← countOrder localDate session business turn.effect
  let session := session.stage [.conversation business.id customer.id]
    (setConversation business.id customer.id (writeConversation turn.conversation))
  let session := session.stage [.customer customer.id]
    (setCustomer customer.id (writeCustomer loaded turn.customer))
  pure
    { session := session
      turn := some ⟨surroundings, moves, finalizedBy turn.effect⟩
      tally := tally }

def processMetered (message : InboundMessage) : Handler Unit := do
  let attempted ← Txn.attempt (receive message fun session business loaded customer =>
    converseMetered localDate session message business loaded customer)
  match attempted with
  | .error _ => pure ()
  | .ok processed => do
      let _ ← .tryCommit (.meteredMessage message.waMessageId processed.tally)
        processed.session.touched (Database.write processed.session.pending)
      pure ()

end Tracker

end NextgenBackend.Bot
