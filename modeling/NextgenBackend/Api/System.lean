import NextgenBackend.Api.RoutesLoyalty
import NextgenBackend.Api.RoutesOrders
import NextgenBackend.Api.RoutesPos.Checkout
import NextgenBackend.Api.RoutesPos.Reversal
import NextgenBackend.Library.Run

namespace NextgenBackend

open Txn RoutesPos RoutesPayments

inductive Request where
  | yocoWebhook (businessId : Uuid) (delivery : Payments.JsonDelivery)
  | payfastWebhook (businessId : Uuid) (delivery : Payments.FormDelivery)
  | ikhokaWebhook (businessId : Uuid) (delivery : Payments.JsonDelivery)
  | stitchWebhook (businessId : Uuid) (delivery : Payments.JsonDelivery)
  | updatePaymentStatus (user : AuthUser) (orderId : Uuid)
      (body : RoutesOrders.PaymentUpdateRequest)
  | refundOrderPayment (user : AuthUser) (orderId : Uuid) (body : RoutesOrders.RefundRequest)
      (result : RoutesOrders.RefundResult)
  | refundPosOrder (user : AuthUser) (orderId : Uuid) (body : RoutesPos.POSRefundRequest)
  | voidPosOrder (user : AuthUser) (orderId : Uuid) (reason : String)
  | confirmPosOrderProviderRefund (user : AuthUser) (orderId : Uuid)
  | createPosOrder (user : AuthUser) (orderId newCustomerId : Uuid)
      (body : RoutesPos.POSOrderCreateRequest)
  | createPosPaymentIntent (settings : Payments.Settings) (hostedUrl : Option String)
      (user : AuthUser) (intentId : Uuid) (body : RoutesPos.POSPaymentIntentCreateRequest)
  | getPosPaymentIntent (user : AuthUser) (intentId : Uuid)
  | resendPosPaymentIntent (user : AuthUser) (intentId : Uuid) (tooSoon : Bool)
  | cancelPosPaymentIntent (user : AuthUser) (intentId : Uuid)
  | openTill (user : AuthUser) (sessionId : Uuid) (body : RoutesPos.TillOpenRequest)
  | closeTill (user : AuthUser) (sessionId : Uuid) (body : RoutesPos.TillCloseRequest)
  | redeemLoyaltyReward (user : AuthUser) (body : RoutesLoyalty.RedeemRequest)
  | adjustCustomerPoints (user : AuthUser) (customerId : Uuid)
      (body : RoutesLoyalty.LoyaltyAdjustmentRequest)

inductive Reply where
  | received
  | order (order : Order)
  | intent (intent : POSPaymentLinkIntent)
  | till (session : TillSession)
  | points (row : LoyaltyTransaction)
deriving DecidableEq

def reply {α : Type} (wrap : α → Reply) (handler : Handler α) : Handler Reply :=
  handler.bind fun a => .done (wrap a)

def handle : Request → Handler Reply
  | .yocoWebhook businessId delivery =>
      reply (fun _ => .received) (RoutesPayments.yocoWebhook businessId delivery)
  | .payfastWebhook businessId delivery =>
      reply (fun _ => .received) (RoutesPayments.payfastWebhook businessId delivery)
  | .ikhokaWebhook businessId delivery =>
      reply (fun _ => .received) (RoutesPayments.ikhokaWebhook businessId delivery)
  | .stitchWebhook businessId delivery =>
      reply (fun _ => .received) (RoutesPayments.stitchWebhook businessId delivery)
  | .updatePaymentStatus user orderId body =>
      reply .order (RoutesOrders.updatePaymentStatus user orderId body)
  | .refundOrderPayment user orderId body result =>
      reply .order (RoutesOrders.refundOrderPayment user orderId body result)
  | .refundPosOrder user orderId body =>
      reply .order (RoutesPos.refundPosOrder user orderId body)
  | .voidPosOrder user orderId reason =>
      reply .order (RoutesPos.voidPosOrder user orderId reason)
  | .confirmPosOrderProviderRefund user orderId =>
      reply .order (RoutesPos.confirmPosOrderProviderRefund user orderId)
  | .createPosOrder user orderId newCustomerId body =>
      reply .order (RoutesPos.createPosOrder user orderId newCustomerId body)
  | .createPosPaymentIntent settings hostedUrl user intentId body =>
      reply .intent (RoutesPos.createPosPaymentIntent settings hostedUrl user intentId body)
  | .getPosPaymentIntent user intentId =>
      reply .intent (RoutesPos.getPosPaymentIntent user intentId)
  | .resendPosPaymentIntent user intentId tooSoon =>
      reply .intent (RoutesPos.resendPosPaymentIntent user intentId tooSoon)
  | .cancelPosPaymentIntent user intentId =>
      reply .intent (RoutesPos.cancelPosPaymentIntent user intentId)
  | .openTill user sessionId body => reply .till (RoutesPos.openTill user sessionId body)
  | .closeTill user sessionId body => reply .till (RoutesPos.closeTill user sessionId body)
  | .redeemLoyaltyReward user body =>
      reply .points (RoutesLoyalty.redeemLoyaltyReward user body)
  | .adjustCustomerPoints user customerId body =>
      reply .points (RoutesLoyalty.adjustCustomerPoints user customerId body)

-- The menu, the settings and the loyalty programme are edited by endpoints outside these modules.
structure Environment (db db' : Database) : Prop where
  clock : db.now ≤ db'.now
  sequence : ∀ id, (db'.businesses.lookup id).map (·.orderNumberSequence) =
    (db.businesses.lookup id).map (·.orderNumberSequence)
  customers : db'.customers = db.customers
  tillSessions : db'.tillSessions = db.tillSessions
  orders : db'.orders = db.orders
  orderItems : db'.orderItems = db.orderItems
  orderEvents : db'.orderEvents = db.orderEvents
  allocations : db'.allocations = db.allocations
  intents : db'.intents = db.intents
  loyaltyTransactions : db'.loyaltyTransactions = db.loyaltyTransactions
  stockMovements : db'.stockMovements = db.stockMovements

inductive Event where
  | served (request : Request) (reply : Except Failure Reply)
  | environment

def Next (db : Database) (event : Event) (db' : Database) : Prop :=
  match event with
  | .served request reply => (handle request).run db = (reply, db')
  | .environment => Environment db db'

def played (db : Database) : List Request → List (Event × Database)
  | [] => []
  | request :: requests =>
      let (r, db') := (handle request).run db
      (.served request r, db') :: played db' requests

theorem along_played {db : Database} {requests : List Request} :
    Run.Along Next db (played db requests) := by
  induction requests generalizing db with
  | nil => trivial
  | cons request requests ih => exact ⟨rfl, ih⟩

section Stages

inductive Request.Webhook : Request → Prop
  | yoco {businessId delivery} : Webhook (.yocoWebhook businessId delivery)
  | payfast {businessId delivery} : Webhook (.payfastWebhook businessId delivery)
  | ikhoka {businessId delivery} : Webhook (.ikhokaWebhook businessId delivery)
  | stitch {businessId delivery} : Webhook (.stitchWebhook businessId delivery)

inductive Stages : Request → Pending → Prop
  | payOrder {request orderId reference now} : request.Webhook →
      Stages request (setOrder orderId (paidByWebhook reference now))
  | payEvent {request event} : request.Webhook → Stages request (addOrderEvent event)
  | payAward {request set row} : request.Webhook → Loyalty.Earning row →
      Stages request (Loyalty.postPoints set row)
  | expireIntent {request intentId} : request.Webhook →
      Stages request (setIntent intentId expireIntent)
  | payIntent {request intentId reference now} : request.Webhook →
      Stages request (setIntent intentId (payIntent reference now))
  | recordPayment {user orderId body loaded now} :
      Stages (.updatePaymentStatus user orderId body)
        (setOrder orderId (RoutesOrders.recordPayment body loaded now))
  | recordEvent {user orderId body event} :
      Stages (.updatePaymentStatus user orderId body) (addOrderEvent event)
  | recordAward {user orderId body set row} : Loyalty.Earning row →
      Stages (.updatePaymentStatus user orderId body) (Loyalty.postPoints set row)
  | recordRefund {user orderId body result status amountCents reference now} :
      Stages (.refundOrderPayment user orderId body result)
        (setOrder orderId (RoutesOrders.recordRefund status amountCents reference now))
  | refundEvent {user orderId body result event} :
      Stages (.refundOrderPayment user orderId body result) (addOrderEvent event)
  | markRefunded {user orderId body amountCents cash full now} :
      Stages (.refundPosOrder user orderId body)
        (setOrder orderId (markRefunded body amountCents cash full now))
  | flagRefunded {user orderId body ids} :
      Stages (.refundPosOrder user orderId body) (flagProviderRefundPending ids)
  | restock {user orderId body movements} :
      Stages (.refundPosOrder user orderId body) (Inventory.appendMovements movements)
  | restorePoints {user orderId body set row} : row.transactionType = .adjust →
      Stages (.refundPosOrder user orderId body) (Loyalty.postPoints set row)
  | markVoided {user orderId reason amountCents cash now} :
      Stages (.voidPosOrder user orderId reason)
        (setOrder orderId (markVoided user.userId reason amountCents cash now))
  | flagVoided {user orderId reason ids} :
      Stages (.voidPosOrder user orderId reason) (flagProviderRefundPending ids)
  | restockVoided {user orderId reason movements} :
      Stages (.voidPosOrder user orderId reason) (Inventory.appendMovements movements)
  | restoreVoidedPoints {user orderId reason set row} : row.transactionType = .adjust →
      Stages (.voidPosOrder user orderId reason) (Loyalty.postPoints set row)
  | confirmProviderRefund {user orderId ids now} :
      Stages (.confirmPosOrderProviderRefund user orderId)
        (confirmProviderRefund ids user.userId now)
  | linkCustomer {user orderId newCustomerId body} {customer : Customer} :
      customer.id = newCustomerId → customer.loyaltyPointsBalance = 0 →
      Stages (.createPosOrder user orderId newCustomerId body) (Loyalty.insertCustomer customer)
  | redeem {user orderId newCustomerId body set row} : row.transactionType = .redeem →
      Stages (.createPosOrder user orderId newCustomerId body) (Loyalty.postPoints set row)
  | saleAward {user orderId newCustomerId body set row} : Loyalty.Earning row →
      Stages (.createPosOrder user orderId newCustomerId body) (Loyalty.postPoints set row)
  | consumeIntents {user orderId newCustomerId body now intents} :
      Stages (.createPosOrder user orderId newCustomerId body) (consumeIntents orderId now intents)
  | sequence {user orderId newCustomerId body sequence} :
      Stages (.createPosOrder user orderId newCustomerId body)
        (setOrderNumberSequence user.businessId sequence)
  | insertOrder {user orderId newCustomerId body till sale changeDue sequence currency now} :
      Stages (.createPosOrder user orderId newCustomerId body)
        (insertOrder (newOrder user orderId body till sale changeDue sequence currency now))
  | insertOrderRows {user orderId newCustomerId body till sale changeDue sequence currency now
        intents items event} :
      Stages (.createPosOrder user orderId newCustomerId body)
        (insertOrderRows items event (allocationRows body
          (newOrder user orderId body till sale changeDue sequence currency now) intents now))
  | consumeStock {user orderId newCustomerId body movements} :
      Stages (.createPosOrder user orderId newCustomerId body)
        (Inventory.appendMovements movements)
  | insertIntent {settings hostedUrl user intentId body business till provider phone link now} :
      Stages (.createPosPaymentIntent settings hostedUrl user intentId body) (insertIntent
        (newPaymentIntent user intentId business till provider body.amountCents phone link now))
  | expirePolled {user intentId} :
      Stages (.getPosPaymentIntent user intentId) (setIntent intentId RoutesPayments.expireIntent)
  | expireResent {user intentId tooSoon} :
      Stages (.resendPosPaymentIntent user intentId tooSoon)
        (setIntent intentId RoutesPayments.expireIntent)
  | expireCancelled {user intentId} :
      Stages (.cancelPosPaymentIntent user intentId)
        (setIntent intentId RoutesPayments.expireIntent)
  | cancelIntent {user intentId now} :
      Stages (.cancelPosPaymentIntent user intentId) (setIntent intentId (cancelIntent now))
  | openTill {user sessionId body now} :
      Stages (.openTill user sessionId body)
        (insertTillSession (newTillSession user sessionId body now))
  | closeTill {user sessionId body expected now} :
      Stages (.closeTill user sessionId body) (setTillSession sessionId
        (markClosed user.userId expected body.countedCashCents now))
  | insertProgram {user body program} :
      Stages (.redeemLoyaltyReward user body) (RoutesLoyalty.insertProgram program)
  | redeemReward {user body set row} : row.transactionType = .redeem → row.orderId = none →
      row.idempotencyKey = none → Stages (.redeemLoyaltyReward user body) (Loyalty.postPoints set row)
  | adjustPoints {user customerId body set row} : row.transactionType = .adjust →
      row.orderId = none → (∀ orderId, row.idempotencyKey ≠ some (.redeemReversal orderId)) →
      Stages (.adjustCustomerPoints user customerId body) (Loyalty.postPoints set row)

variable {N : Pending → Prop} {request : Request}

theorem reply_writes {α : Type} {sites : CommitSite → Prop} {wrap : α → Reply} {x : Handler α}
    (h : Writes sites N x) : Writes sites N (reply wrap x) :=
  writes_bind h fun _ => writes_done _

theorem webhookNeutral (hN : Neutral N) (hwebhook : request.Webhook)
    (h : ∀ f, Stages request f → N f) : WebhookNeutral (fun _ => True) N where
  neutral := hN
  orderSite _ := ⟨trivial, trivial⟩
  intentSite _ := ⟨trivial, trivial⟩
  setOrder _ _ _ := h _ (.payOrder hwebhook)
  addOrderEvent _ := h _ (.payEvent hwebhook)
  postPoints _ _ hrow := h _ (.payAward hwebhook hrow)
  expireIntent _ := h _ (.expireIntent hwebhook)
  payIntent _ _ _ := h _ (.payIntent hwebhook)

theorem handle_writes (hN : Neutral N) (h : ∀ f, Stages request f → N f) :
    Writes (fun _ => True) N (handle request) := by
  cases request with
  | yocoWebhook businessId delivery =>
      exact reply_writes (jsonWebhook_writes (webhookNeutral hN .yoco h))
  | payfastWebhook businessId delivery =>
      exact reply_writes (payfastWebhook_writes (webhookNeutral hN .payfast h))
  | ikhokaWebhook businessId delivery =>
      exact reply_writes (jsonWebhook_writes (webhookNeutral hN .ikhoka h))
  | stitchWebhook businessId delivery =>
      exact reply_writes (jsonWebhook_writes (webhookNeutral hN .stitch h))
  | updatePaymentStatus user orderId body =>
      exact reply_writes (RoutesOrders.updatePaymentStatus_writes hN (fun _ _ => trivial)
        (fun _ => trivial) (fun _ _ => h _ .recordPayment) (fun _ => h _ .recordEvent)
        fun _ _ hrow => h _ (.recordAward hrow))
  | refundOrderPayment user orderId body result =>
      exact reply_writes (RoutesOrders.refundOrderPayment_writes hN trivial
        (fun _ _ _ _ => h _ .recordRefund) fun _ => h _ .refundEvent)
  | refundPosOrder user orderId body =>
      exact reply_writes (refundPosOrder_writes hN trivial (fun _ _ _ _ => h _ .markRefunded)
        (fun _ => h _ .flagRefunded) (fun _ => h _ .restock)
        fun _ _ hrow _ => h _ (.restorePoints hrow))
  | voidPosOrder user orderId reason =>
      exact reply_writes (voidPosOrder_writes hN trivial (fun _ _ _ => h _ .markVoided)
        (fun _ => h _ .flagVoided) (fun _ => h _ .restockVoided)
        fun _ _ hrow _ => h _ (.restoreVoidedPoints hrow))
  | confirmPosOrderProviderRefund user orderId =>
      exact reply_writes (confirmPosOrderProviderRefund_writes trivial
        fun _ _ => h _ .confirmProviderRefund)
  | createPosOrder user orderId newCustomerId body =>
      refine reply_writes (createPosOrder_writes ?_)
      exact
        { neutral := hN
          orderSite := trivial
          awardSite := fun _ => trivial
          insertCustomer := fun _ hid hbalance => h _ (.linkCustomer hid hbalance)
          redeem := fun _ _ hrow _ => h _ (.redeem hrow)
          earn := fun _ _ hrow => h _ (.saleAward hrow)
          consumeIntents := fun _ _ => h _ .consumeIntents
          sequence := fun _ => h _ .sequence
          insertOrder := fun _ _ _ _ _ _ => h _ .insertOrder
          insertOrderRows := fun _ _ _ _ _ _ _ _ _ => h _ .insertOrderRows
          appendMovements := fun _ => h _ .consumeStock }
  | createPosPaymentIntent settings hostedUrl user intentId body =>
      exact reply_writes (createPosPaymentIntent_writes trivial
        fun _ _ _ _ _ _ => h _ .insertIntent)
  | getPosPaymentIntent user intentId =>
      exact reply_writes (getPosPaymentIntent_writes trivial (h _ .expirePolled))
  | resendPosPaymentIntent user intentId tooSoon =>
      exact reply_writes (resendPosPaymentIntent_writes hN trivial (h _ .expireResent))
  | cancelPosPaymentIntent user intentId =>
      exact reply_writes (cancelPosPaymentIntent_writes trivial (h _ .expireCancelled)
        fun _ => h _ .cancelIntent)
  | openTill user sessionId body =>
      exact reply_writes (openTill_writes trivial fun _ => h _ .openTill)
  | closeTill user sessionId body =>
      exact reply_writes (closeTill_writes trivial fun _ _ => h _ .closeTill)
  | redeemLoyaltyReward user body =>
      exact reply_writes (RoutesLoyalty.redeemLoyaltyReward_writes (fun _ => trivial)
        (fun _ => trivial) (fun _ => h _ .insertProgram)
        fun _ _ hrow horder hkey => h _ (.redeemReward hrow horder hkey))
  | adjustCustomerPoints user customerId body =>
      exact reply_writes (RoutesLoyalty.adjustCustomerPoints_writes (fun _ => trivial)
        fun _ _ hrow horder hkey => h _ (.adjustPoints hrow horder hkey))

end Stages

end NextgenBackend
