import NextgenBackend.Loyalty.Engine
import NextgenBackend.Payments.Providers

namespace NextgenBackend.RoutesPayments

open Txn

open Payments

def amountOk (order : Order) (amountCents : Option Int) : Bool :=
  amountCents.all fun amount => amount = order.totalCents

def expectedCurrency (currency : String) : String :=
  upper (if currency = "" then "ZAR" else currency)

def currencyMatches (stored : String) (reported : Json) : Bool :=
  match reported with
  | .str s => upper s = expectedCurrency stored
  | _ => false

def currencyOk (order : Order) (currency : Option Json) : Bool :=
  currency.all fun reported => !reported.truthy || currencyMatches order.currency reported

def amountCurrencyOk (order : Order) (amountCents : Option Int) (currency : Option Json) : Bool :=
  amountOk order amountCents && currencyOk order currency

def textColumn : Option Json → Handler (Option String)
  | none | some .null => pure none
  | some (.str s) => pure (some s)
  | some _ => .fail .unhandled

def paidByWebhook (reference : Option String) (now : Instant) (o : Order) : Order :=
  { o with
    paymentStatus := .paid
    paymentReference := reference.orElse fun _ => o.paymentReference
    paidAt := some now }

def addOrderEvent (event : OrderEvent) : Pending := fun t =>
  { t with orderEvents := t.orderEvents ++ [event] }

def setIntent (intentId : Uuid) (set : POSPaymentLinkIntent → POSPaymentLinkIntent) : Pending :=
  fun t => { t with intents := t.intents.modify intentId set }

def newReference (order : Order) (reference : Option Json) : Option Json :=
  if order.paymentReference.getD "" = "" then reference.filter Json.truthy else none

def markOrderPaid (orderRef : String) (businessId : Uuid) (providerName : String)
    (result : WebhookResult) : Handler Unit :=
  match parseUuid orderRef with
  | none => pure ()
  | some orderId => do
      let row ← .read fun db =>
        (db.orders.lookup orderId).filter fun o => o.businessId = businessId
      match row with
      | none => pure ()
      | some order =>
          if order.paymentStatus = .paid then pure ()
          else if ¬ amountCurrencyOk order result.amountCents result.currency then pure ()
          else do
            let now ← readNow
            let reference ← textColumn (newReference order result.reference)
            let session := Session.stage {} [.order orderId]
              (setOrder orderId (paidByWebhook reference now))
            commit (.markOrderPaid orderId) (session.stage [] (addOrderEvent
              ⟨orderId, order.businessId, some order.status, order.status, none,
                some s!"Payment confirmed via {providerName} webhook"⟩))
            let order ← refreshOrder orderId
            Loyalty.awardLoyaltyPointsIfEnabled businessId order

def intentAmountOk (intent : POSPaymentLinkIntent) (amountCents : Option Int) : Bool :=
  amountCents = some intent.amountCents

def intentCurrencyOk (intent : POSPaymentLinkIntent) (currency : Option Json) : Bool :=
  match currency with
  | none | some .null => true
  | some reported => currencyMatches intent.currency reported

def expireIntent (i : POSPaymentLinkIntent) : POSPaymentLinkIntent :=
  { i with status := .expired }

def payIntent (reference : Option String) (now : Instant) (i : POSPaymentLinkIntent) :
    POSPaymentLinkIntent :=
  { i with status := .paid, providerReference := reference, paidAt := some now }

def markIntentPaid (intentRef : String) (businessId : Uuid) (result : WebhookResult) :
    Handler Unit :=
  match parseUuid intentRef with
  | none => pure ()
  | some intentId => do
      let row ← .lock (.intent intentId) fun db =>
        (db.intents.lookup intentId).filter fun i => i.businessId = businessId
      match row with
      | none => pure ()
      | some intent =>
          if intent.status ≠ .pending then pure () else do
            let now ← readNow
            if intent.expiresAt ≤ now then
              commit (.markIntentExpired intentId)
                (Session.stage {} [.intent intentId] (setIntent intentId expireIntent))
            else if ¬ (intentAmountOk intent result.amountCents ∧
                intentCurrencyOk intent result.currency) then pure ()
            else do
              let reference ← textColumn result.reference
              commit (.markIntentPaid intentId)
                (Session.stage {} [.intent intentId]
                  (setIntent intentId (payIntent reference now)))

def deliver (businessId : Uuid) (providerName : String) (result : WebhookResult) :
    Handler Unit :=
  match result.orderId with
  | none => pure ()
  | some orderId =>
      if ¬ (result.paid ∧ orderId.truthy) then pure ()
      else
        let orderRef := orderId.text.toList
        if posIntentPrefix.toList.isPrefixOf orderRef then
          markIntentPaid (String.ofList (orderRef.drop posIntentPrefix.length)) businessId result
        else markOrderPaid orderId.text businessId providerName result

def rejected (code : Nat) (detail : String) : AppError := ⟨"HTTP_ERROR", detail, code, []⟩

def loadWebhookBusiness (businessId : Uuid) : Handler Business := do
  let row ← .read fun db => db.businesses.lookup businessId
  found (rejected 404 "Business not found") row

def raised {α : Type} : Except Failure α → Handler α
  | .ok a => .done a
  | .error e => .fail e

def jsonWebhook (providerName : String) (verifySignature : Business → JsonDelivery → Bool)
    (handleWebhook : Json → Except Failure WebhookResult) (businessId : Uuid)
    (delivery : JsonDelivery) : Handler Unit := do
  let business ← loadWebhookBusiness businessId
  ensure (verifySignature business delivery) (rejected 400 "Invalid signature")
  let payload ← found (rejected 400 "Invalid JSON") delivery.body
  let result ← raised (handleWebhook payload)
  deliver businessId providerName result

def yocoWebhook : Uuid → JsonDelivery → Handler Unit :=
  jsonWebhook "Yoco" Yoco.verifySignature Yoco.handleWebhook

def ikhokaWebhook : Uuid → JsonDelivery → Handler Unit :=
  jsonWebhook "iKhoka" IKhoka.verifySignature IKhoka.handleWebhook

def stitchWebhook : Uuid → JsonDelivery → Handler Unit :=
  jsonWebhook "Stitch" Stitch.verifySignature Stitch.handleWebhook

def payfastWebhook (businessId : Uuid) (delivery : FormDelivery) : Handler Unit := do
  let params ← found (rejected 400 "Invalid form data") delivery.form
  let business ← loadWebhookBusiness businessId
  ensure (PayFast.verifySignature params delivery.signature business.paymentWebhookSecret)
    (rejected 400 "Invalid signature")
  let result ← raised (PayFast.handleWebhook params)
  deliver businessId "PayFast" result

section Frames

variable {sites : CommitSite → Prop} {N : Pending → Prop} {businessId : Uuid}
  {providerName : String}

@[simp]
theorem readOnly_textColumn {value : Option Json} :
    (textColumn value).ReadOnly fun _ => True := by
  unfold textColumn
  split <;> trivial

@[simp]
theorem readOnly_raised {α : Type} {value : Except Failure α} :
    (raised value).ReadOnly fun _ => True := by
  unfold raised
  split <;> trivial

theorem markOrderPaid_writes {orderRef : String} {result : WebhookResult} (hN : Neutral N)
    (hsite : ∀ orderId, sites (.markOrderPaid orderId) ∧ sites (.awardLoyaltyPoints orderId))
    (hset : ∀ orderId reference now, parseUuid orderRef = some orderId →
      N (setOrder orderId (paidByWebhook reference now)))
    (hevent : ∀ event, N (addOrderEvent event))
    (hpost : ∀ set row, Loyalty.Earning row → N (Loyalty.postPoints set row)) :
    Writes sites N (markOrderPaid orderRef businessId providerName result) := by
  unfold markOrderPaid
  split
  · exact writes_done _
  next orderId hparse =>
    refine writes_seq readOnly_read fun row => ?_
    split
    · exact writes_done _
    · split
      · exact writes_done _
      · split
        · exact writes_done _
        · refine writes_seq readOnly_readNow fun now => ?_
          refine writes_seq readOnly_textColumn fun reference => ?_
          refine writes_bind (writes_commit (hsite _).1
            (hN.trans (Session.extends_stage (hset _ _ _ hparse))
              (Session.extends_stage (hevent _)))) fun _ => ?_
          refine writes_seq readOnly_refreshOrder fun order => ?_
          exact Loyalty.awardLoyaltyPointsIfEnabled_writes hN (hsite _).2 fun set row hrow _ =>
            hpost set row hrow

theorem markIntentPaid_writes {intentRef : String} {result : WebhookResult}
    (hsite : ∀ intentId, sites (.markIntentPaid intentId) ∧ sites (.markIntentExpired intentId))
    (hexpire : ∀ intentId, N (setIntent intentId expireIntent))
    (hpay : ∀ intentId reference now, N (setIntent intentId (payIntent reference now))) :
    Writes sites N (markIntentPaid intentRef businessId result) := by
  unfold markIntentPaid
  split
  · exact writes_done _
  · refine writes_seq readOnly_lock fun row => ?_
    split
    · exact writes_done _
    · split
      · exact writes_done _
      · refine writes_seq readOnly_readNow fun now => ?_
        split
        · exact writes_commit (hsite _).2 (Session.extends_stage (hexpire _))
        · split
          · exact writes_done _
          · refine writes_seq readOnly_textColumn fun reference => ?_
            exact writes_commit (hsite _).1 (Session.extends_stage (hpay _ _ _))

structure WebhookNeutral (sites : CommitSite → Prop) (N : Pending → Prop) : Prop where
  neutral : Neutral N
  orderSite : ∀ orderId, sites (.markOrderPaid orderId) ∧ sites (.awardLoyaltyPoints orderId)
  intentSite : ∀ intentId, sites (.markIntentPaid intentId) ∧ sites (.markIntentExpired intentId)
  setOrder : ∀ orderId reference now, N (setOrder orderId (paidByWebhook reference now))
  addOrderEvent : ∀ event, N (addOrderEvent event)
  postPoints : ∀ set row, Loyalty.Earning row → N (Loyalty.postPoints set row)
  expireIntent : ∀ intentId, N (setIntent intentId expireIntent)
  payIntent : ∀ intentId reference now, N (setIntent intentId (payIntent reference now))

theorem deliver_writes {result : WebhookResult} (h : WebhookNeutral sites N) :
    Writes sites N (deliver businessId providerName result) := by
  unfold deliver
  split
  · exact writes_done _
  · split
    · exact writes_done _
    · dsimp only
      split
      · exact markIntentPaid_writes h.intentSite h.expireIntent h.payIntent
      · exact markOrderPaid_writes h.neutral h.orderSite
          (fun _ _ _ _ => h.setOrder _ _ _) h.addOrderEvent h.postPoints

@[simp]
theorem readOnly_loadWebhookBusiness :
    (loadWebhookBusiness businessId).ReadOnly fun _ => True :=
  readOnly_seq readOnly_read fun _ => readOnly_found

theorem jsonWebhook_writes {verifySignature : Business → JsonDelivery → Bool}
    {handleWebhook : Json → Except Failure WebhookResult} {delivery : JsonDelivery}
    (h : WebhookNeutral sites N) :
    Writes sites N
      (jsonWebhook providerName verifySignature handleWebhook businessId delivery) := by
  refine writes_seq readOnly_loadWebhookBusiness fun business => ?_
  refine writes_seq readOnly_ensure fun _ => ?_
  refine writes_seq readOnly_found fun payload => ?_
  exact writes_seq readOnly_raised fun result => deliver_writes h

theorem payfastWebhook_writes {delivery : FormDelivery} (h : WebhookNeutral sites N) :
    Writes sites N (payfastWebhook businessId delivery) := by
  refine writes_seq readOnly_found fun params => ?_
  refine writes_seq readOnly_loadWebhookBusiness fun business => ?_
  refine writes_seq readOnly_ensure fun _ => ?_
  exact writes_seq readOnly_raised fun result => deliver_writes h

end Frames

end NextgenBackend.RoutesPayments
