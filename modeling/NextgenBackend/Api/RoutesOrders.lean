import NextgenBackend.Api.RoutesPayments
import NextgenBackend.Core.Rbac

namespace NextgenBackend.RoutesOrders

open Txn

open RoutesPayments (addOrderEvent)

structure PaymentUpdateRequest where
  paymentStatus : PaymentStatus
  paymentMethod : Option PaymentMethod
  paymentReference : Option String
  methodAccepted : ∀ method ∈ paymentMethod, method ∈
    [.cash, .card, .payOnCollection, .directEft, .payshap, .yoco, .payfast, .stitch, .manual]

def isReversal (status : PaymentStatus) : Bool :=
  status = .refunded || status = .partiallyRefunded || status = .voided

def useRefundEndpoint : AppError where
  code := "USE_REFUND_ENDPOINT"
  message :=
    "Use POST /orders/\x7bid\x7d/refund (or the POS refund/void endpoints) to record a refund or void — this endpoint only records how and when payment was taken."
  statusCode := 422

def loadOrder (businessId orderId : Uuid) : Handler Order := do
  let row ← .read fun db =>
    (db.orders.lookup orderId).filter fun o => o.businessId = businessId
  found (notFoundError "Order" (some orderId)) row

-- Only a column whose value differs from the one loaded is written back.
def assign {β : Type} [DecidableEq β] (loaded new current : β) : β :=
  if new = loaded then current else new

def recordPayment (body : PaymentUpdateRequest) (loaded : Order) (now : Instant) (o : Order) :
    Order :=
  { o with
    paymentStatus := assign loaded.paymentStatus body.paymentStatus o.paymentStatus
    paymentMethod := body.paymentMethod.elim o.paymentMethod fun method =>
      assign loaded.paymentMethod (some method) o.paymentMethod
    paymentReference := body.paymentReference.elim o.paymentReference fun reference =>
      assign loaded.paymentReference (some reference) o.paymentReference
    paidAt := if body.paymentStatus = .paid ∧ loaded.paidAt = none then some now else o.paidAt }

def quoted (text : String) : String := "'" ++ text ++ "'"

def manualPaymentReason (body : PaymentUpdateRequest) : String :=
  let status := body.paymentStatus.value
  let reason := s!"Payment marked {status} manually by staff"
  match body.paymentReference with
  | none | some "" => reason
  | some reference => reason ++ " (payment_reference=" ++ quoted reference ++ ")"

def wasUnpaid (order : Order) : Bool :=
  order.paymentStatus = .unpaid || order.paymentStatus = .pending

def becomesPaid (body : PaymentUpdateRequest) (loaded : Order) : Bool :=
  body.paymentStatus = .paid && wasUnpaid loaded

def updatePaymentStatus (user : AuthUser) (orderId : Uuid) (body : PaymentUpdateRequest) :
    Handler Order := do
  requireStaffOrAbove user
  let loaded ← loadOrder user.businessId orderId
  ensure (¬ isReversal body.paymentStatus) useRefundEndpoint
  ensure (¬ (loaded.paymentStatus = .paid ∧ body.paymentStatus ≠ .paid ∧
      ¬ (user.role = .owner ∨ user.role = .manager)))
    ⟨"OWNER_OR_MANAGER_REQUIRED",
      "Moving a PAID order back to an unpaid status requires an owner or manager.", 403, []⟩
  let now ← readNow
  let session := Session.stage {} [.order orderId]
    (setOrder orderId (recordPayment body loaded now))
  let session ← session.stageWhen (body.paymentMethod = some .manual) fun session =>
    pure (session.stage [] (addOrderEvent
      ⟨orderId, user.businessId, some loaded.status, loaded.status, some user.userId,
        some (manualPaymentReason body)⟩))
  commit (.updatePaymentStatus orderId loaded.paymentStatus (becomesPaid body loaded)) session
  let order ← refreshOrder orderId
  if becomesPaid body loaded then do
    Loyalty.awardLoyaltyPointsIfEnabled user.businessId order
    pure order
  else pure order

structure RefundRequest where
  amountCents : Option Cents
  reason : Option String
  confirmManual : Bool
  reference : Option String
  note : Option String
  amountPositive : ∀ amount ∈ amountCents, 1 ≤ amount
  referenceRequired : confirmManual → reference.any (· ≠ "")

inductive RefundResultStatus where
  | completed | pending | manualRequired | failed
deriving DecidableEq, Repr

structure RefundResult where
  success : Bool
  status : RefundResultStatus
  providerReference : Option String
  error : Option String
deriving DecidableEq, Repr

def getProvider (providerName : Option String) : Option String :=
  (providerName.map Payments.upper).filter fun name =>
    name ∈ ["DIRECT_EFT", "MOCK", "YOCO", "PAYFAST", "STITCH", "IKHOKA"]

def ensurePaid (order : Order) : Handler Unit :=
  ensure (order.paymentStatus = .paid) ⟨"ORDER_NOT_PAID",
    "Cannot refund an order with payment_status=" ++ quoted order.paymentStatus.value ++
      " — only PAID orders can be refunded", 422, []⟩

def refundAmount (body : RefundRequest) (order : Order) : Handler Cents := do
  let amountCents := body.amountCents.getD order.totalCents
  ensure (amountCents ≤ order.totalCents)
    ⟨"REFUND_EXCEEDS_TOTAL", "Refund amount cannot exceed the order total", 422, []⟩
  pure amountCents

def recordRefund (status : PaymentStatus) (amountCents : Cents) (reference : Option String)
    (now : Instant) (o : Order) : Order :=
  { o with
    paymentStatus := status
    refundAmountCents := some amountCents
    refundReference := reference
    refundedAt := some now }

def manualRefundReason (body : RefundRequest) (amountCents : Cents) : String :=
  "Manual refund confirmed by staff — R" ++ Pricing.randText amountCents ++
    " (reference=" ++ quoted (body.reference.getD "") ++ ")" ++
    match body.note with
    | none | some "" => ""
    | some note => " — " ++ note

def confirmManualRefund (user : AuthUser) (order : Order) (body : RefundRequest) :
    Handler Order := do
  let status := order.paymentStatus.value
  ensure (¬ (order.paymentStatus = .refunded ∨ order.paymentStatus = .partiallyRefunded))
    ⟨"REFUND_ALREADY_RECORDED",
      s!"This order's payment is already {status} — a manual refund confirmation cannot be recorded twice.",
      409, []⟩
  ensurePaid order
  let amountCents ← refundAmount body order
  let now ← readNow
  let full : Bool := amountCents = order.totalCents
  let session := Session.stage {} [.order order.id] (setOrder order.id
    (recordRefund (if full then .refunded else .partiallyRefunded) amountCents body.reference now))
  commit (.refundOrderPayment order.id) (session.stage [] (addOrderEvent
    ⟨order.id, user.businessId, some order.status, order.status, some user.userId,
      some (manualRefundReason body amountCents)⟩))
  refreshOrder order.id

-- COMPLETED records REFUNDED even where the amount is only a part of the total.
def providerRefund (user : AuthUser) (order : Order) (body : RefundRequest)
    (result : RefundResult) : Handler Order := do
  ensurePaid order
  let amountCents ← refundAmount body order
  let business ← loadBusiness user.businessId
  ensure (getProvider business.paymentProvider).isSome ⟨"NO_PAYMENT_PROVIDER",
    "This business has no payment provider configured — cannot process a refund", 422, []⟩
  let now ← readNow
  let session ← Session.stageWhen {} (result.success ∧ result.status = .completed) fun session =>
    pure (session.stage [.order order.id] (setOrder order.id
      (recordRefund .refunded amountCents result.providerReference now)))
  commit (.refundOrderPayment order.id) session
  refreshOrder order.id

def refundOrderPayment (user : AuthUser) (orderId : Uuid) (body : RefundRequest)
    (result : RefundResult) : Handler Order := do
  requireOwnerOrManager user
  let order ← loadOrderForUpdate user.businessId orderId
  if body.confirmManual then confirmManualRefund user order body
  else providerRefund user order body result

section Frames

variable {sites : CommitSite → Prop} {N : Pending → Prop} {user : AuthUser} {orderId : Uuid}
  {order : Order}

theorem assign_self {β : Type} [DecidableEq β] {loaded new : β} :
    assign loaded new loaded = new := by
  unfold assign
  split
  next h => exact h.symm
  next => rfl

theorem recordPayment_status {body : PaymentUpdateRequest} {now : Instant} :
    (recordPayment body order now order).paymentStatus = body.paymentStatus :=
  assign_self

@[simp]
theorem readOnly_loadOrder {businessId : Uuid} :
    (loadOrder businessId orderId).ReadOnly fun _ => True :=
  readOnly_seq readOnly_read fun _ => readOnly_found

theorem updatePaymentStatus_writes {body : PaymentUpdateRequest} (hN : Neutral N)
    (hsite : ∀ before becamePaid, sites (.updatePaymentStatus orderId before becamePaid))
    (haward : ∀ orderId, sites (.awardLoyaltyPoints orderId))
    (hset : ∀ loaded now, N (setOrder orderId (recordPayment body loaded now)))
    (hevent : ∀ event, N (RoutesPayments.addOrderEvent event))
    (hpost : ∀ set row, Loyalty.Earning row → N (Loyalty.postPoints set row)) :
    Writes sites N (updatePaymentStatus user orderId body) := by
  refine writes_seq readOnly_requireStaffOrAbove fun _ => ?_
  refine writes_seq readOnly_loadOrder fun loaded => ?_
  refine writes_seq readOnly_ensure fun _ => ?_
  refine writes_seq readOnly_ensure fun _ => ?_
  refine writes_seq readOnly_readNow fun now => ?_
  refine writes_extend hN (Session.extends_stage (hset _ _))
    (readOnly_stageWhen hN (Session.extends_stage (hevent _))) fun session hs => ?_
  refine writes_bind (writes_commit (hsite _ _) hs) fun _ => ?_
  refine writes_seq readOnly_refreshOrder fun order => ?_
  split
  · refine writes_bind ?_ fun _ => writes_done _
    exact Loyalty.awardLoyaltyPointsIfEnabled_writes hN (haward _) fun set row hrow _ =>
      hpost set row hrow
  · exact writes_done _

@[simp]
theorem readOnly_refundAmount {body : RefundRequest} :
    (refundAmount body order).ReadOnly fun _ => True :=
  readOnly_seq readOnly_ensure fun _ => trivial

theorem refundOrderPayment_writes {body : RefundRequest} {result : RefundResult} (hN : Neutral N)
    (hsite : sites (.refundOrderPayment orderId))
    (hset : ∀ status amountCents reference now,
      N (setOrder orderId (recordRefund status amountCents reference now)))
    (hevent : ∀ event, N (RoutesPayments.addOrderEvent event)) :
    Writes sites N (refundOrderPayment user orderId body result) := by
  refine writes_seq readOnly_requireOwnerOrManager fun _ => ?_
  refine writes_staged loadOrderForUpdate_owned fun order howned => ?_
  obtain ⟨rfl, -⟩ := howned
  split
  · refine writes_seq readOnly_ensure fun _ => ?_
    refine writes_seq readOnly_ensure fun _ => ?_
    refine writes_seq readOnly_refundAmount fun amountCents => ?_
    refine writes_seq readOnly_readNow fun now => ?_
    exact writes_bind (writes_commit hsite
      (hN.trans (Session.extends_stage (hset _ _ _ _)) (Session.extends_stage (hevent _)))) fun _ =>
        writes_readOnly readOnly_refreshOrder
  · refine writes_seq readOnly_ensure fun _ => ?_
    refine writes_seq readOnly_refundAmount fun amountCents => ?_
    refine writes_seq readOnly_loadBusiness fun business => ?_
    refine writes_seq readOnly_ensure fun _ => ?_
    refine writes_seq readOnly_readNow fun now => ?_
    refine writes_staged (readOnly_stageWhen hN (Session.extends_stage (hset _ _ _ _)))
      fun session hs => ?_
    exact writes_bind (writes_commit hsite hs) fun _ => writes_readOnly readOnly_refreshOrder

end Frames

end NextgenBackend.RoutesOrders
