import NextgenBackend.Core.Rbac
import NextgenBackend.Inventory.Ledger
import NextgenBackend.Loyalty.Engine

namespace NextgenBackend.RoutesPos

open Txn

structure POSRefundRequest where
  amountCents : Option Cents
  reason : Option String
  restoreStock : Bool
  restoreLoyaltyPoints : Bool
  cashRefundCents : Option Cents
  amountPositive : ∀ amount ∈ amountCents, 1 ≤ amount
  cashNonnegative : ∀ cash ∈ cashRefundCents, 0 ≤ cash

def openTillSession (businessId : Uuid) (t : Tables) : Option TillSession :=
  t.tillSessions.find? fun s => s.businessId = businessId ∧ s.status = .open

def lockOpenTill (businessId : Uuid) : Handler (Option TillSession) := do
  let candidate ← .read fun db => openTillSession businessId db.toTables
  match candidate with
  | none => pure none
  | some candidate =>
      .lock (.tillSession candidate.id) fun db =>
        (db.tillSessions.lookup candidate.id).filter fun s => s.status = .open

def loadPosOrderForReversal (businessId orderId : Uuid) : Handler Order := do
  let order ← loadOrderForUpdate businessId orderId
  ensure (order.source = .pos) ⟨"NOT_A_POS_ORDER",
    "This endpoint only reverses POS-sourced orders — use the standard refund endpoint for other sources",
    422, []⟩
  let status := order.paymentStatus.value
  ensure (order.paymentStatus = .paid) ⟨"ORDER_NOT_PAID",
    s!"Cannot reverse an order with payment_status='{status}' — only PAID orders can be refunded or voided",
    422, []⟩
  pure order

def orderAllocations (orderId : Uuid) (t : Tables) : List POSPaymentAllocation :=
  t.allocations.filter fun a => a.orderId = orderId

def cashAllocated (orderId : Uuid) (t : Tables) : Cents :=
  (((orderAllocations orderId t).filter fun a => a.paymentMethod = .cash).map (·.amountCents)).sum

def nonCashAllocated (orderId : Uuid) (t : Tables) : Cents :=
  (((orderAllocations orderId t).filter fun a => a.paymentMethod ≠ .cash).map (·.amountCents)).sum

def hasCash (order : Order) (t : Tables) : Bool :=
  order.paymentMethod = some .cash ||
    (order.paymentMethod = some .split &&
      (orderAllocations order.id t).any fun a => a.paymentMethod = .cash)

def requireOpenTillForCashReversal (businessId : Uuid) (order : Order) : Handler Unit := do
  let cash ← .read fun db => hasCash order db.toTables
  if ¬ cash then pure () else do
    let till ← lockOpenTill businessId
    ensure till.isSome ⟨"TILL_NOT_OPEN",
      "A cash refund or void requires an open till session so the cash paid out is reconciled at the next cash-up — open the till first.",
      409, []⟩

def computeCashPortion (order : Order) (requestedCents : Cents) : Handler Cents :=
  match order.paymentMethod with
  | some .cash => pure requestedCents
  | some .split => do
      let cash ← .read fun db => cashAllocated order.id db.toTables
      pure (min cash requestedCents)
  | _ => pure 0

def partialSplitCash (body : POSRefundRequest) (amountCents cash nonCash : Cents) : Handler Cents :=
  if 0 < cash ∧ 0 < nonCash then
    match body.cashRefundCents with
    | none => raise ⟨"CASH_REFUND_PORTION_REQUIRED",
        "This order was paid by a mix of cash and non-cash methods — specify cash_refund_cents for a partial refund so till cash-up stays accurate",
        422, []⟩
    | some requested => do
        ensure (requested ≤ amountCents ∧ requested ≤ cash) ⟨"CASH_REFUND_PORTION_INVALID",
          "cash_refund_cents cannot exceed the refund amount or the order's cash allocation",
          422, []⟩
        pure requested
  else pure (min cash amountCents)

def refundCash (body : POSRefundRequest) (order : Order) (amountCents : Cents) : Handler Cents :=
  if amountCents ≠ order.totalCents ∧ order.paymentMethod = some .split then do
    let (cash, nonCash) ← .read fun db =>
      (cashAllocated order.id db.toTables, nonCashAllocated order.id db.toTables)
    partialSplitCash body amountCents cash nonCash
  else computeCashPortion order amountCents

def flagProviderRefundPending (ids : List (Uuid × Nat)) : Pending := fun t =>
  { t with allocations := t.allocations.map fun a =>
      if a.id ∈ ids then { a with providerRefundStatus := some .pendingManual } else a }

def flagPayByLinkProviderRefundPending (session : Session) (order : Order)
    (amountCents cashRefundCents : Cents) : Handler Session :=
  if amountCents - cashRefundCents ≤ 0 then pure session else do
    let pendingRefunds ← .read fun db => (orderAllocations order.id db.toTables).filter fun a =>
      a.paymentMethod = .payByLink ∧ a.providerRefundStatus = none
    pure (session.stage [] (flagProviderRefundPending (pendingRefunds.map (·.id))))

def markRefunded (body : POSRefundRequest) (amountCents cashRefundCents : Cents) (full : Bool)
    (now : Instant) (o : Order) : Order :=
  { o with
    paymentStatus := if full then .refunded else .partiallyRefunded
    refundAmountCents := some amountCents
    refundCashCents := some cashRefundCents
    refundReference := body.reason
    refundedAt := some now }

def markVoided (userId : Uuid) (reason : String) (amountCents cashRefundCents : Cents)
    (now : Instant) (o : Order) : Order :=
  { o with
    paymentStatus := .voided
    refundAmountCents := some amountCents
    refundCashCents := some cashRefundCents
    refundReference := some reason
    refundedAt := some now
    status := .cancelled
    cancelledReason := some reason
    cancelledByUserId := some userId }

def confirmProviderRefund (ids : List (Uuid × Nat)) (userId : Uuid) (now : Instant) : Pending :=
  fun t => { t with allocations := t.allocations.map fun a =>
    if a.id ∈ ids then
      { a with
        providerRefundStatus := some .confirmed
        providerRefundConfirmedAt := some now
        providerRefundConfirmedByUserId := some userId }
    else a }

def reverseStock (session : Session) (user : AuthUser) (orderId : Uuid) (notes : String) :
    Handler Session := do
  let inventoryEnabled ← .read fun db =>
    (db.businesses.lookup user.businessId).any (·.inventoryEnabled)
  if inventoryEnabled then
    Inventory.reverseSaleConsumption session user.businessId orderId (some user.userId) (some notes)
  else pure session

def reasonText (reason : Option String) : String := reason.getD "None"

def refundPosOrder (user : AuthUser) (orderId : Uuid) (body : POSRefundRequest) :
    Handler Order := do
  requirePosEnabled user
  requireOwnerOrManager user
  let order ← loadPosOrderForReversal user.businessId orderId
  requireOpenTillForCashReversal user.businessId order
  let amountCents := body.amountCents.getD order.totalCents
  ensure (amountCents ≤ order.totalCents)
    ⟨"REFUND_EXCEEDS_TOTAL", "Refund amount cannot exceed the order total", 422, []⟩
  let isFullRefund : Bool := amountCents = order.totalCents
  let cashRefundCents ← refundCash body order amountCents
  let now ← readNow
  let session := Session.stage {} [.order orderId]
    (setOrder orderId (markRefunded body amountCents cashRefundCents isFullRefund now))
  let session ← flagPayByLinkProviderRefundPending session order amountCents cashRefundCents
  let session ← session.stageWhen body.restoreStock fun session =>
    reverseStock session user orderId ("Refund with stock returned: " ++ reasonText body.reason)
  let session ← session.stageWhen
    (isFullRefund ∧ body.restoreLoyaltyPoints ∧ order.loyaltyRewardId.isSome) fun session =>
      Loyalty.reverseRedemption session user.businessId orderId
        (some ("Refund: " ++ reasonText body.reason))
  commit (.refundPosOrder orderId) session
  refreshOrder orderId

def voidPosOrder (user : AuthUser) (orderId : Uuid) (reason : String) : Handler Order := do
  requirePosEnabled user
  requireOwnerOrManager user
  let order ← loadPosOrderForReversal user.businessId orderId
  requireOpenTillForCashReversal user.businessId order
  let cashRefundCents ← computeCashPortion order order.totalCents
  let now ← readNow
  let session := Session.stage {} [.order orderId]
    (setOrder orderId (markVoided user.userId reason order.totalCents cashRefundCents now))
  let session ← flagPayByLinkProviderRefundPending session order order.totalCents cashRefundCents
  let session ← reverseStock session user orderId ("Void: " ++ reason)
  let session ← session.stageWhen order.loyaltyRewardId.isSome fun session =>
    Loyalty.reverseRedemption session user.businessId orderId (some ("Void: " ++ reason))
  commit (.voidPosOrder orderId) session
  refreshOrder orderId

def confirmPosOrderProviderRefund (user : AuthUser) (orderId : Uuid) : Handler Order := do
  requirePosEnabled user
  requireOwnerOrManager user
  let order ← loadOrderForUpdate user.businessId orderId
  let pendingRefunds ← .read fun db => (orderAllocations order.id db.toTables).filter fun a =>
    a.paymentMethod = .payByLink ∧ a.providerRefundStatus = some .pendingManual
  ensure (pendingRefunds ≠ []) ⟨"NO_PENDING_PROVIDER_REFUND",
    "This order has no Pay-by-Link refund awaiting provider confirmation", 422, []⟩
  let now ← readNow
  commit (.confirmPosOrderProviderRefund orderId)
    (Session.stage {} [] (confirmProviderRefund (pendingRefunds.map (·.id)) user.userId now))
  refreshOrder orderId

section Frames

variable {sites : CommitSite → Prop} {N : Pending → Prop} {session : Session} {user : AuthUser}
  {businessId orderId : Uuid} {order : Order}

@[simp]
theorem readOnly_lockOpenTill : (lockOpenTill businessId).ReadOnly fun _ => True := by
  refine readOnly_seq readOnly_read fun candidate => ?_
  split
  · trivial
  · exact readOnly_lock

@[simp]
theorem readOnly_loadPosOrderForReversal :
    (loadPosOrderForReversal businessId orderId).ReadOnly fun _ => True := by
  refine readOnly_seq readOnly_loadOrderForUpdate fun order => ?_
  refine readOnly_seq readOnly_ensure fun _ => ?_
  exact readOnly_seq readOnly_ensure fun _ => trivial

@[simp]
theorem readOnly_requireOpenTillForCashReversal :
    (requireOpenTillForCashReversal businessId order).ReadOnly fun _ => True := by
  refine readOnly_seq readOnly_read fun cash => ?_
  split
  · trivial
  · exact readOnly_seq readOnly_lockOpenTill fun _ => readOnly_ensure

@[simp]
theorem readOnly_computeCashPortion {requestedCents : Cents} :
    (computeCashPortion order requestedCents).ReadOnly fun _ => True := by
  unfold computeCashPortion
  split
  · trivial
  · exact readOnly_seq readOnly_read fun _ => trivial
  · trivial

@[simp]
theorem readOnly_refundCash {body : POSRefundRequest} {amountCents : Cents} :
    (refundCash body order amountCents).ReadOnly fun _ => True := by
  unfold refundCash
  split
  · refine readOnly_seq readOnly_read fun allocated => ?_
    dsimp only
    unfold partialSplitCash
    split
    · split
      · trivial
      · exact readOnly_seq readOnly_ensure fun _ => trivial
    · trivial
  · exact readOnly_computeCashPortion

theorem flagPayByLinkProviderRefundPending_stages {amountCents cashRefundCents : Cents}
    (hN : Neutral N)
    (hflag : ∀ ids, N (flagProviderRefundPending ids)) :
    (flagPayByLinkProviderRefundPending session order amountCents cashRefundCents).ReadOnly
      (session.Extends N) := by
  unfold flagPayByLinkProviderRefundPending
  split
  · exact hN.refl
  · exact readOnly_seq readOnly_read fun _ => Session.extends_stage (hflag _)

theorem reverseStock_stages {notes : String} (hN : Neutral N)
    (hmovements : ∀ movements, N (Inventory.appendMovements movements)) :
    (reverseStock session user orderId notes).ReadOnly (session.Extends N) := by
  refine readOnly_seq readOnly_read fun inventoryEnabled => ?_
  split
  · exact Inventory.reverseSaleConsumption_stages hN hmovements
  · exact hN.refl

theorem refundPosOrder_writes {body : POSRefundRequest} (hN : Neutral N)
    (hsite : sites (.refundPosOrder orderId))
    (hset : ∀ amountCents cash full now,
      N (setOrder orderId (markRefunded body amountCents cash full now)))
    (hflag : ∀ ids, N (flagProviderRefundPending ids))
    (hmovements : ∀ movements, N (Inventory.appendMovements movements))
    (hpost : ∀ set row, row.transactionType = .adjust → row.orderId = some orderId →
      N (Loyalty.postPoints set row)) :
    Writes sites N (refundPosOrder user orderId body) := by
  refine writes_seq readOnly_requirePosEnabled fun _ => ?_
  refine writes_seq readOnly_requireOwnerOrManager fun _ => ?_
  refine writes_seq readOnly_loadPosOrderForReversal fun order => ?_
  refine writes_seq readOnly_requireOpenTillForCashReversal fun _ => ?_
  refine writes_seq readOnly_ensure fun _ => ?_
  refine writes_seq readOnly_refundCash fun cash => ?_
  refine writes_seq readOnly_readNow fun now => ?_
  refine writes_extend hN (Session.extends_stage (hset _ _ _ _))
    (flagPayByLinkProviderRefundPending_stages hN hflag) fun session hs => ?_
  refine writes_extend hN hs (readOnly_stageWhen hN (reverseStock_stages hN hmovements))
    fun session hs => ?_
  refine writes_extend hN hs (readOnly_stageWhen hN (Loyalty.reverseRedemption_stages hN hpost))
    fun session hs => ?_
  exact writes_bind (writes_commit hsite hs) fun _ => writes_readOnly readOnly_refreshOrder

theorem voidPosOrder_writes {reason : String} (hN : Neutral N)
    (hsite : sites (.voidPosOrder orderId))
    (hset : ∀ amountCents cash now,
      N (setOrder orderId (markVoided user.userId reason amountCents cash now)))
    (hflag : ∀ ids, N (flagProviderRefundPending ids))
    (hmovements : ∀ movements, N (Inventory.appendMovements movements))
    (hpost : ∀ set row, row.transactionType = .adjust → row.orderId = some orderId →
      N (Loyalty.postPoints set row)) :
    Writes sites N (voidPosOrder user orderId reason) := by
  refine writes_seq readOnly_requirePosEnabled fun _ => ?_
  refine writes_seq readOnly_requireOwnerOrManager fun _ => ?_
  refine writes_seq readOnly_loadPosOrderForReversal fun order => ?_
  refine writes_seq readOnly_requireOpenTillForCashReversal fun _ => ?_
  refine writes_seq readOnly_computeCashPortion fun cash => ?_
  refine writes_seq readOnly_readNow fun now => ?_
  refine writes_extend hN (Session.extends_stage (hset _ _ _))
    (flagPayByLinkProviderRefundPending_stages hN hflag) fun session hs => ?_
  refine writes_extend hN hs (reverseStock_stages hN hmovements) fun session hs => ?_
  refine writes_extend hN hs (readOnly_stageWhen hN (Loyalty.reverseRedemption_stages hN hpost))
    fun session hs => ?_
  exact writes_bind (writes_commit hsite hs) fun _ => writes_readOnly readOnly_refreshOrder

theorem confirmPosOrderProviderRefund_writes
    (hsite : sites (.confirmPosOrderProviderRefund orderId))
    (hconfirm : ∀ ids now, N (confirmProviderRefund ids user.userId now)) :
    Writes sites N (confirmPosOrderProviderRefund user orderId) := by
  refine writes_seq readOnly_requirePosEnabled fun _ => ?_
  refine writes_seq readOnly_requireOwnerOrManager fun _ => ?_
  refine writes_seq readOnly_loadOrderForUpdate fun order => ?_
  refine writes_seq readOnly_read fun pendingRefunds => ?_
  refine writes_seq readOnly_ensure fun _ => ?_
  refine writes_seq readOnly_readNow fun now => ?_
  exact writes_bind (writes_commit hsite (Session.extends_stage (hconfirm _ _))) fun _ =>
    writes_readOnly readOnly_refreshOrder

end Frames

structure TillOpenRequest where
  openingFloatCents : Cents
  floatNonnegative : 0 ≤ openingFloatCents

structure TillCloseRequest where
  countedCashCents : Cents
  countedNonnegative : 0 ≤ countedCashCents

def computeExpectedCashCents (openingFloatCents cashSalesCents cashRefundsCents : Cents) : Cents :=
  openingFloatCents + cashSalesCents - cashRefundsCents

def computeVarianceCents (expectedCashCents countedCashCents : Cents) : Cents :=
  countedCashCents - expectedCashCents

def newTillSession (user : AuthUser) (sessionId : Uuid) (body : TillOpenRequest)
    (now : Instant) : TillSession where
  id := sessionId
  businessId := user.businessId
  openedByUserId := user.userId
  openingFloatCents := body.openingFloatCents
  openedAt := now

def insertTillSession (session : TillSession) : Pending := fun t =>
  { t with tillSessions := t.tillSessions.insert session }

def refreshTillSession (sessionId : Uuid) : Handler TillSession := do
  let row ← .read fun db => db.tillSessions.lookup sessionId
  found (notFoundError "TillSession" (some sessionId)) row

def openTill (user : AuthUser) (sessionId : Uuid) (body : TillOpenRequest) :
    Handler TillSession := do
  requirePosEnabled user
  requireStaffOrAbove user
  let existing ← .read fun db => openTillSession user.businessId db.toTables
  ensure existing.isNone
    ⟨"TILL_ALREADY_OPEN", "A till session is already open for this business", 409, []⟩
  let now ← readNow
  let fault ← .tryCommit (.openTill sessionId) []
    (Database.write (insertTillSession (newTillSession user sessionId body now)))
  match fault with
  | none => refreshTillSession sessionId
  | some (.integrity .uqTillSessionsOneOpenPerBusiness) =>
      raise ⟨"TILL_ALREADY_OPEN", "A till is already open.", 409, []⟩
  | some fault => .fail fault

def loadTillSessionForUpdate (businessId sessionId : Uuid) : Handler TillSession := do
  let row ← .lock (.tillSession sessionId) fun db =>
    (db.tillSessions.lookup sessionId).filter fun s => s.businessId = businessId
  found (notFoundError "TillSession" (some sessionId)) row

def allocationCash (sessionId : Uuid) (t : Tables) : Cents :=
  ((t.allocations.filter fun a =>
    a.tillSessionId = some sessionId ∧ a.paymentMethod = .cash).map (·.amountCents)).sum

def isSettled (status : PaymentStatus) : Bool :=
  status = .paid || status = .refunded || status = .partiallyRefunded || status = .voided

def isReversed (status : PaymentStatus) : Bool :=
  status = .refunded || status = .partiallyRefunded || status = .voided

def legacyCash (sessionId : Uuid) (t : Tables) : Cents :=
  ((t.orders.filter fun o =>
    o.tillSessionId = some sessionId ∧ o.paymentMethod = some .cash ∧
      isSettled o.paymentStatus ∧ orderAllocations o.id t = []).map (·.totalCents)).sum

def cashRefunds (businessId : Uuid) (openedAt : Instant) (t : Tables) : Cents :=
  ((t.orders.filter fun o =>
    o.businessId = businessId ∧ isReversed o.paymentStatus ∧
      o.refundedAt.any fun refundedAt => openedAt ≤ refundedAt).filterMap (·.refundCashCents)).sum

def markClosed (userId : Uuid) (expected counted : Cents) (now : Instant) (s : TillSession) :
    TillSession :=
  { s with
    status := .closed
    closedByUserId := some userId
    approvedByUserId := some userId
    closedAt := some now
    expectedCashCents := some expected
    countedCashCents := some counted
    varianceCents := some (computeVarianceCents expected counted) }

def setTillSession (sessionId : Uuid) (set : TillSession → TillSession) : Pending := fun t =>
  { t with tillSessions := t.tillSessions.modify sessionId set }

def closeTill (user : AuthUser) (sessionId : Uuid) (body : TillCloseRequest) :
    Handler TillSession := do
  requirePosEnabled user
  requireOwnerOrManager user
  let session ← loadTillSessionForUpdate user.businessId sessionId
  ensure (session.status = .open)
    ⟨"TILL_ALREADY_CLOSED", "This till session has already been closed", 422, []⟩
  let allocated ← .read fun db => allocationCash session.id db.toTables
  let legacy ← .read fun db => legacyCash session.id db.toTables
  let refunds ← .read fun db => cashRefunds user.businessId session.openedAt db.toTables
  let expected := computeExpectedCashCents session.openingFloatCents (allocated + legacy) refunds
  let now ← readNow
  commit (.closeTill sessionId) (Session.stage {} [.tillSession sessionId]
    (setTillSession sessionId (markClosed user.userId expected body.countedCashCents now)))
  refreshTillSession sessionId

section Frames

variable {sites : CommitSite → Prop} {N : Pending → Prop} {user : AuthUser} {sessionId : Uuid}

@[simp]
theorem readOnly_refreshTillSession : (refreshTillSession sessionId).ReadOnly fun _ => True :=
  readOnly_seq readOnly_read fun _ => readOnly_found

theorem openTill_writes {body : TillOpenRequest} (hsite : sites (.openTill sessionId))
    (hinsert : ∀ now, N (insertTillSession (newTillSession user sessionId body now))) :
    Writes sites N (openTill user sessionId body) := by
  refine writes_seq readOnly_requirePosEnabled fun _ => ?_
  refine writes_seq readOnly_requireStaffOrAbove fun _ => ?_
  refine writes_seq readOnly_read fun existing => ?_
  refine writes_seq readOnly_ensure fun _ => ?_
  refine writes_seq readOnly_readNow fun now => ?_
  refine writes_bind (writes_tryCommit hsite (hinsert now)) fun fault => ?_
  split
  · exact writes_readOnly readOnly_refreshTillSession
  · exact writes_fail _
  · exact writes_fail _

theorem closeTill_writes {body : TillCloseRequest} 
    (hsite : sites (.closeTill sessionId))
    (hset : ∀ expected now, N (setTillSession sessionId
      (markClosed user.userId expected body.countedCashCents now))) :
    Writes sites N (closeTill user sessionId body) := by
  refine writes_seq readOnly_requirePosEnabled fun _ => ?_
  refine writes_seq readOnly_requireOwnerOrManager fun _ => ?_
  refine writes_seq (readOnly_seq readOnly_lock fun _ => readOnly_found) fun session => ?_
  refine writes_seq readOnly_ensure fun _ => ?_
  refine writes_seq readOnly_read fun allocated => ?_
  refine writes_seq readOnly_read fun legacy => ?_
  refine writes_seq readOnly_read fun refunds => ?_
  refine writes_seq readOnly_readNow fun now => ?_
  exact writes_bind (writes_commit hsite (Session.extends_stage (hset _ now))) fun _ =>
    writes_readOnly readOnly_refreshTillSession

end Frames

end NextgenBackend.RoutesPos
