import NextgenBackend.Api.RoutesOrders
import NextgenBackend.Inventory.Ledger
import NextgenBackend.Utils.Time

namespace NextgenBackend.Worker

open Txn

open RoutesOrders (assign)

open RoutesPayments (addOrderEvent)

def deliveryFeeTimeoutMinutes : Nat := 45

def defaultPaymentTimeoutMinutes : Nat := 30

-- An order to cancel, as it was loaded, beside its business's inventory flag.
structure CancelledRow where
  order : Order
  inventoryEnabled : Bool
  reason : String
  eventReason : String

def CancelledRow.move (row : CancelledRow) : StatusMove where
  orderId := row.order.id
  before := some row.order.status
  after := .cancelled
  applied := true

def CancelledRow.event (row : CancelledRow) : OrderEvent where
  orderId := row.order.id
  businessId := row.order.businessId
  oldStatus := some row.order.status
  newStatus := .cancelled
  changedByUserId := none
  reason := some row.eventReason

def cancelRows (set : CancelledRow → Order → Order) :
    List CancelledRow → Session → Handler Session
  | [], session => pure session
  | row :: rows, session => do
      let session := session.stage [.order row.order.id] (setOrder row.order.id (set row))
      let session := session.stage [] (addOrderEvent row.event)
      let session ← Inventory.reverseConsumptionOnCancel session row.order.businessId
        row.inventoryEnabled row.order.id row.order.status none
      cancelRows set rows session

def inventoryEnabled (businessId : Uuid) (t : Tables) : Bool :=
  (t.businesses.lookup businessId).any (·.inventoryEnabled)

def staleRows (now : Instant) (t : Tables) : List CancelledRow :=
  (t.orders.filter fun o => o.status = .pendingDeliveryFee ∧
      o.createdAt + deliveryFeeTimeoutMinutes * Time.minute < now).map fun o =>
    { order := o
      inventoryEnabled := inventoryEnabled o.businessId t
      reason := s!"Delivery fee not confirmed within {deliveryFeeTimeoutMinutes} minutes"
      eventReason := "Automated timeout: delivery fee not set by staff" }

def cancelStaleOrder (row : CancelledRow) (o : Order) : Order :=
  { o with
    status := .cancelled
    cancelledReason := assign row.order.cancelledReason (some row.reason) o.cancelledReason }

def cancelStaleDeliveryFeeOrders : Handler Unit := do
  let now ← readNow
  let rows ← .read fun db => staleRows now db.toTables
  if rows = [] then pure () else do
    let session ← cancelRows cancelStaleOrder rows {}
    commit (.cancelStaleDeliveryFeeOrders (rows.map (·.move))) session

def paymentTimeout (businessId : Uuid) (t : Tables) : Nat :=
  match (t.businesses.lookup businessId).map (·.paymentTimeoutMinutes) with
  | none | some 0 => defaultPaymentTimeoutMinutes
  | some minutes => minutes

def awaitsPayment (o : Order) : Bool :=
  o.paymentRequired && (o.paymentStatus = .unpaid || o.paymentStatus = .pending) &&
    o.status ∉ [.cancelled, .collected, .delivered]

def unpaidRow (t : Tables) (o : Order) : CancelledRow where
  order := o
  inventoryEnabled := inventoryEnabled o.businessId t
  reason :=
    let timeout := paymentTimeout o.businessId t
    s!"Payment not received within {timeout} minutes"
  eventReason := "Automated timeout: payment not received"

def unpaidOrders (t : Tables) : List (CancelledRow × Nat) :=
  (t.orders.filter awaitsPayment).map fun o => (unpaidRow t o, paymentTimeout o.businessId t)

def timedOut (now : Instant) (rows : List (CancelledRow × Nat)) : List CancelledRow :=
  (rows.filter fun (row, timeout) => row.order.createdAt + timeout * Time.minute ≤ now).map (·.1)

def cancelUnpaidOrder (row : CancelledRow) (o : Order) : Order :=
  { o with
    status := .cancelled
    paymentStatus := .failed
    cancelledReason := assign row.order.cancelledReason (some row.reason) o.cancelledReason }

def cancelUnpaidOrders : Handler Unit := do
  let all ← .read fun db => unpaidOrders db.toTables
  let now ← readNow
  let rows := timedOut now all
  if rows = [] then pure () else do
    let session ← cancelRows cancelUnpaidOrder rows {}
    commit (.cancelUnpaidOrders (rows.map (·.move))) session

-- A job logs its failure and returns.
def runJob (job : Handler Unit) : Handler Unit := do
  let _ ← job.attempt
  pure ()

section Frames

variable {N : Pending → Prop} {sites : CommitSite → Prop} {session : Session}

theorem cancelRows_stages {set : CancelledRow → Order → Order} {rows : List CancelledRow}
    (hN : Neutral N) (hset : ∀ row ∈ rows, N (setOrder row.order.id (set row)))
    (hevent : ∀ event, N (addOrderEvent event))
    (hmovements : ∀ movements, N (Inventory.appendMovements movements)) :
    (cancelRows set rows session).ReadOnly (session.Extends N) := by
  induction rows generalizing session with
  | nil => exact hN.refl
  | cons row rows ih =>
      have hset' := hset row List.mem_cons_self
      have hstaged : session.Extends N ((session.stage [.order row.order.id]
          (setOrder row.order.id (set row))).stage [] (addOrderEvent row.event)) :=
        hN.trans (Session.extends_stage hset') (Session.extends_stage (hevent _))
      apply conforms_bind
      · exact Inventory.reverseConsumptionOnCancel_stages hN fun _ _ _ _ => hmovements _
      intro session' hs
      have hrest : (cancelRows set rows session').ReadOnly (session'.Extends N) :=
        ih fun row hrow => hset row (List.mem_cons_of_mem _ hrow)
      exact Conforms.mono hrest (fun _ _ _ => id) fun _ h => hN.trans (hN.trans hstaged hs) h

theorem runJob_writes {job : Handler Unit} (h : Writes sites N job) : Writes sites N (runJob job) :=
  writes_bind (writes_attempt h) fun _ => writes_done _

end Frames

end NextgenBackend.Worker
