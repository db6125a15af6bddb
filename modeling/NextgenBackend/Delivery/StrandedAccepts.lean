import NextgenBackend.Delivery.ForcedAccepts

namespace NextgenBackend.StrandedAccepts

open Txn Delivery RoutesDelivery SingleOrder QueuedOrders

variable {db db' : Database} {user : AuthUser} {orderId : Uuid} {request : AcceptOrderRequest}
  {row : DeliveryOrder}

theorem holds_setDeliveryOrder {t : Tables} {id : Uuid} {set : DeliveryOrder → DeliveryOrder}
    (hkey : ∀ d, key (set d) = key d)
    (hexternal : ∀ d, some ((set d).businessId, (set d).provider, (set d).externalOrderId) =
      some (d.businessId, d.provider, d.externalOrderId))
    (horder : ∀ d, (set d).orderId = d.orderId) (h : ∀ c : Constraint, c.Holds t) :
    ∀ c : Constraint, c.Holds (setDeliveryOrder id set t) := by
  intro c
  have hc := h c
  cases c with
  | deliveryOrdersPkey => exact (Table.primaryKey_modify hkey).mpr hc
  | uqDeliveryOrdersBusinessProviderExternalOrderId =>
      simp only [Constraint.Holds, Table.Unique, setDeliveryOrder] at hc ⊢
      rwa [Table.filterMap_modify hexternal]
  | uqDeliveryOrdersOrderId =>
      simp only [Constraint.Holds, Table.Unique, setDeliveryOrder] at hc ⊢
      rwa [Table.filterMap_modify horder]
  | _ => exact hc

-- RECEIVED, with no job in the queue that would take it up.
def isStranded (row : DeliveryOrder) (db : Database) : Prop :=
  row.status = .received ∧ ¬ isQueued (deliveryKey row) db.jobs

instance : Decidable (isStranded row db) :=
  inferInstanceAs (Decidable (_ ∧ _))

structure Restored (orderId : Uuid) (db db' : Database) : Prop where
  row : rowOf orderId db' = rowOf orderId db
  stranded : ∀ id row, rowOf id db' = some row → isStranded row db' →
    rowOf id db = some row ∧ isStranded row db

theorem restored_same : Restored orderId db db :=
  ⟨rfl, fun _ _ hrow hstranded => ⟨hrow, hstranded⟩⟩

-- What takes a request past all its checks, to the commit and the queue.
structure ReachesQueue (user : AuthUser) (orderId : Uuid) (request : AcceptOrderRequest)
    (db : Database) (row : DeliveryOrder) : Prop where
  role : user.role = .staff ∨ user.role = .manager ∨ user.role = .owner
  enabled : (db.businesses.lookup user.businessId).any (·.deliveryPlatformsEnabled) = true
  found : rowOf orderId db = some row
  business : row.businessId = user.businessId
  status : row.status = .needsMapping ∨ row.status = .readyToAccept
  pool : request.hasPool = true

theorem requireDeliveryModuleEnabled_yields {businessId : Uuid} :
    (requireDeliveryModuleEnabled businessId).Yields db fun _ =>
      (db.businesses.lookup businessId).any (·.deliveryPlatformsEnabled) = true := by
  refine yields_seq (S := fun business => db.businesses.lookup businessId = some business) ?_ ?_
  · refine yields_seq (S := fun row => row = db.businesses.lookup businessId) (yields_read rfl) ?_
    rintro _ rfl
    exact yields_orFail fun business h => h
  · intro business hbusiness
    refine yields_seq ensure_ok.yields fun _ henabled => yields_done ?_
    rw [hbusiness]
    exact henabled

theorem requireDeliveryModuleEnabled_ensures {businessId : Uuid} {business : Business}
    {Q : Except Failure Business → Database → Prop}
    (hbusiness : db.businesses.lookup businessId = some business)
    (henabled : business.deliveryPlatformsEnabled = true) (hQ : Q (.ok business) db) :
    (requireDeliveryModuleEnabled businessId).Ensures db Q := by
  refine ensures_bind.mpr (ensures_bind.mpr (ensures_read.mpr ?_))
  rw [hbusiness]
  exact ensures_bind.mpr (ensures_require.mpr ⟨fun _ => hQ, fun h => absurd henabled h⟩)

theorem loadOrderOr404_ensures {businessId : Uuid}
    {Q : Except Failure DeliveryOrder → Database → Prop} (hrow : rowOf row.id db = some row)
    (hbusiness : row.businessId = businessId) (hQ : Q (.ok row) db) :
    (loadOrderOr404 businessId row.id).Ensures db Q := by
  have hfiltered : (db.deliveryOrders.lookup row.id).filter
      (fun row => row.businessId = businessId) = some row := by
    rw [show db.deliveryOrders.lookup row.id = some row from hrow]
    simp [hbusiness]
  refine ensures_bind.mpr (ensures_lock.mpr ?_)
  rw [hfiltered]
  exact hQ

theorem loadOrderOr404_yields {businessId : Uuid} :
    (loadOrderOr404 businessId orderId).Yields db fun row =>
      rowOf orderId db = some row ∧ row.businessId = businessId := by
  refine yields_seq (S := fun row => row = (db.deliveryOrders.lookup orderId).filter
    fun row => row.businessId = businessId) (yields_lock rfl) ?_
  rintro row rfl
  refine yields_orFail fun row hrow => ?_
  obtain ⟨hlookup, hbusiness⟩ := Option.filter_eq_some_iff.mp hrow
  exact ⟨hlookup, of_decide_eq_true hbusiness⟩

def received (row : DeliveryOrder) : DeliveryOrder :=
  { row with status := .received }

theorem tell_ensures {site : CommitSite} {effect : Database → Database}
    {Q : Except Failure Unit → Database → Prop} :
    (tell site effect : Handler Unit).Ensures db Q ↔ Q (.ok ()) (effect db) := Iff.rfl

theorem rowOf_saved (hrow : rowOf row.id db = some row)
    (htables : db'.toTables = (rowSession row.id received).pending db.toTables) :
    rowOf row.id db' = some (received row) := by
  have hlookup : rowOf row.id db' = (rowOf row.id db).map received := by
    unfold rowOf
    rw [htables]
    exact Table.lookup_modify_self fun _ => rfl
  rw [hlookup, hrow]
  rfl

theorem acceptOrder_restores (hqueue : ∀ row, ReachesQueue user orderId request db row →
    request.enqueues = true) :
    (acceptOrder user orderId request).Ensures db fun r db' =>
      (∃ e, r = .error e) → Restored orderId db db' := by
  have herror (e : Failure) : (∃ e', (.error e : Except Failure DeliveryOrder) = .error e') →
      Restored orderId db db := fun _ => restored_same
  refine ensures_seq ensure_ok.yields (fun _ hrole => ?_) herror
  refine ensures_seq requireDeliveryModuleEnabled_yields (fun _ henabled => ?_) herror
  refine ensures_seq loadOrderOr404_yields (fun row hrow => ?_) herror
  refine ensures_seq ensure_ok.yields (fun _ hstatus => ?_) herror
  refine ensures_seq ensure_ok.yields (fun _ hpool => ?_) herror
  have henqueues := hqueue row ⟨hrole, henabled, hrow.1, hrow.2, hstatus, hpool⟩
  refine ensures_bind.mpr (commit_ensures (fun db' htables _ => ?_) herror)
  refine ensures_bind.mpr (ensures_require.mpr ⟨fun _ => ?_, fun h => absurd henqueues h⟩)
  obtain rfl : row.id = orderId := Table.lookup_key hrow.1
  have hkept : rowOf row.id db' = some (received row) := rowOf_saved hrow.1 htables
  refine ensures_bind.mpr (tell_ensures.mpr (ensures_bind.mpr (ensures_read.mpr ?_)))
  refine ensures_orFail.mpr ⟨fun _ _ h => ?_, fun hnone => ?_⟩
  · obtain ⟨e, he⟩ := h
    cases he
  · cases hkept.symm.trans hnone

theorem acceptOrder_strands (hqueue : ReachesQueue user orderId request db row)
    (hfails : request.enqueues = false) :
    (acceptOrder user orderId request).Ensures db fun r db' =>
      r = .error (.app workerUnavailable) ∧ rowOf orderId db' = some (received row) := by
  obtain rfl : row.id = orderId := Table.lookup_key hqueue.found
  obtain ⟨business, hbusiness, henabled⟩ := (Option.any_eq_true _ _).mp hqueue.enabled
  refine ensures_bind.mpr (ensures_require.mpr ⟨fun _ => ?_, fun h => absurd hqueue.role h⟩)
  refine ensures_bind.mpr (requireDeliveryModuleEnabled_ensures hbusiness henabled ?_)
  refine ensures_bind.mpr (loadOrderOr404_ensures hqueue.found hqueue.business ?_)
  refine ensures_bind.mpr (ensures_require.mpr ⟨fun _ => ?_, fun h => absurd hqueue.status h⟩)
  refine ensures_bind.mpr (ensures_require.mpr ⟨fun _ => ?_, fun h => absurd hqueue.pool h⟩)
  have hvalid : ∀ c : Constraint, c.Holds ((rowSession row.id received).pending db.toTables) :=
    holds_setDeliveryOrder (fun _ => rfl) (fun _ => rfl) (fun _ => rfl) db.valid
  refine ensures_bind.mpr (commit_valid hvalid fun db' htables => ?_)
  refine ensures_bind.mpr (ensures_require.mpr ⟨fun h => ?_, fun _ => ⟨rfl, ?_⟩⟩)
  · rw [hfails] at h
    cases h
  · exact rowOf_saved hqueue.found htables

theorem failed_accept_restores_iff :
    (∀ e db', (acceptOrder user orderId request).run db = (.error e, db') →
      Restored orderId db db') ↔
    ¬ ∃ row, ReachesQueue user orderId request db row ∧ request.enqueues = false := by
  constructor
  · rintro hrestores ⟨row, hqueue, hfails⟩
    obtain ⟨herror, hstranded⟩ := acceptOrder_strands hqueue hfails
    have hrestored := hrestores _ _ (Prod.ext herror rfl)
    have hsame := hrestored.row.symm.trans hstranded
    rw [hqueue.found] at hsame
    have hstatus : row.status = .received := congrArg DeliveryOrder.status (Option.some.inj hsame)
    rcases hqueue.status with h | h <;>
    · rw [h] at hstatus
      cases hstatus
  · intro hqueue e db' hrun
    have henqueues (row : DeliveryOrder) (hreaches : ReachesQueue user orderId request db row) :
        request.enqueues = true := by
      by_contra h
      exact hqueue ⟨row, hreaches, by simpa using h⟩
    exact (acceptOrder_restores henqueues).elim hrun ⟨e, rfl⟩

def readyOrder : DeliveryOrder where
  id := 10
  businessId := 1
  provider := "UBER_EATS"
  deliveryConnectionId := none
  externalOrderId := "order-1"
  externalStoreId := "store-1"
  rawEventId := none
  status := .readyToAccept
  acceptDeadlineAt := none

def readyToAccept : Database where
  businesses := [{ id := 1, deliveryPlatformsEnabled := true }]
  deliveryOrders := [readyOrder]
  now := 100
  valid := Tables.violation_eq_none.mp (by decide +kernel)

theorem accept_without_queue_strands :
    ¬ ∀ (db db' : Database) (user : AuthUser) (orderId : Uuid) (request : AcceptOrderRequest)
      (e : Failure), (acceptOrder user orderId request).run db = (.error e, db') →
      Restored orderId db db' := by
  intro h
  have hqueue : ReachesQueue ForcedAccepts.waiter 10 { jobId := 40, enqueues := false }
      readyToAccept readyOrder := by
    constructor <;> decide
  obtain ⟨herror, hstranded⟩ := acceptOrder_strands hqueue rfl
  have hrestored := h readyToAccept _ _ _ _ _ (Prod.ext herror rfl)
  have hsame := hrestored.row.symm.trans hstranded
  have hstatus : some readyOrder.status = some DeliveryOrderStatus.received :=
    congrArg (Option.map DeliveryOrder.status) hsame
  cases hstatus

end NextgenBackend.StrandedAccepts
