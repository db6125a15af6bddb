import NextgenBackend.Core.Rbac
import NextgenBackend.Delivery.OrderService

namespace NextgenBackend.RoutesDelivery

open Txn Delivery

def requireDeliveryModuleEnabled (businessId : Uuid) : Handler Business := do
  let business ← loadBusiness businessId
  ensure business.deliveryPlatformsEnabled ⟨"DELIVERY_NOT_ENABLED",
    "The delivery marketplace module is not enabled for this business.", 409, []⟩
  pure business

def loadOrderOr404 (businessId orderId : Uuid) : Handler DeliveryOrder := do
  let row ← .lock (.deliveryOrder orderId) fun db =>
    (db.deliveryOrders.lookup orderId).filter fun row => row.businessId = businessId
  found (notFoundError "Delivery order" (some orderId)) row

def refreshRow (orderId : Uuid) : Handler DeliveryOrder := do
  let row ← .read fun db => db.deliveryOrders.lookup orderId
  found (notFoundError "Delivery order" (some orderId)) row

def workerUnavailable : AppError :=
  ⟨"DELIVERY_WORKER_UNAVAILABLE",
    "Could not queue this order for processing right now — please try again shortly.", 503, []⟩

structure AcceptOrderRequest where
  hasPool : Bool := true
  enqueues : Bool := true
  jobId : Uuid

def acceptOrder (user : AuthUser) (orderId : Uuid) (request : AcceptOrderRequest) :
    Handler DeliveryOrder := do
  requireStaffOrAbove user
  let _ ← requireDeliveryModuleEnabled user.businessId
  let row ← loadOrderOr404 user.businessId orderId
  ensure (row.status = .needsMapping ∨ row.status = .readyToAccept)
    ⟨"DELIVERY_ORDER_NOT_ACCEPTABLE",
      "This order is " ++ row.status.value ++
        ", not NEEDS_MAPPING or READY_TO_ACCEPT — nothing to manually accept.", 409, []⟩
  ensure request.hasPool workerUnavailable
  let forceAccept : Bool := row.status = .readyToAccept
  commit (.acceptDeliveryOrder row.id forceAccept)
    (rowSession row.id fun row => { row with status := .received })
  ensure request.enqueues workerUnavailable
  let job : QueuedJob := ⟨request.jobId,
    .processDeliveryOrder row.provider row.businessId row.externalOrderId none forceAccept⟩
  .tell (.enqueueAcceptedOrder row.id forceAccept job) (enqueue job)
  refreshRow row.id

structure DenyOrderRequest where
  reasonCode : String
  notes : Option String := none

def denyOrder (user : AuthUser) (orderId : Uuid) (adapter : DeliveryProviderAdapter)
    (body : DenyOrderRequest) : Handler DeliveryOrder := do
  requireStaffOrAbove user
  let _ ← requireDeliveryModuleEnabled user.businessId
  let row ← loadOrderOr404 user.businessId orderId
  ensure (row.status ∈ openOrderStatuses) ⟨"DELIVERY_ORDER_NOT_DENIABLE",
    "This order is " ++ row.status.value ++ " — it is no longer open to deny.", 409, []⟩
  let connection ← .read fun db => row.deliveryConnectionId.bind db.deliveryConnections.lookup
  let deny ← issueDeny adapter row connection body.reasonCode
    ((body.notes.filter (· ≠ "")).getD "Denied by staff via the NextGen dashboard.")
  commit (.denyDeliveryOrder row.id) (rowSession row.id deny)
  refreshRow row.id

end NextgenBackend.RoutesDelivery

namespace NextgenBackend.Delivery

open Txn RelyGuarantee Interleaving

inductive DeliveryRequest where
  | webhook (settings : DeliverySettings) (webhook : DeliveryWebhook)
  | work (execution : Execution) (jobId : Uuid) (retries : Bool)
  | acceptOrder (user : AuthUser) (orderId : Uuid) (request : RoutesDelivery.AcceptOrderRequest)
  | denyOrder (user : AuthUser) (orderId : Uuid) (adapter : DeliveryProviderAdapter)
      (body : RoutesDelivery.DenyOrderRequest)
  | watchdog (settings : DeliverySettings) (rows : List Uuid)

inductive DeliveryReply where
  | gate (result : WebhookGateResult)
  | row (row : DeliveryOrder)
  | done

def answer {α : Type} (wrap : α → DeliveryReply) (handler : Handler α) : Handler DeliveryReply :=
  handler.bind fun a => .done (wrap a)

def handleDelivery : DeliveryRequest → Handler DeliveryReply
  | .webhook settings webhook => answer .gate (ingestDeliveryWebhook settings webhook)
  | .work execution jobId retries => answer (fun _ => .done) (work execution jobId retries)
  | .acceptOrder user orderId request =>
      answer .row (RoutesDelivery.acceptOrder user orderId request)
  | .denyOrder user orderId adapter body =>
      answer .row (RoutesDelivery.denyOrder user orderId adapter body)
  | .watchdog settings rows =>
      answer (fun _ => .done) (deliveryAcceptDeadlineWatchdog settings rows)

-- A process, and after how many of its steps it dies, if it does.
structure Process where
  request : DeliveryRequest
  crash : Option Nat := none

def Process.program (process : Process) : Handler DeliveryReply :=
  process.crash.elim (handleDelivery process.request) fun n =>
    (handleDelivery process.request).crashAfter .unhandled n

abbrev DeliverySystem (ι : Type) := Config ι Database RowKey CommitSite Failure DeliveryReply

def launch {ι : Type} (db : Database) (processes : ι → Process) : DeliverySystem ι :=
  start db fun i => (processes i).program

def isReversed (m : StockMovement) (t : Tables) : Prop :=
  ∃ reversal ∈ t.stockMovements, reversal.businessId = m.businessId ∧
    reversal.movementType = .saleReversal ∧ reversal.ingredientId = m.ingredientId ∧
      reversal.sourceId = m.sourceId ∧ reversal.quantityMilli = -m.quantityMilli

def isSaleOf (orderId : Uuid) (m : StockMovement) : Prop :=
  m.movementType = .saleConsumption ∧ m.sourceId = some orderId

-- The order is cancelled and what it consumed is back on stock.
def isUnwound (orderId : Uuid) (t : Tables) : Prop :=
  (∃ o, t.orders.lookup orderId = some o ∧ o.status = .cancelled) ∧
    ∀ m ∈ t.stockMovements, isSaleOf orderId m → isReversed m t

-- A sale is posted under its order and ingredient, so that it cannot be posted twice.
def isKeyed (m : StockMovement) : Prop :=
  ∀ orderId, isSaleOf orderId m → m.idempotencyKey = some (.sale orderId m.ingredientId)

-- Whatever else runs leaves the delivery orders and the queue alone, posts sales under their keys,
-- and revives no order that is cancelled and reversed.
structure DeliveryEnvironment (db db' : Database) : Prop where
  clock : db.now ≤ db'.now
  deliveryOrders : db'.deliveryOrders = db.deliveryOrders
  jobs : db'.jobs = db.jobs
  sales : (∀ m ∈ db.stockMovements, isKeyed m) → ∀ m ∈ db'.stockMovements, isKeyed m
  unwound : ∀ orderId, isUnwound orderId db.toTables → isUnwound orderId db'.toTables

def isForced : DeliveryJob → Bool
  | .processDeliveryOrder _ _ _ _ forceAccept => forceAccept
  | .processDeliveryCancellation _ _ _ => false

end NextgenBackend.Delivery

namespace NextgenBackend.Delivery

open Txn RelyGuarantee Interleaving Inventory

def rowOf (id : Uuid) (db : Database) : Option DeliveryOrder :=
  db.deliveryOrders.lookup id

def Persists (db db' : Database) : Prop :=
  ∀ id row, rowOf id db = some row →
    ∃ row', rowOf id db' = some row' ∧ deliveryKey row' = deliveryKey row

def Unchanged (ids : Set Uuid) (db db' : Database) : Prop :=
  ∀ id row, id ∈ ids → rowOf id db = some row → rowOf id db' = some row

def lockedIds (L : Set RowKey) : Set Uuid :=
  {id | .deliveryOrder id ∈ L}

-- A row is rewritten under its lock only, and its key never.
def discipline : Discipline Database RowKey CommitSite where
  inv _ := True
  rely L db db' := Persists db db' ∧ Unchanged (lockedIds L) db db'
  guar L db db' := Persists db db' ∧ Unchanged (lockedIds L)ᶜ db db'
  admits _ _ := True
  rely_refl _ _ := ⟨fun _ row h => ⟨row, h, rfl⟩, fun _ _ _ h => h⟩
  rely_trans _ _ _ _ := by
    rintro ⟨hpersists, hsame⟩ ⟨hpersists', hsame'⟩
    refine ⟨fun id row h => ?_, fun id row hid h => hsame' id row hid (hsame id row hid h)⟩
    obtain ⟨row', hrow', hkey⟩ := hpersists id row h
    obtain ⟨row'', hrow'', hkey'⟩ := hpersists' id row' hrow'
    exact ⟨row'', hrow'', hkey'.trans hkey⟩
  rely_anti _ _ _ _ hsub h := ⟨h.1, fun id row hid => h.2 id row (hsub hid)⟩
  guar_inv _ _ _ _ _ := trivial
  guar_rely _ _ _ _ hdisjoint _ h :=
    ⟨h.1, fun id row hid => h.2 id row fun hmem => Set.disjoint_left.mp hdisjoint hmem hid⟩

-- What a transaction that leaves the orders and the stock alone may change.
structure Apart (db db' : Database) : Prop where
  orders : db'.orders = db.orders
  stockMovements : db'.stockMovements = db.stockMovements
  jobs : db'.jobs = db.jobs

structure Rewrites (id : Uuid) (p : DeliveryOrder → DeliveryOrder → Prop) (db db' : Database) :
    Prop where
  row : ∃ row row', rowOf id db = some row ∧ rowOf id db' = some row' ∧
    deliveryKey row' = deliveryKey row ∧ p row row'
  others : ∀ id', id' ≠ id → rowOf id' db' = rowOf id' db

structure Books (orderId : Uuid) (db db' : Database) : Prop where
  orders : ∃ order, order.id = orderId ∧ db'.orders = db.orders.insert order
  stockMovements : ∃ movements, db'.stockMovements = db.stockMovements ++ movements ∧
    ∀ m ∈ movements, m.sourceId = some orderId ∧
      m.idempotencyKey = some (.sale orderId m.ingredientId)
  jobs : db'.jobs = db.jobs

structure Cancels (db db' : Database) : Prop where
  orders : ∀ id o, db.orders.lookup id = some o → o.status = .cancelled →
    ∃ o', db'.orders.lookup id = some o' ∧ o'.status = .cancelled
  stockMovements : db'.stockMovements = db.stockMovements
  jobs : db'.jobs = db.jobs

def bookedStatuses : List DeliveryOrderStatus := [.fetching, .accepted]

def unbookedStatuses : List DeliveryOrderStatus :=
  [.received, .denied, .needsMapping, .readyToAccept]

def fetchedStatuses : List DeliveryOrderStatus := [.needsMapping, .readyToAccept]

-- How a job leaves the row that it found RECEIVED.
structure Processes (status : DeliveryOrderStatus) (orderId : Option Uuid)
    (row row' : DeliveryOrder) : Prop where
  before : row.status = .received
  after : row'.status = status
  order : row'.orderId = orderId.or row.orderId
  booked : if orderId.isSome then status ∈ bookedStatuses else status ∈ unbookedStatuses
  snapshot : status ∈ fetchedStatuses → row'.fetchedOrderSnapshot.isSome
  unfetched : status = .received → row'.fetchedOrderSnapshot = row.fetchedOrderSnapshot

structure Accepts (forced : Bool) (row row' : DeliveryOrder) : Prop where
  before : row.status = if forced then .readyToAccept else .needsMapping
  after : row'.status = .received
  order : row'.orderId = row.orderId
  snapshot : row'.fetchedOrderSnapshot = row.fetchedOrderSnapshot

structure Denies (row row' : DeliveryOrder) : Prop where
  before : row.status ∈ openOrderStatuses
  after : row'.status = .denied
  order : row'.orderId = row.orderId

structure Withdraws (row row' : DeliveryOrder) : Prop where
  before : row.status ∉ [DeliveryOrderStatus.cancelled, .denied, .failed]
  after : row'.status = .cancelled
  order : row'.orderId = row.orderId

def isNew (order : Option DeliveryKey) (row : DeliveryOrder) : Prop :=
  order = some (deliveryKey row) ∧ row.status = .received ∧ row.orderId = none ∧
    row.fetchedOrderSnapshot = none

structure Receives (order : Option DeliveryKey) (db db' : Database) : Prop where
  kept : ∀ id row, rowOf id db = some row → rowOf id db' = some row
  added : ∀ id row, rowOf id db' = some row → rowOf id db = some row ∨ isNew order row

structure Expires (ids : List Uuid) (db db' : Database) : Prop where
  claimed : ∀ id ∈ ids, ∃ row row', rowOf id db = some row ∧ rowOf id db' = some row' ∧
    deliveryKey row' = deliveryKey row ∧ Denies row row'
  others : ∀ id, id ∉ ids → rowOf id db' = rowOf id db

-- What each commit of the delivery system does.
def Effect : CommitSite → Database → Database → Prop
  | .ingestWebhook order, db, db' => Receives order db db' ∧ Apart db db'
  | .enqueueJob job, db, db' => db' = enqueue job db
  | .enqueueAcceptedOrder id forced job, db, db' => db' = enqueue job db ∧
      isForced job.job = forced ∧ ∃ row, rowOf id db = some row ∧ jobKey job.job = deliveryKey row
  | .finishJob jobId, db, db' => db' = dequeue jobId db
  | .processDeliveryOrder id _ status none, db, db' =>
      Rewrites id (Processes status none) db db' ∧ Apart db db'
  | .processDeliveryOrder id _ status (some orderId), db, db' =>
      Rewrites id (Processes status (some orderId)) db db' ∧ Books orderId db db'
  | .processDeliveryCancellation id, db, db' => Rewrites id Withdraws db db' ∧ Cancels db db'
  | .acceptDeliveryOrder id forced, db, db' => Rewrites id (Accepts forced) db db' ∧ Apart db db'
  | .denyDeliveryOrder id, db, db' => Rewrites id Denies db db' ∧ Apart db db'
  | .deliveryAcceptDeadlineWatchdog ids, db, db' => Expires ids db db' ∧ Apart db db'
  | _, _, _ => False

-- What a commit makes of the row with this id.
def Moves (id : Uuid) (row row' : DeliveryOrder) : CommitSite → Prop
  | .processDeliveryOrder id' _ status orderId =>
      if id' = id then Processes status orderId row row' else row' = row
  | .processDeliveryCancellation id' => if id' = id then Withdraws row row' else row' = row
  | .acceptDeliveryOrder id' forced => if id' = id then Accepts forced row row' else row' = row
  | .denyDeliveryOrder id' => if id' = id then Denies row row' else row' = row
  | .deliveryAcceptDeadlineWatchdog ids => if id ∈ ids then Denies row row' else row' = row
  | _ => row' = row

-- A commit that creates an order: the delivery order it is for, and its id.
def booking : CommitSite → Option (Uuid × Uuid)
  | .processDeliveryOrder id _ _ (some orderId) => some (id, orderId)
  | _ => none

def nextJobs : CommitSite → List QueuedJob → List QueuedJob
  | .enqueueJob job, jobs => jobs ++ [job]
  | .enqueueAcceptedOrder _ _ job, jobs => jobs ++ [job]
  | .finishJob jobId, jobs => jobs.filter fun queued => queued.id ≠ jobId
  | _, jobs => jobs

section Effects

variable {db db' : Database} {site : CommitSite} {id id' : Uuid} {row row' : DeliveryOrder}
  {p : DeliveryOrder → DeliveryOrder → Prop}

inductive Moved (id : Uuid) (row row' : DeliveryOrder) : CommitSite → Prop
  | kept (site : CommitSite) (h : row' = row) : Moved id row row' site
  | processed (forced : Bool) (status : DeliveryOrderStatus) (orderId : Option Uuid)
      (h : Processes status orderId row row') :
      Moved id row row' (.processDeliveryOrder id forced status orderId)
  | withdrawn (h : Withdraws row row') : Moved id row row' (.processDeliveryCancellation id)
  | accepted (forced : Bool) (h : Accepts forced row row') :
      Moved id row row' (.acceptDeliveryOrder id forced)
  | denied (h : Denies row row') : Moved id row row' (.denyDeliveryOrder id)
  | expired (ids : List Uuid) (hid : id ∈ ids) (h : Denies row row') :
      Moved id row row' (.deliveryAcceptDeadlineWatchdog ids)

theorem Moves.moved (h : Moves id row row' site) : Moved id row row' site := by
  cases site with
  | processDeliveryOrder id' forced status orderId =>
      by_cases hid : id' = id
      · subst hid
        exact .processed forced status orderId ((if_pos rfl).mp h)
      · exact .kept _ ((if_neg hid).mp h)
  | processDeliveryCancellation id' =>
      by_cases hid : id' = id
      · subst hid
        exact .withdrawn ((if_pos rfl).mp h)
      · exact .kept _ ((if_neg hid).mp h)
  | acceptDeliveryOrder id' forced =>
      by_cases hid : id' = id
      · subst hid
        exact .accepted forced ((if_pos rfl).mp h)
      · exact .kept _ ((if_neg hid).mp h)
  | denyDeliveryOrder id' =>
      by_cases hid : id' = id
      · subst hid
        exact .denied ((if_pos rfl).mp h)
      · exact .kept _ ((if_neg hid).mp h)
  | deliveryAcceptDeadlineWatchdog ids =>
      by_cases hid : id ∈ ids
      · exact .expired ids hid ((if_pos hid).mp h)
      · exact .kept _ ((if_neg hid).mp h)
  | _ => exact .kept _ h

theorem Rewrites.old (h : Rewrites id' p db db') (hrow : rowOf id db = some row) :
    ∃ row', rowOf id db' = some row' ∧ deliveryKey row' = deliveryKey row ∧
      if id' = id then p row row' else row' = row := by
  by_cases hid : id' = id
  · subst hid
    obtain ⟨row₁, row', hrow₁, hrow', hkey, hp⟩ := h.row
    obtain rfl : row₁ = row := Option.some.inj (hrow₁.symm.trans hrow)
    exact ⟨row', hrow', hkey, (if_pos rfl).mpr hp⟩
  · exact ⟨row, (h.others id (Ne.symm hid)).trans hrow, rfl, (if_neg hid).mpr rfl⟩

theorem Rewrites.new (h : Rewrites id' p db db') (hnone : rowOf id db = none) :
    rowOf id db' = none := by
  have hid : id ≠ id' := by
    rintro rfl
    obtain ⟨row₁, -, hrow₁, -⟩ := h.row
    cases hnone.symm.trans hrow₁
  exact (h.others id hid).trans hnone

theorem Expires.old {ids : List Uuid} (h : Expires ids db db') (hrow : rowOf id db = some row) :
    ∃ row', rowOf id db' = some row' ∧ deliveryKey row' = deliveryKey row ∧
      if id ∈ ids then Denies row row' else row' = row := by
  by_cases hid : id ∈ ids
  · obtain ⟨row₁, row', hrow₁, hrow', hkey, hdenies⟩ := h.claimed id hid
    obtain rfl : row₁ = row := Option.some.inj (hrow₁.symm.trans hrow)
    exact ⟨row', hrow', hkey, (if_pos hid).mpr hdenies⟩
  · exact ⟨row, (h.others id hid).trans hrow, rfl, (if_neg hid).mpr rfl⟩

theorem Expires.new {ids : List Uuid} (h : Expires ids db db') (hnone : rowOf id db = none) :
    rowOf id db' = none := by
  have hid : id ∉ ids := by
    intro hid
    obtain ⟨row₁, -, hrow₁, -⟩ := h.claimed id hid
    cases hnone.symm.trans hrow₁
  exact (h.others id hid).trans hnone

theorem Effect.old (h : Effect site db db') (hrow : rowOf id db = some row) :
    ∃ row', rowOf id db' = some row' ∧ deliveryKey row' = deliveryKey row ∧
      Moves id row row' site := by
  cases site with
  | ingestWebhook order => exact ⟨row, h.1.kept id row hrow, rfl, rfl⟩
  | enqueueJob job => exact ⟨row, h ▸ hrow, rfl, rfl⟩
  | enqueueAcceptedOrder id' forced job => exact ⟨row, h.1 ▸ hrow, rfl, rfl⟩
  | finishJob jobId => exact ⟨row, h ▸ hrow, rfl, rfl⟩
  | processDeliveryOrder id' forced status orderId =>
      cases orderId with
      | none => exact h.1.old hrow
      | some orderId => exact h.1.old hrow
  | processDeliveryCancellation id' => exact h.1.old hrow
  | acceptDeliveryOrder id' forced => exact h.1.old hrow
  | denyDeliveryOrder id' => exact h.1.old hrow
  | deliveryAcceptDeadlineWatchdog ids => exact h.1.old hrow
  | _ => exact h.elim

theorem Effect.new (h : Effect site db db') (hnone : rowOf id db = none)
    (hrow' : rowOf id db' = some row') : ∃ order, site = .ingestWebhook order ∧ isNew order row' := by
  have hgone (hnone' : rowOf id db' = none) :
      ∃ order, site = .ingestWebhook order ∧ isNew order row' := by
    cases hnone'.symm.trans hrow'
  cases site with
  | ingestWebhook order =>
      rcases h.1.added id row' hrow' with hrow | hnew
      · cases hnone.symm.trans hrow
      · exact ⟨order, rfl, hnew⟩
  | enqueueJob job => exact hgone (h ▸ hnone)
  | enqueueAcceptedOrder id' forced job => exact hgone (h.1 ▸ hnone)
  | finishJob jobId => exact hgone (h ▸ hnone)
  | processDeliveryOrder id' forced status orderId =>
      cases orderId with
      | none => exact hgone (h.1.new hnone)
      | some orderId => exact hgone (h.1.new hnone)
  | processDeliveryCancellation id' => exact hgone (h.1.new hnone)
  | acceptDeliveryOrder id' forced => exact hgone (h.1.new hnone)
  | denyDeliveryOrder id' => exact hgone (h.1.new hnone)
  | deliveryAcceptDeadlineWatchdog ids => exact hgone (h.1.new hnone)
  | _ => exact h.elim

theorem Effect.origin (h : Effect site db db') (hrow' : rowOf id db' = some row') :
    (rowOf id db = none ∧ ∃ order, site = .ingestWebhook order ∧ isNew order row') ∨
      ∃ row, rowOf id db = some row ∧ deliveryKey row' = deliveryKey row ∧
        Moved id row row' site := by
  cases hrow : rowOf id db with
  | none => exact .inl ⟨rfl, h.new hrow hrow'⟩
  | some row =>
      obtain ⟨after, hafter, hkey, hmoves⟩ := h.old hrow
      obtain rfl := Option.some.inj (hafter.symm.trans hrow')
      exact .inr ⟨row, rfl, hkey, hmoves.moved⟩

-- A job that is queued stays queued until a worker is done with it.
theorem nextJobs_keeps (site : CommitSite) {queued : QueuedJob} {jobs : List QueuedJob}
    (hmem : queued ∈ jobs) :
    queued ∈ nextJobs site jobs ∨ site = .finishJob queued.id := by
  cases site with
  | enqueueJob job => exact .inl (List.mem_append_left _ hmem)
  | enqueueAcceptedOrder id forced job => exact .inl (List.mem_append_left _ hmem)
  | finishJob jobId =>
      by_cases hid : queued.id = jobId
      · exact .inr (congrArg _ hid.symm)
      · exact .inl (List.mem_filter.mpr ⟨hmem, by simpa using hid⟩)
  | _ => exact .inl hmem

theorem Effect.jobs (h : Effect site db db') : db'.jobs = nextJobs site db.jobs := by
  cases site with
  | ingestWebhook order => exact h.2.jobs
  | enqueueJob job => exact congrArg Database.jobs h
  | enqueueAcceptedOrder id' forced job => exact congrArg Database.jobs h.1
  | finishJob jobId => exact congrArg Database.jobs h
  | processDeliveryOrder id' forced status orderId =>
      cases orderId with
      | none => exact h.2.jobs
      | some orderId => exact h.2.jobs
  | processDeliveryCancellation id' => exact h.2.jobs
  | acceptDeliveryOrder id' forced => exact h.2.jobs
  | denyDeliveryOrder id' => exact h.2.jobs
  | deliveryAcceptDeadlineWatchdog ids => exact h.2.jobs
  | _ => exact h.elim

theorem Effect.sold (h : Effect site db db') :
    ∃ movements, db'.stockMovements = db.stockMovements ++ movements ∧
      ∀ m ∈ movements, ∃ b, booking site = some b ∧ m.sourceId = some b.2 ∧
        m.idempotencyKey = some (.sale b.2 m.ingredientId) := by
  have hsame (hmovements : db'.stockMovements = db.stockMovements) :
      ∃ movements, db'.stockMovements = db.stockMovements ++ movements ∧
        ∀ m ∈ movements, ∃ b, booking site = some b ∧ m.sourceId = some b.2 ∧
          m.idempotencyKey = some (.sale b.2 m.ingredientId) :=
    ⟨[], by simpa using hmovements, by simp⟩
  cases site with
  | ingestWebhook order => exact hsame h.2.stockMovements
  | enqueueJob job => exact hsame (congrArg (·.stockMovements) h)
  | enqueueAcceptedOrder id' forced job => exact hsame (congrArg (·.stockMovements) h.1)
  | finishJob jobId => exact hsame (congrArg (·.stockMovements) h)
  | processDeliveryOrder id' forced status orderId =>
      cases orderId with
      | none => exact hsame h.2.stockMovements
      | some orderId =>
          obtain ⟨movements, happend, hall⟩ := h.2.stockMovements
          exact ⟨movements, happend, fun m hm => ⟨_, rfl, hall m hm⟩⟩
  | processDeliveryCancellation id' => exact hsame h.2.stockMovements
  | acceptDeliveryOrder id' forced => exact hsame h.2.stockMovements
  | denyDeliveryOrder id' => exact hsame h.2.stockMovements
  | deliveryAcceptDeadlineWatchdog ids => exact hsame h.2.stockMovements
  | _ => exact h.elim

end Effects

abbrev Follows {α : Type} (L : Set RowKey) (db : Database) (x : Handler α) : Prop :=
  Traces discipline Effect L db x fun _ _ _ => True

-- The row is locked, and this is what the lock read.
structure Locked (L : Set RowKey) (row : DeliveryOrder) (db : Database) : Prop where
  lock : .deliveryOrder row.id ∈ L
  row : rowOf row.id db = some row

structure KeepsKey (set : DeliveryOrder → DeliveryOrder) : Prop where
  id : ∀ row, (set row).id = row.id
  key : ∀ row, deliveryKey (set row) = deliveryKey row

section Rows

variable {α : Type} {L L' : Set RowKey} {db db' : Database} {row : DeliveryOrder} {session : Session}
  {site : CommitSite} {set : DeliveryOrder → DeliveryOrder} {p : DeliveryOrder → DeliveryOrder → Prop}

theorem Locked.next (h : Locked L row db) (hsub : L ⊆ L') (hrely : discipline.rely L db db') :
    Locked L' row db' :=
  ⟨hsub h.lock, hrely.2 _ _ h.lock h.row⟩

theorem rowOf_modify_self (hset : KeepsKey set) (hrow : rowOf row.id db = some row)
    (hrows : db'.deliveryOrders = db.deliveryOrders.modify row.id set) :
    rowOf row.id db' = some (set row) := by
  unfold rowOf at hrow ⊢
  rw [hrows, Table.lookup_modify_self hset.id, hrow]
  rfl

theorem rowOf_modify_ne {id : Uuid} (hset : KeepsKey set) (hne : id ≠ row.id)
    (hrows : db'.deliveryOrders = db.deliveryOrders.modify row.id set) :
    rowOf id db' = rowOf id db := by
  unfold rowOf
  rw [hrows, Table.lookup_modify_ne hset.id hne]

theorem rewrites_modify (hset : KeepsKey set) (hrow : rowOf row.id db = some row)
    (hrows : db'.deliveryOrders = db.deliveryOrders.modify row.id set) (hp : p row (set row)) :
    Rewrites row.id p db db' where
  row := ⟨row, set row, hrow, rowOf_modify_self hset hrow hrows, hset.key row, hp⟩
  others _ hne := rowOf_modify_ne hset hne hrows

theorem Rewrites.guar {id : Uuid} (h : Rewrites id p db db') (hlock : .deliveryOrder id ∈ L) :
    discipline.guar L db db' := by
  obtain ⟨row, row', hrow, hrow', hkey, -⟩ := h.row
  constructor
  · intro id' other hother
    by_cases hid : id' = id
    · subst hid
      rw [hrow] at hother
      obtain rfl := Option.some.inj hother
      exact ⟨row', hrow', hkey⟩
    · exact ⟨other, (h.others id' hid).trans hother, rfl⟩
  · intro id' other hnot hother
    have hid : id' ≠ id := by
      rintro rfl
      exact hnot hlock
    exact (h.others id' hid).trans hother

theorem save_traces (hlock : Locked L row db) (hset : KeepsKey set)
    (hrows : ∀ t, (session.pending t).deliveryOrders = t.deliveryOrders.modify row.id set)
    (hp : p row (set row))
    (heffect : ∀ db' db'', Rewrites row.id p db' db'' →
      db''.toTables = session.pending db'.toTables → db''.jobs = db'.jobs → Effect site db' db'') :
    Traces discipline Effect L db (commit site session) fun _ _ db' =>
      ∃ row', rowOf row.id db' = some row' ∧ deliveryKey row' = deliveryKey row := by
  refine traces_save.mpr fun db' _ hrely _ => ?_
  have hrow := (hlock.next subset_rfl hrely).row
  constructor
  · intro db'' hwrite
    obtain ⟨htables, -⟩ := Database.write_ok hwrite
    have hrows' : db''.deliveryOrders = db'.deliveryOrders.modify row.id set := by
      rw [htables]
      exact hrows _
    have hrewrites : Rewrites row.id p db' db'' := rewrites_modify hset hrow hrows' hp
    exact ⟨⟨hrewrites.guar (.inl hlock.lock),
      heffect _ _ hrewrites htables (Database.write_jobs hwrite)⟩,
      ⟨set row, rowOf_modify_self hset hrow hrows', hset.key row⟩⟩
  · intro _ _
    exact ⟨row, hrow, rfl⟩

theorem follows_save (hlock : Locked L row db) (hset : KeepsKey set)
    (hrows : ∀ t, (session.pending t).deliveryOrders = t.deliveryOrders.modify row.id set)
    (hp : p row (set row))
    (heffect : ∀ db' db'', Rewrites row.id p db' db'' →
      db''.toTables = session.pending db'.toTables → db''.jobs = db'.jobs → Effect site db' db'') :
    Follows L db (commit site session) :=
  (save_traces hlock hset hrows hp heffect).mono fun _ _ _ _ => trivial

theorem apart_of_pending (htables : db'.toTables = session.pending db.toTables)
    (hjobs : db'.jobs = db.jobs) (horders : (session.pending db.toTables).orders = db.orders)
    (hmovements : (session.pending db.toTables).stockMovements = db.stockMovements) :
    Apart db db' := by
  constructor
  · rw [htables, horders]
  · rw [htables, hmovements]
  · exact hjobs

theorem follows_seq {β : Type} {x : Handler β} {f : β → Handler α} {R : β → Prop}
    (hx : x.ReadOnly R)
    (hf : ∀ b L' db', R b → L ⊆ L' → discipline.rely L db db' → Follows L' db' (f b)) :
    Follows L db (x.bind f) :=
  traces_seq hx hf fun _ _ _ _ _ => trivial

theorem follows_bind {β : Type} {x : Handler β} {f : β → Handler α} (hx : Follows L db x)
    (hf : ∀ b L' db', Follows L' db' (f b)) : Follows L db (x.bind f) := by
  apply traces_bind.mpr
  apply Traces.mono hx
  intro r L' db' _
  cases r with
  | ok b => exact hf b L' db'
  | error e => trivial

theorem follows_attempt {x : Handler α} (hx : Follows L db x) : Follows L db x.attempt :=
  traces_attempt.mpr hx

theorem follows_rollback : Follows L db rollback := by
  intro db' _ _ _
  refine ⟨fun db'' hwrite => ?_, fun _ _ => trivial⟩
  cases hwrite

theorem follows_tell {effect : Database → Database}
    (hrows : ∀ db, (effect db).deliveryOrders = db.deliveryOrders)
    (heffect : ∀ db', discipline.rely L db db' → Effect site db' (effect db')) :
    Follows L db (.tell site effect) := by
  refine traces_tell.mpr fun db' _ hrely _ => ⟨⟨?_, heffect db' hrely⟩, trivial⟩
  have hsame (id : Uuid) : rowOf id (effect db') = rowOf id db' := by
    unfold rowOf
    rw [hrows]
  exact ⟨fun id row hrow => ⟨row, (hsame id).trans hrow, rfl⟩,
    fun id row _ hrow => (hsame id).trans hrow⟩

@[simp]
theorem readOnly_flush : (flush session).ReadOnly fun _ => True := by
  intro db
  dsimp only
  split <;> trivial

theorem loadLockedRow_traces {order : DeliveryKey} {f : Option DeliveryOrder → Handler α}
    (hnone : ∀ L' db', Follows L' db' (f none))
    (hsome : ∀ row L' db', Locked L' row db' → deliveryKey row = order →
      Follows L' db' (f (some row))) : Follows L db ((loadLockedRow order).bind f) := by
  intro db' _ _
  dsimp only
  cases deliveryOrderOf order db'.toTables with
  | none => exact hnone L db'
  | some row =>
      intro db'' _ _
      dsimp only [Txn.bind]
      cases hread : (db''.deliveryOrders.lookup row.id).filter fun row => deliveryKey row = order with
      | none => exact hnone _ db''
      | some found =>
          obtain ⟨hlookup, hkey⟩ := Option.filter_eq_some_iff.mp hread
          have hid : found.id = row.id := Table.lookup_key hlookup
          refine hsome found _ db'' ⟨?_, ?_⟩ (of_decide_eq_true hkey)
          · rw [hid]
            exact Set.mem_insert _ _
          · rw [hid]
            exact hlookup

end Rows

end NextgenBackend.Delivery
