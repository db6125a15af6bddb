import NextgenBackend.Delivery.SingleOrder

namespace NextgenBackend.QueuedOrders

open Txn RelyGuarantee Interleaving Delivery SingleOrder

-- Committed by an intake, and not taken up by a job yet.
def isUnprocessed (row : DeliveryOrder) : Prop :=
  row.status = .received ∧ row.fetchedOrderSnapshot = none

instance (row : DeliveryOrder) : Decidable (isUnprocessed row) :=
  inferInstanceAs (Decidable (_ ∧ _))

def isQueued (order : DeliveryKey) (jobs : List QueuedJob) : Prop :=
  ∃ queued ∈ jobs, jobKey queued.job = order

instance (order : DeliveryKey) (jobs : List QueuedJob) : Decidable (isQueued order jobs) :=
  inferInstanceAs (Decidable (∃ queued ∈ jobs, _))

def NoOrderStranded (db : Database) : Prop :=
  ∀ id row, rowOf id db = some row → isUnprocessed row → isQueued (deliveryKey row) db.jobs

-- The job outlives the commit that creates its row, and ends only when the row is taken up.
def Meets : CommitSite → Database → Prop
  | .ingestWebhook (some order), db =>
      deliveryOrderOf order db.toTables = none → isQueued order db.jobs
  | .finishJob jobId, db => ∀ queued ∈ db.jobs, queued.id = jobId →
      ∀ row ∈ deliveryOrderOf (jobKey queued.job) db.toTables, isUnprocessed row →
        isQueued (jobKey queued.job) (db.jobs.filter fun other => other.id ≠ jobId)
  | _, _ => True

instance (site : CommitSite) (db : Database) : Decidable (Meets site db) := by
  apply CommitSite.casesOn (motive := fun site => Decidable (Meets site db)) site
  case ingestWebhook =>
    intro order
    apply Option.casesOn (motive := fun order => Decidable (Meets (.ingestWebhook order) db)) order
    all_goals
      intros
      unfold Meets
      infer_instance
  all_goals
    intros
    unfold Meets
    infer_instance

structure Waiting (db : Database) : Prop where
  fetched : ∀ id row, rowOf id db = some row → row.status ∈ fetchedStatuses →
    row.fetchedOrderSnapshot.isSome
  queued : NoOrderStranded db

section Steps

variable {db db' : Database} {site : CommitSite} {id : Uuid} {row row' : DeliveryOrder}
  {order : DeliveryKey}

theorem moved_fetched (h : Moved id row row' site)
    (hfetched : row.status ∈ fetchedStatuses → row.fetchedOrderSnapshot.isSome)
    (hstatus : row'.status ∈ fetchedStatuses) : row'.fetchedOrderSnapshot.isSome := by
  cases h with
  | kept _ h =>
      subst h
      exact hfetched hstatus
  | processed forced status booked h => exact h.snapshot (h.after ▸ hstatus)
  | withdrawn h => simp [h.after, fetchedStatuses] at hstatus
  | accepted forced h => simp [h.after, fetchedStatuses] at hstatus
  | denied h => simp [h.after, fetchedStatuses] at hstatus
  | expired ids hid h => simp [h.after, fetchedStatuses] at hstatus

theorem moved_unprocessed (h : Moved id row row' site)
    (hfetched : row.status ∈ fetchedStatuses → row.fetchedOrderSnapshot.isSome)
    (hnew : isUnprocessed row') : isUnprocessed row := by
  obtain ⟨hreceived, hnone⟩ := hnew
  cases h with
  | kept _ h =>
      subst h
      exact ⟨hreceived, hnone⟩
  | processed forced status booked h =>
      exact ⟨h.before, h.unfetched (h.after ▸ hreceived) ▸ hnone⟩
  | withdrawn h =>
      rw [h.after] at hreceived
      cases hreceived
  | accepted forced h =>
      have hbefore : row.status ∈ fetchedStatuses := by
        rw [h.before]
        cases forced <;> decide
      have hsome := hfetched hbefore
      rw [← h.snapshot, hnone] at hsome
      cases hsome
  | denied h =>
      rw [h.after] at hreceived
      cases hreceived
  | expired ids hid h =>
      rw [h.after] at hreceived
      cases hreceived

theorem deliveryOrderOf_eq (hrow : rowOf id db = some row) :
    deliveryOrderOf (deliveryKey row) db.toTables = some row := by
  cases hfound : deliveryOrderOf (deliveryKey row) db.toTables with
  | none =>
      have hnone := List.find?_eq_none.mp hfound row (mem_rowOf hrow).1
      simp at hnone
  | some found =>
      have hkey : deliveryKey found = deliveryKey row := by simpa using List.find?_some hfound
      have hlookup : rowOf found.id db = some found :=
        Table.lookup_of_mem (db.valid .deliveryOrdersPkey) (List.mem_of_find?_eq_some hfound)
      have hid : found.id = id := row_eq hlookup hrow hkey
      rw [hid, hrow] at hlookup
      exact hlookup.symm

theorem new_row_unknown (heffect : Effect site db db') (hnone : rowOf id db = none)
    (hrow' : rowOf id db' = some row') : deliveryOrderOf (deliveryKey row') db.toTables = none := by
  cases hfound : deliveryOrderOf (deliveryKey row') db.toTables with
  | none => rfl
  | some found =>
      have hkey : deliveryKey found = deliveryKey row' := by simpa using List.find?_some hfound
      have hlookup : rowOf found.id db = some found :=
        Table.lookup_of_mem (db.valid .deliveryOrdersPkey) (List.mem_of_find?_eq_some hfound)
      obtain ⟨kept, hkept, hsame, -⟩ := heffect.old hlookup
      have hid : found.id = id := row_eq hkept hrow' (hsame.trans hkey)
      rw [hid, hnone] at hlookup
      cases hlookup

theorem isQueued_next (hmeets : Meets site db) (hrow : rowOf id db = some row)
    (hunprocessed : isUnprocessed row) (hqueued : isQueued (deliveryKey row) db.jobs) :
    isQueued (deliveryKey row) (nextJobs site db.jobs) := by
  obtain ⟨queued, hmem, hkey⟩ := hqueued
  rcases nextJobs_keeps site hmem with hkept | rfl
  · exact ⟨queued, hkept, hkey⟩
  · have hfound : deliveryOrderOf (jobKey queued.job) db.toTables = some row := by
      rw [hkey]
      exact deliveryOrderOf_eq hrow
    rw [← hkey]
    exact hmeets queued hmem rfl row hfound hunprocessed

theorem Waiting.next (h : Waiting db) (hmeets : Meets site db) (heffect : Effect site db db') :
    Waiting db' := by
  constructor
  · intro id row' hrow' hstatus
    rcases heffect.origin hrow' with ⟨-, order, -, hnew⟩ | ⟨row, hrow, -, hmoved⟩
    · obtain ⟨-, hreceived, -⟩ := hnew
      simp [hreceived, fetchedStatuses] at hstatus
    · exact moved_fetched hmoved (h.fetched id row hrow) hstatus
  · intro id row' hrow' hunprocessed
    rw [heffect.jobs]
    rcases heffect.origin hrow' with ⟨hrow, order, rfl, hkey, -⟩ | ⟨row, hrow, hkey, hmoved⟩
    · subst hkey
      exact hmeets (new_row_unknown heffect hrow hrow')
    · have hbefore : isUnprocessed row :=
        moved_unprocessed hmoved (h.fetched id row hrow) hunprocessed
      rw [hkey]
      exact isQueued_next hmeets hrow hbefore (h.queued id row hrow hbefore)

theorem Waiting.environment (h : Waiting db) (henv : DeliveryEnvironment db db') :
    Waiting db' := by
  constructor
  · simpa only [henv.rowOf_eq] using h.fetched
  · intro id row hrow hunprocessed
    rw [henv.rowOf_eq] at hrow
    rw [henv.jobs]
    exact h.queued id row hrow hunprocessed

end Steps

end NextgenBackend.QueuedOrders

namespace NextgenBackend.ForcedAccepts

open Txn RelyGuarantee Interleaving Delivery SingleOrder QueuedOrders

-- How far a forced accept of a row has come: saved, and its job enqueued.
inductive Stage where
  | idle
  | confirmed
  | queued
deriving DecidableEq, Repr

def isTerminal (forced : Bool) (status : DeliveryOrderStatus) (orderId : Option Uuid) : Prop :=
  (forced = true ∧ status ≠ .received) ∨ orderId.isSome ∨ status = .denied

instance (forced : Bool) (status : DeliveryOrderStatus) (orderId : Option Uuid) :
    Decidable (isTerminal forced status orderId) :=
  inferInstanceAs (Decidable (_ ∨ _ ∨ _))

-- An execution that forces the accept ends it, as does one that settles the row another way.
def Stage.next (id : Uuid) (stage : Stage) : CommitSite → Stage
  | .acceptDeliveryOrder id' true =>
      if id' = id ∧ stage = .idle then .confirmed else stage
  | .enqueueAcceptedOrder id' true _ =>
      if id' = id ∧ stage = .confirmed then .queued else stage
  | .processDeliveryOrder id' forced status orderId =>
      if id' = id ∧ isTerminal forced status orderId then .idle else stage
  | .processDeliveryCancellation id' => if id' = id then .idle else stage
  | .denyDeliveryOrder id' => if id' = id then .idle else stage
  | .deliveryAcceptDeadlineWatchdog ids => if id ∈ ids then .idle else stage
  | _ => stage

def stage {ι : Type} (id : Uuid) (log : List (ι × CommitSite)) : Stage :=
  log.foldl (fun stage entry => stage.next id entry.2) .idle

def isForcedQueued (order : DeliveryKey) (jobs : List QueuedJob) : Prop :=
  ∃ queued ∈ jobs, isForced queued.job = true ∧ jobKey queued.job = order

instance (order : DeliveryKey) (jobs : List QueuedJob) : Decidable (isForcedQueued order jobs) :=
  inferInstanceAs (Decidable (∃ queued ∈ jobs, _))

def Meets {ι : Type} (log : List (ι × CommitSite)) : CommitSite → Database → Prop
  | .enqueueAcceptedOrder id true _, db =>
      stage id log = .confirmed → ∀ row ∈ rowOf id db, row.status = .received
  | .processDeliveryOrder id false status none, _ =>
      stage id log = .queued → status ∉ fetchedStatuses
  | .finishJob jobId, db => ∀ queued ∈ db.jobs, queued.id = jobId → isForced queued.job = true →
      ∀ row ∈ deliveryOrderOf (jobKey queued.job) db.toTables, stage row.id log = .queued →
        isForcedQueued (jobKey queued.job) (db.jobs.filter fun other => other.id ≠ jobId)
  | _, _ => True

instance {ι : Type} (log : List (ι × CommitSite)) (site : CommitSite) (db : Database) :
    Decidable (Meets log site db) := by
  apply CommitSite.casesOn (motive := fun site => Decidable (Meets log site db)) site
  case enqueueAcceptedOrder =>
    intro id forced job
    apply Bool.casesOn
      (motive := fun forced => Decidable (Meets log (.enqueueAcceptedOrder id forced job) db)) forced
    all_goals
      unfold Meets
      infer_instance
  case processDeliveryOrder =>
    intro id settled status job
    apply Bool.casesOn (motive := fun settled =>
      Decidable (Meets log (.processDeliveryOrder id settled status job) db)) settled
    all_goals
      apply Option.casesOn (motive := fun job =>
        Decidable (Meets log (.processDeliveryOrder id _ status job) db)) job
      all_goals
        intros
        unfold Meets
        infer_instance
  all_goals
    intros
    unfold Meets
    infer_instance

section Steps

variable {ι : Type} {db db' : Database} {log : List (ι × CommitSite)} {i : ι} {site : CommitSite}
  {id : Uuid} {row row' : DeliveryOrder}

end Steps

def waiter : AuthUser where
  userId := 8
  businessId := 1
  role := .staff

end NextgenBackend.ForcedAccepts
