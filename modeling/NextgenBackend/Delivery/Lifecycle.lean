import NextgenBackend.Delivery.SingleOrder

namespace NextgenBackend.DeliveryLifecycle

open Txn RelyGuarantee Interleaving Delivery SingleOrder

def finalStatuses : List DeliveryOrderStatus := [.cancelled, .denied, .failed]

-- The moves that the system may make with the status of a delivery order.
inductive Transition : DeliveryOrderStatus → DeliveryOrderStatus → Prop
  | process {status : DeliveryOrderStatus} (h : status ∈ bookedStatuses ++ unbookedStatuses) :
      Transition .received status
  | confirm : Transition .needsMapping .received
  | force : Transition .readyToAccept .received
  | deny {status : DeliveryOrderStatus} (h : status ∈ openOrderStatuses) : Transition status .denied
  | withdraw {status : DeliveryOrderStatus} (h : status ∉ finalStatuses) :
      Transition status .cancelled

abbrev Leads : DeliveryOrderStatus → DeliveryOrderStatus → Prop :=
  Relation.ReflTransGen Transition

structure Advances (row row' : DeliveryOrder) : Prop where
  key : deliveryKey row' = deliveryKey row
  status : Leads row.status row'.status
  order : ∀ orderId ∈ row.orderId, row'.orderId = some orderId

-- A delivery order comes in with nothing done about it yet.
structure Origin (row : DeliveryOrder) : Prop where
  received : row.status = .received
  unbooked : row.orderId = none

structure Tracked (db₀ db : Database) : Prop where
  settled : ∀ id row, rowOf id db = some row → isSettled row
  kept : ∀ id row, rowOf id db₀ = some row → ∃ row', rowOf id db = some row' ∧ Advances row row'
  added : ∀ id row', rowOf id db = some row' → rowOf id db₀ = none →
    ∃ row, Origin row ∧ Advances row row'

section Steps

variable {db₀ db db' : Database} {site : CommitSite} {id : Uuid} {row row' row'' : DeliveryOrder}
  {status status' : DeliveryOrderStatus}

theorem Transition.not_final (h : Transition status status') : status ∉ finalStatuses := by
  cases h with
  | process => decide
  | confirm => decide
  | force => decide
  | deny hopen =>
      revert hopen
      cases status <;> decide
  | withdraw hnot => exact hnot

theorem leads_final (h : Leads status status') (hfinal : status ∈ finalStatuses) :
    status' = status := by
  induction h using Relation.ReflTransGen.head_induction_on with
  | refl => rfl
  | head hstep _ _ => exact absurd hfinal hstep.not_final

theorem Advances.refl (row : DeliveryOrder) : Advances row row where
  key := rfl
  status := .refl
  order _ h := h

theorem Advances.trans (h : Advances row row') (h' : Advances row' row'') : Advances row row'' where
  key := h'.key.trans h.key
  status := h.status.trans h'.status
  order orderId ho := h'.order orderId (h.order orderId ho)

theorem moved_leads (h : Moved id row row' site) : Leads row.status row'.status := by
  cases h with
  | kept _ h => rw [h]
  | processed forced status orderId h =>
      have hstatus : status ∈ bookedStatuses ++ unbookedStatuses := by
        have hbooked := h.booked
        rw [List.mem_append]
        split at hbooked
        · exact .inl hbooked
        · exact .inr hbooked
      rw [h.before, h.after]
      exact .single (.process hstatus)
  | withdrawn h =>
      rw [h.after]
      exact .single (.withdraw h.before)
  | accepted forced h =>
      rw [h.before, h.after]
      cases forced with
      | false => exact .single .confirm
      | true => exact .single .force
  | denied h =>
      rw [h.after]
      exact .single (.deny h.before)
  | expired ids hid h =>
      rw [h.after]
      exact .single (.deny h.before)

theorem moved_advances (h : Moved id row row' site) (hkey : deliveryKey row' = deliveryKey row)
    (hsettled : isSettled row) : Advances row row' where
  key := hkey
  status := moved_leads h
  order _ ho := moved_attached h hsettled ho

theorem Tracked.next (h : Tracked db₀ db) (heffect : Effect site db db') : Tracked db₀ db' where
  settled := rows_next h.settled heffect
  kept id row hrow := by
    obtain ⟨row', hrow', hadvances⟩ := h.kept id row hrow
    obtain ⟨row'', hrow'', hkey, hmoves⟩ := heffect.old hrow'
    exact ⟨row'', hrow'', hadvances.trans
      (moved_advances hmoves.moved hkey (h.settled id row' hrow'))⟩
  added id row'' hrow'' hnone := by
    rcases heffect.origin hrow'' with ⟨-, order, -, hnew⟩ | ⟨row', hrow', hkey, hmoved⟩
    · obtain ⟨-, hreceived, hunbooked, -⟩ := hnew
      exact ⟨row'', ⟨hreceived, hunbooked⟩, .refl row''⟩
    · obtain ⟨row, horigin, hadvances⟩ := h.added id row' hrow' hnone
      exact ⟨row, horigin, hadvances.trans
        (moved_advances hmoved hkey (h.settled id row' hrow'))⟩

theorem Tracked.environment (h : Tracked db₀ db) (henv : DeliveryEnvironment db db') :
    Tracked db₀ db' := by
  constructor
  · simpa only [henv.rowOf_eq] using h.settled
  · simpa only [henv.rowOf_eq] using h.kept
  · simpa only [henv.rowOf_eq] using h.added

theorem tracked_start (h : ∀ id row, rowOf id db₀ = some row → isSettled row) :
    Tracked db₀ db₀ where
  settled := h
  kept _ row hrow := ⟨row, hrow, .refl row⟩
  added _ _ hrow hnone := by cases hnone.symm.trans hrow

end Steps

-- What a delivery order may have become after any run, whoever crashed on the way.
structure MovesForward (db₀ db : Database) : Prop where
  kept : ∀ id row, rowOf id db₀ = some row → ∃ row', rowOf id db = some row' ∧ Advances row row'
  final : ∀ id row row', rowOf id db₀ = some row → row.status ∈ finalStatuses →
    rowOf id db = some row' → row'.status = row.status
  added : ∀ id row', rowOf id db = some row' → rowOf id db₀ = none →
    ∃ row, Origin row ∧ Advances row row'

theorem deliveries_move_forward {ι : Type} [DecidableEq ι] {processes : ι → Process}
    {db₀ : Database} {c : DeliverySystem ι}
    (hstart : ∀ id row, rowOf id db₀ = some row → isSettled row)
    (hreach : Reachable DeliveryEnvironment (fun _ _ => True) (launch db₀ processes) c) :
    MovesForward db₀ c.db := by
  have htracked : Tracked db₀ c.db := by
    apply delivery_reachable (I := fun db _ => Tracked db₀ db) (p := fun _ _ _ => True) _ _ _ _ hreach
    · intro i site db db' log _ heffect hI
      exact hI.next heffect
    · intro db db' log henv hI
      exact hI.environment henv
    · intro c i _
      exact meets_of_forall (fun _ _ => trivial) c i
    · exact tracked_start hstart
  constructor
  · exact htracked.kept
  · intro id row row' hrow hfinal hrow'
    obtain ⟨row'', hrow'', hadvances⟩ := htracked.kept id row hrow
    obtain rfl := Option.some.inj (hrow''.symm.trans hrow')
    exact leads_final hadvances.status hfinal
  · exact htracked.added

theorem worked_delivery_moves_forward :
    ∃ c ∈ (launch kitchen announcedTwice).schedule (fun _ _ => True)
        (List.replicate 10 0 ++ List.replicate 18 2),
      (rowOf 10 c.db).any (fun row => row.status = .accepted) = true ∧ MovesForward kitchen c.db := by
  have hrun : ∃ c ∈ (launch kitchen announcedTwice).schedule (fun _ _ => True)
        (List.replicate 10 0 ++ List.replicate 18 2),
      (rowOf 10 c.db).any (fun row => row.status = .accepted) = true := by
    decide +kernel
  obtain ⟨c, hc, haccepted⟩ := hrun
  refine ⟨c, hc, haccepted, deliveries_move_forward (fun id row hrow => ?_) (schedule_reachable hc)⟩
  cases hrow

end NextgenBackend.DeliveryLifecycle
