import NextgenBackend.Pos.RefundShares

namespace NextgenBackend.ProviderRefunds

open Txn RoutesPos

variable {db db' : Database} {user : AuthUser} {orderId : Uuid} {o : Order} {reply : Reply}

-- The link payments of the order whose refund waits for the provider.
def awaiting (orderId : Uuid) (t : Tables) : List POSPaymentAllocation :=
  (orderAllocations orderId t).filter fun a =>
    a.paymentMethod = .payByLink ∧ a.providerRefundStatus = some .pendingManual

def nothingAwaiting : AppError :=
  ⟨"NO_PENDING_PROVIDER_REFUND",
    "This order has no Pay-by-Link refund awaiting provider confirmation", 422, []⟩

theorem awaiting_confirmed {userId : Uuid} {now : Instant} {t : Tables} :
    awaiting orderId (confirmProviderRefund ((awaiting orderId t).map (·.id)) userId now t) =
      [] := by
  refine List.filter_eq_nil_iff.mpr fun a ha hwaits => ?_
  obtain ⟨hmem, horder⟩ := List.mem_filter.mp ha
  obtain ⟨hlink, hpending⟩ := of_decide_eq_true hwaits
  obtain ⟨b, hb, rfl⟩ := List.mem_map.mp hmem
  split at hpending
  next => cases hpending
  next hother =>
    rw [if_neg hother] at horder hlink
    refine hother (List.mem_map_of_mem (List.mem_filter.mpr ⟨List.mem_filter.mpr ⟨hb, horder⟩, ?_⟩))
    exact decide_eq_true ⟨hlink, hpending⟩

-- What lets a user confirm, apart from something to confirm.
structure MayConfirm (user : AuthUser) (o : Order) (db : Database) : Prop where
  pos : (db.businesses.lookup user.businessId).any (·.posEnabled) = true
  role : user.role = .owner ∨ user.role = .manager
  order : db.orders.lookup o.id = some o
  business : o.businessId = user.businessId

def Confirms (user : AuthUser) (orderId : Uuid) (db : Database) (r : Except Failure Order)
    (db' : Database) : Prop :=
  (∃ e, r = .error e) ∨ ∃ o, o.id = orderId ∧ MayConfirm user o db ∧ r = .ok o ∧
    db'.toTables = confirmProviderRefund ((awaiting orderId db.toTables).map (·.id)) user.userId
      db.now db.toTables

theorem requirePosEnabled_yields : (requirePosEnabled user).Yields db fun _ =>
    (db.businesses.lookup user.businessId).any (·.posEnabled) = true := by
  refine yields_seq (S := fun posEnabled => posEnabled =
    (db.businesses.lookup user.businessId).any (·.posEnabled)) (yields_read rfl) ?_
  rintro posEnabled rfl
  exact ensure_ok.yields

theorem confirmPosOrderProviderRefund_confirms :
    (confirmPosOrderProviderRefund user orderId).Ensures db (Confirms user orderId db) := by
  have herror (db' : Database) (e : Failure) : Confirms user orderId db (.error e) db' :=
    .inl ⟨e, rfl⟩
  refine ensures_seq requirePosEnabled_yields (fun _ hpos => ?_) (herror db)
  refine ensures_seq ensure_ok.yields (fun _ hrole => ?_) (herror db)
  refine ensures_seq loadOrderForUpdate_yields (fun o ho => ?_) (herror db)
  obtain ⟨hlookup, hbusiness⟩ := ho
  obtain rfl : o.id = orderId := Table.lookup_key hlookup
  refine ensures_seq (R := fun pendingRefunds => pendingRefunds = awaiting o.id db.toTables)
    (yields_read rfl) ?_ (herror db)
  rintro pendingRefunds rfl
  refine ensures_seq ensure_ok.yields (fun _ _ => ?_) (herror db)
  refine ensures_seq (R := fun now => now = db.now) (yields_read rfl) ?_ (herror db)
  rintro now rfl
  refine ensures_bind.mpr (commit_ensures (fun db' htables _ => ?_) (herror db))
  have horders : db'.orders = db.orders := by
    rw [htables]
    rfl
  refine refreshOrder_ensures (horders ▸ hlookup) ?_
  exact .inr ⟨o, rfl, ⟨hpos, hrole, hlookup, hbusiness⟩, rfl, htables⟩

theorem loadOrderForUpdate_ensures {Q : Except Failure Order → Database → Prop}
    (hlookup : db.orders.lookup o.id = some o) (hbusiness : o.businessId = user.businessId)
    (hQ : Q (.ok o) db) : (loadOrderForUpdate user.businessId o.id).Ensures db Q := by
  have hrow : (db.orders.lookup o.id).filter (fun o => o.businessId = user.businessId) =
      some o := by
    simp [hlookup, hbusiness]
  refine ensures_bind.mpr (ensures_lock.mpr ?_)
  rw [hrow]
  exact hQ

theorem confirmPosOrderProviderRefund_refuses (hmay : MayConfirm user o db)
    (hnone : awaiting o.id db.toTables = []) :
    (confirmPosOrderProviderRefund user o.id).Ensures db fun r db' =>
      r = .error (.app nothingAwaiting) ∧ db' = db := by
  refine ensures_bind.mpr (ensures_bind.mpr (ensures_read.mpr ?_))
  refine ReversalGuard.ensure_ensures hmay.pos ?_
  refine ensures_bind.mpr (ReversalGuard.ensure_ensures hmay.role ?_)
  refine ensures_bind.mpr (loadOrderForUpdate_ensures hmay.order hmay.business ?_)
  refine ensures_bind.mpr (ensures_read.mpr ?_)
  refine ensures_bind.mpr (ensures_require.mpr ⟨fun hsome => ?_, fun _ => ⟨rfl, rfl⟩⟩)
  exact absurd hnone hsome

section Repeats

variable {event : Event} {request : Request}

theorem confirm_settles (h : Next db (.served (.confirmPosOrderProviderRefund user orderId)
    (.ok reply)) db') :
    ∃ o, reply = .order o ∧ o.id = orderId ∧ MayConfirm user o db' ∧
      awaiting orderId db'.toTables = [] := by
  obtain ⟨r, hconfirms, hr⟩ := reply_run confirmPosOrderProviderRefund_confirms h
  rcases hconfirms with ⟨e, rfl⟩ | ⟨o, hid, hmay, rfl, htables⟩
  · cases hr
  refine ⟨o, Except.ok.inj hr, hid, ⟨?_, hmay.role, ?_, hmay.business⟩, ?_⟩
  · rw [htables]
    exact hmay.pos
  · rw [htables]
    exact hmay.order
  · rw [htables]
    exact awaiting_confirmed

-- Pressed again and again, the button is refused, and nothing is recorded.
theorem confirmed_again_refused (h : Next db (.served (.confirmPosOrderProviderRefund user orderId)
    (.ok reply)) db') (n : Nat) :
    played db' (List.replicate n (.confirmPosOrderProviderRefund user orderId)) =
      List.replicate n (.served (.confirmPosOrderProviderRefund user orderId)
        (.error (.app nothingAwaiting)), db') := by
  obtain ⟨o, -, rfl, hmay, hnone⟩ := confirm_settles h
  have hrun : (handle (.confirmPosOrderProviderRefund user o.id)).run db' =
      (.error (.app nothingAwaiting), db') := by
    obtain ⟨hr, hdb⟩ := confirmPosOrderProviderRefund_refuses hmay hnone
    have hrefused : (confirmPosOrderProviderRefund user o.id).run db' =
        (.error (.app nothingAwaiting), db') := Prod.ext hr hdb
    exact (run_bind _ _ _).trans (by rw [hrefused])
  induction n with
  | zero => rfl
  | succ n ih =>
      rw [List.replicate_succ, List.replicate_succ, played, hrun]
      exact congrArg _ ih

-- What a repeated confirmation is to answer and to leave alone.
structure RepeatsQuietly (db : Database) (reply : Reply) (step : Event × Database) : Prop where
  answer : ∃ request, step.1 = .served request (.ok reply)
  orders : step.2.orders = db.orders
  points : step.2.loyaltyTransactions = db.loyaltyTransactions
  movements : step.2.stockMovements = db.stockMovements

def Idempotent (user : AuthUser) (orderId : Uuid) (db : Database) (reply : Reply) : Prop :=
  ∀ n, ∀ step ∈ played db (List.replicate n (.confirmPosOrderProviderRefund user orderId)),
    RepeatsQuietly db reply step

theorem confirmation_not_idempotent
    (h : Next db (.served (.confirmPosOrderProviderRefund user orderId) (.ok reply)) db') :
    ¬ Idempotent user orderId db' reply := by
  intro hidempotent
  have hrepeats := hidempotent 1
  rw [confirmed_again_refused h] at hrepeats
  obtain ⟨request, hrequest⟩ := (hrepeats _ (List.mem_singleton_self _)).answer
  cases hrequest

end Repeats

def refundedSupper : Order :=
  { RefundShares.supper with paymentStatus := .refunded, refundAmountCents := some 10000 }

def refundedLink : POSPaymentAllocation :=
  { RefundShares.took 0 .payByLink 10000 none with providerRefundStatus := some .pendingManual }

def refundedByLink : Database where
  businesses := [{ id := 1 }]
  tillSessions := [SplitPayments.morningTill]
  orders := [refundedSupper]
  allocations := [refundedLink]
  now := 10
  valid := Tables.violation_eq_none.mp (by decide +kernel)

def confirmation : Request := .confirmPosOrderProviderRefund RefundShares.manager 4

def confirmed : Database := ((handle confirmation).run refundedByLink).2

theorem supper_confirmed :
    Next refundedByLink (.served confirmation (.ok (.order refundedSupper))) confirmed := by
  have hreply : ((handle confirmation).run refundedByLink).1.toOption =
      some (.order refundedSupper) := by decide +kernel
  refine Prod.ext ?_ rfl
  cases hr : ((handle confirmation).run refundedByLink).1 with
  | error e =>
      rw [hr] at hreply
      cases hreply
  | ok reply =>
      rw [hr] at hreply
      exact congrArg Except.ok (Option.some.inj hreply)

theorem supper_not_idempotent :
    ¬ Idempotent RefundShares.manager 4 confirmed (.order refundedSupper) :=
  confirmation_not_idempotent supper_confirmed

theorem second_confirmation_refused :
    ¬ ∀ (db db' : Database) (user : AuthUser) (orderId : Uuid) (reply : Reply),
      Next db (.served (.confirmPosOrderProviderRefund user orderId) (.ok reply)) db' →
      Idempotent user orderId db' reply := by
  intro h
  have hrepeats := h refundedByLink confirmed _ _ _ supper_confirmed 1
  rw [confirmed_again_refused supper_confirmed] at hrepeats
  obtain ⟨request, hrequest⟩ := (hrepeats _ (List.mem_singleton_self _)).answer
  cases hrequest

end NextgenBackend.ProviderRefunds
