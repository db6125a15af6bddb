import NextgenBackend.Payments.ReversalGuard

namespace NextgenBackend.RefundStatus

open Txn RoutesPos RoutesPayments

variable {db db' : Database} {user : AuthUser} {orderId : Uuid} {o o' : Order} {event : Event}
  {steps : List (Event × Database)}

-- No points of a redemption on the order are still to be given back.
def Settled (businessId orderId : Uuid) (t : Tables) : Prop :=
  redemptions businessId orderId t = [] ∨ redemptionReversals businessId orderId t ≠ []

instance {businessId orderId : Uuid} {t : Tables} : Decidable (Settled businessId orderId t) :=
  inferInstanceAs (Decidable (_ ∨ _))

-- The status says whether all was refunded, and the redeemed points go back with a full refund.
structure Consistent (businessId orderId : Uuid) (requested : Option Cents) (declined : Prop)
    (s : Database) (o o' : Order) (s' : Database) : Prop where
  stored : s'.orders.lookup orderId = some o'
  amount : o'.refundAmountCents = some (requested.getD o.totalCents)
  full : o'.paymentStatus = .refunded ↔ requested.getD o.totalCents = o.totalCents
  partly : o'.paymentStatus = .partiallyRefunded ↔ requested.getD o.totalCents < o.totalCents
  points : ∃ rows, s'.loyaltyTransactions = s.loyaltyTransactions ++ rows ∧
    RestoresIf (o'.paymentStatus = .refunded ∧ ¬ declined) businessId orderId s.toTables rows

def RefundLaw (s : Database) (event : Event) (s' : Database) : Prop :=
  match event with
  | .served (.refundPosOrder user orderId body) (.ok (.order o')) =>
      ∀ o, s.orders.lookup orderId = some o →
        Consistent user.businessId orderId body.amountCents (body.restoreLoyaltyPoints = false)
          s o o' s'
  | .served (.refundOrderPayment user orderId body result) (.ok (.order o')) =>
      isRecorded body result = true → ∀ o, s.orders.lookup orderId = some o →
        Consistent user.businessId orderId body.amountCents False s o o' s'
  | .served (.confirmPosOrderProviderRefund _ _) (.ok (.order _)) =>
      s'.orders = s.orders ∧ s'.loyaltyTransactions = s.loyaltyTransactions
  | _ => True

def RefundCondition (s : Database) (event : Event) (_ : Database) : Prop :=
  match event with
  | .served (.refundPosOrder user orderId body) (.ok (.order _)) =>
      ∀ o, s.orders.lookup orderId = some o →
        body.amountCents.getD o.totalCents = o.totalCents → body.restoreLoyaltyPoints = true →
          o.loyaltyRewardId.isSome = true ∨ Settled user.businessId orderId s.toTables
  | .served (.refundOrderPayment user orderId body result) (.ok (.order _)) =>
      isRecorded body result = true → ∀ o, s.orders.lookup orderId = some o →
        (body.confirmManual = true ∨ body.amountCents.getD o.totalCents = o.totalCents) ∧
          (body.amountCents.getD o.totalCents = o.totalCents →
            Settled user.businessId orderId s.toTables)
  | _ => True

theorem restores_nil {businessId : Uuid} {t : Tables} :
    Restores businessId orderId t [] ↔ Settled businessId orderId t := by
  constructor
  · intro h
    cases h with
    | unredeemed h => exact .inl h
    | restored h => exact .inr h
  · rintro (h | h)
    · exact .unredeemed h
    · exact .restored h

theorem ledger_unchanged {p : Prop} {businessId : Uuid}
    (h : db'.loyaltyTransactions = db.loyaltyTransactions) :
    (∃ rows, db'.loyaltyTransactions = db.loyaltyTransactions ++ rows ∧
      RestoresIf p businessId orderId db.toTables rows) ↔
        (p → Settled businessId orderId db.toTables) := by
  constructor
  · rintro ⟨rows, hrows, hrestores⟩ hp
    obtain rfl : rows = [] := List.append_right_eq_self.mp (hrows.symm.trans h)
    exact restores_nil.mp (hrestores.1 hp)
  · intro hsettled
    exact ⟨[], by simp [h], fun hp => restores_nil.mpr (hsettled hp), fun _ => rfl⟩

theorem consistent_iff {businessId : Uuid} {requested : Option Cents} {declined : Prop}
    (hstored : db'.orders.lookup orderId = some o')
    (hamount : o'.refundAmountCents = some (requested.getD o.totalCents))
    (hle : requested.getD o.totalCents ≤ o.totalCents)
    (hstatus : o'.paymentStatus =
      if requested.getD o.totalCents = o.totalCents then .refunded else .partiallyRefunded) :
    Consistent businessId orderId requested declined db o o' db' ↔
      ∃ rows, db'.loyaltyTransactions = db.loyaltyTransactions ++ rows ∧
        RestoresIf (requested.getD o.totalCents = o.totalCents ∧ ¬ declined) businessId orderId
          db.toTables rows := by
  have hfull : o'.paymentStatus = .refunded ↔ requested.getD o.totalCents = o.totalCents := by
    rw [hstatus]
    split <;> simp [*]
  have hpartly : o'.paymentStatus = .partiallyRefunded ↔
      requested.getD o.totalCents < o.totalCents := by
    rw [hstatus, lt_iff_le_and_ne]
    split <;> simp [*]
  constructor
  · intro h
    simpa only [hfull] using h.points
  · intro h
    exact ⟨hstored, hamount, hfull, hpartly, by simpa only [hfull] using h⟩

theorem refundPosOrder_law {body : POSRefundRequest}
    (hrun : Next db (.served (.refundPosOrder user orderId body) (.ok (.order o'))) db') :
    RefundLaw db (.served (.refundPosOrder user orderId body) (.ok (.order o'))) db' ↔
      RefundCondition db (.served (.refundPosOrder user orderId body) (.ok (.order o'))) db' := by
  refine forall₂_congr fun o ho => ?_
  obtain ⟨r, hr, hreply⟩ := reply_run
    (refundPosOrder_reverses fun _ => readOnly_refundCash.yields) hrun
  rcases hr with ⟨e, rfl, -⟩ | ⟨placed, set, restores, ⟨hamount, hrestores, cash, -, rfl⟩,
    hreverses, rfl⟩
  · cases hreply
  obtain rfl : o = placed := Option.some.inj (ho.symm.trans hreverses.order)
  obtain rfl : o' = _ := Reply.order.inj (Except.ok.inj hreply)
  have hstored := hreverses.sets.lookup (fun _ => rfl) ho
  rw [consistent_iff hstored rfl hamount (by simp [markRefunded])]
  obtain ⟨rows, hledger, hrows, -⟩ := hreverses.ledger
  by_cases hgiven : restores
  · obtain ⟨hfull, hkept, hreward⟩ := hrestores.mp hgiven
    have hall : body.amountCents.getD o.totalCents = o.totalCents ∧
        ¬ body.restoreLoyaltyPoints = false := ⟨hfull, by simp [hkept]⟩
    exact iff_of_true ⟨rows, hrows, fun _ => hledger.1 hgiven, fun hnot => absurd hall hnot⟩
      fun _ _ => .inl hreward
  · obtain rfl := hledger.2 hgiven
    rw [ledger_unchanged (by simpa using hrows)]
    have hunrewarded (hfull : body.amountCents.getD o.totalCents = o.totalCents)
        (hkept : body.restoreLoyaltyPoints = true) : ¬ o.loyaltyRewardId.isSome = true :=
      fun hreward => hgiven (hrestores.mpr ⟨hfull, hkept, hreward⟩)
    constructor
    · intro h hfull hkept
      exact .inr (h ⟨hfull, by simp [hkept]⟩)
    · rintro h ⟨hfull, hkept⟩
      have hkept : body.restoreLoyaltyPoints = true := by simpa using hkept
      exact (h hfull hkept).resolve_left (hunrewarded hfull hkept)

def Ledgerless (f : Pending) : Prop :=
  ∀ t, (f t).loyaltyTransactions = t.loyaltyTransactions

theorem ledgerless_neutral : Neutral Ledgerless where
  id _ := rfl
  comp _ _ hf hg t := (hg _).trans (hf t)

theorem ledger_of_writes {α : Type} {sites : CommitSite → Prop} {x : Handler α}
    (h : Writes sites Ledgerless x) (db : Database) :
    (x.run db).2.loyaltyTransactions = db.loyaltyTransactions :=
  writes_run (T := fun t t' => t'.loyaltyTransactions = t.loyaltyTransactions) (fun _ => rfl)
    (fun _ _ _ hab hbc => hbc.trans hab) h db

theorem refundOrderPayment_law {body : RoutesOrders.RefundRequest}
    {result : RoutesOrders.RefundResult}
    (hrun : Next db (.served (.refundOrderPayment user orderId body result) (.ok (.order o'))) db') :
    RefundLaw db (.served (.refundOrderPayment user orderId body result) (.ok (.order o'))) db' ↔
      RefundCondition db (.served (.refundOrderPayment user orderId body result)
        (.ok (.order o'))) db' := by
  refine forall_congr' fun hrecorded => forall₂_congr fun o ho => ?_
  have hwrites : Writes (fun _ => True) Ledgerless
      (reply .order (RoutesOrders.refundOrderPayment user orderId body result)) :=
    reply_writes (RoutesOrders.refundOrderPayment_writes ledgerless_neutral trivial
      (fun _ _ _ _ _ => rfl) fun _ _ => rfl)
  have hledger : db'.loyaltyTransactions = db.loyaltyTransactions := by
    have hsame := ledger_of_writes hwrites db
    rwa [show (reply .order (RoutesOrders.refundOrderPayment user orderId body result)).run db =
      (.ok (.order o'), db') from hrun] at hsame
  obtain ⟨r, hr, hreply⟩ := reply_run refundOrderPayment_records hrun
  rcases hr with ⟨hunrecorded, -⟩ | ⟨e, rfl, -⟩ | ⟨placed, set, hplaced, hdone, hset, rfl⟩
  · rw [hrecorded] at hunrecorded
    cases hunrecorded
  · cases hreply
  obtain ⟨reference, rfl⟩ := hdone.sets
  obtain rfl : o = placed := Option.some.inj (ho.symm.trans hplaced)
  obtain rfl : o' = _ := Reply.order.inj (Except.ok.inj hreply)
  have hstored := hset.lookup (fun _ => rfl) ho
  by_cases hlooked : body.confirmManual = true ∨ body.amountCents.getD o.totalCents = o.totalCents
  · have hstatus : dashboardStatus body o =
        if body.amountCents.getD o.totalCents = o.totalCents then .refunded
        else .partiallyRefunded := by
      unfold dashboardStatus
      rcases hlooked with h | h <;> simp [h]
    rw [consistent_iff hstored rfl hdone.amount hstatus, ledger_unchanged hledger]
    simp [hlooked]
  · obtain ⟨hmanual, hpart⟩ := not_or.mp hlooked
    refine iff_of_false (fun h => hpart (h.full.mp ?_)) fun h => hlooked h.1
    simp [RoutesOrders.recordRefund, dashboardStatus, hmanual]

theorem confirmation_law
    (hrun : Next db (.served (.confirmPosOrderProviderRefund user orderId) (.ok (.order o'))) db') :
    db'.orders = db.orders ∧ db'.loyaltyTransactions = db.loyaltyTransactions := by
  have hbeside : Writes (fun _ => True) Aside
      (reply .order (confirmPosOrderProviderRefund user orderId)) :=
    reply_writes (confirmPosOrderProviderRefund_writes trivial fun _ _ =>
      aside_confirmProviderRefund)
  have hledgerless : Writes (fun _ => True) Ledgerless
      (reply .order (confirmPosOrderProviderRefund user orderId)) :=
    reply_writes (confirmPosOrderProviderRefund_writes trivial fun _ _ _ => rfl)
  have horders := (beside_of_writes hbeside db).orders
  have hledger := ledger_of_writes hledgerless db
  rw [show (reply .order (confirmPosOrderProviderRefund user orderId)).run db =
    (.ok (.order o'), db') from hrun] at horders hledger
  exact ⟨horders, hledger⟩

theorem refund_law_iff (hnext : Next db event db') :
    RefundLaw db event db' ↔ RefundCondition db event db' := by
  unfold RefundLaw RefundCondition
  split
  · exact refundPosOrder_law hnext
  · exact refundOrderPayment_law hnext
  · exact iff_of_true (confirmation_law hnext) trivial
  next hpos hdashboard hconfirm =>
    refine iff_of_true trivial ?_
    split
    next => exact (hpos _ _ _ _ rfl).elim
    next => exact (hdashboard _ _ _ _ _ rfl).elim
    next => trivial

theorem refund_statuses_follow_amounts_iff (hrun : Run.Along Next db steps) :
    Run.Along RefundLaw db steps ↔ Run.Along RefundCondition db steps := by
  constructor
  · intro h
    exact (hrun.and h).mono fun _ _ _ hstep => (refund_law_iff hstep.1).mp hstep.2
  · intro h
    exact (hrun.and h).mono fun _ _ _ hstep => (refund_law_iff hstep.1).mpr hstep.2

open ReversalGuard (cardSale manager)

def onlineSale : Database where
  businesses := [{ id := 1, paymentProvider := some "YOCO" }]
  orders := [cardSale]
  now := 50
  valid := Tables.violation_eq_none.mp (by decide +kernel)

def throughProvider (amountCents : Option Cents) (h : ∀ amount ∈ amountCents, 1 ≤ amount) :
    RoutesOrders.RefundRequest where
  amountCents := amountCents
  reason := none
  confirmManual := false
  reference := none
  note := none
  amountPositive := h
  referenceRequired := by simp

def completed : RoutesOrders.RefundResult where
  success := true
  status := .completed
  providerReference := some "rf_1"
  error := none

def refunding (amountCents : Option Cents) (h : ∀ amount ∈ amountCents, 1 ≤ amount) :
    List Request :=
  [.refundOrderPayment manager 4 (throughProvider amountCents h) completed]

theorem whole_sale_refunded :
    Run.Along RefundLaw onlineSale (played onlineSale (refunding none (by simp))) ↔
      Run.Along RefundCondition onlineSale (played onlineSale (refunding none (by simp))) :=
  refund_statuses_follow_amounts_iff along_played

-- The provider returns 400 of 1000 cents.
theorem part_recorded_as_refunded :
    ¬ ∀ (db : Database) (steps : List (Event × Database)), Run.Along Next db steps →
      Run.Along RefundLaw db steps := by
  intro h
  have hrun : Run.Along Next onlineSale
      (played onlineSale (refunding (some 400) (by simp))) := along_played
  have hlaw := (h onlineSale _ hrun).1
  have hcondition := (refund_law_iff hrun.1).mp hlaw rfl cardSale rfl
  revert hcondition
  decide

end NextgenBackend.RefundStatus
