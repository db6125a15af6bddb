import Mathlib
import NextgenBackend.Pos.SplitPayments
import NextgenBackend.Shared.Vat

namespace NextgenBackend.RefundShares

open Txn RoutesPos

variable {db db' : Database} {t t' : Tables} {user : AuthUser} {orderId : Uuid}
  {body : POSRefundRequest} {o o' : Order} {cash : Cents}

def refundAmount (body : POSRefundRequest) (o : Order) : Cents :=
  body.amountCents.getD o.totalCents

-- Both kinds of money are in the split, and only a part of it is refunded.
def Mixed (body : POSRefundRequest) (o : Order) (t : Tables) : Prop :=
  refundAmount body o ≠ o.totalCents ∧ o.paymentMethod = some .split ∧
    0 < cashAllocated o.id t ∧ 0 < nonCashAllocated o.id t

instance : Decidable (Mixed body o t) := by
  unfold Mixed
  infer_instance

def refundShare (body : POSRefundRequest) (o : Order) (t : Tables) : Option Cents :=
  if Mixed body o t then
    body.cashRefundCents.filter fun requested =>
      requested ≤ refundAmount body o ∧ requested ≤ cashAllocated o.id t
  else some (cashPortion o t (refundAmount body o))

theorem refundCash_share (o : Order) :
    (refundCash body o (refundAmount body o)).Yields db fun cash =>
      refundShare body o db.toTables = some cash := by
  unfold refundCash
  split
  next hallocated =>
    refine yields_seq (S := fun allocated => allocated =
      (cashAllocated o.id db.toTables, nonCashAllocated o.id db.toTables)) (yields_read rfl) ?_
    rintro _ rfl
    dsimp only
    unfold partialSplitCash
    split
    next hboth =>
      have hmixed : Mixed body o db.toTables := ⟨hallocated.1, hallocated.2, hboth⟩
      rw [refundShare, if_pos hmixed]
      cases body.cashRefundCents with
      | none => exact yields_fail
      | some requested =>
          refine yields_seq ensure_ok.yields fun _ hrequested => yields_done ?_
          simp [hrequested]
    next hone =>
      have hmixed : ¬ Mixed body o db.toTables := fun h => hone h.2.2
      rw [refundShare, if_neg hmixed]
      exact yields_done (by simp [cashPortion, hallocated.2])
  next hsingle =>
    have hmixed : ¬ Mixed body o db.toTables := fun h => hsingle ⟨h.1, h.2.1⟩
    rw [refundShare, if_neg hmixed]
    exact computeCashPortion_yields.mono fun cash hcash => hcash ▸ rfl

-- What an order took in cash: a legacy one has no allocations, only its single method.
def collectedCash (o : Order) (t : Tables) : Cents :=
  if orderAllocations o.id t = [] then
    if o.paymentMethod = some .cash then o.totalCents else 0
  else cashAllocated o.id t

def collectedNonCash (o : Order) (t : Tables) : Cents :=
  if orderAllocations o.id t = [] then
    if o.paymentMethod = some .cash then 0 else o.totalCents
  else nonCashAllocated o.id t

structure SharesWithin (o : Order) (t : Tables) (amount cash nonCash : Cents) : Prop where
  sum : cash + nonCash = amount
  cashNonneg : 0 ≤ cash
  cashTaken : cash ≤ collectedCash o t
  nonCashNonneg : 0 ≤ nonCash
  nonCashTaken : nonCash ≤ collectedNonCash o t

-- The allocations, where the order has them, cover what the refund takes them to have paid.
def Covered (body : POSRefundRequest) (o : Order) (t : Tables) : Prop :=
  orderAllocations o.id t = [] ∨
    match o.paymentMethod with
    | some .cash => refundAmount body o ≤ cashAllocated o.id t
    | some .split =>
        if Mixed body o t then
          refundAmount body o ≤ nonCashAllocated o.id t + body.cashRefundCents.getD 0
        else refundAmount body o ≤ cashAllocated o.id t + nonCashAllocated o.id t
    | _ => refundAmount body o ≤ nonCashAllocated o.id t

theorem allocated_nonneg (h : ∀ a ∈ t.allocations, 0 < a.amountCents) (id : Uuid) :
    0 ≤ cashAllocated id t ∧ 0 ≤ nonCashAllocated id t := by
  constructor <;>
  · refine List.sum_nonneg fun x hx => ?_
    obtain ⟨a, ha, rfl⟩ := List.mem_map.mp hx
    exact (h a (List.mem_filter.mp (List.mem_filter.mp ha).1).1).le

theorem refundAmount_nonneg (htotal : 0 ≤ o.totalCents) : 0 ≤ refundAmount body o := by
  unfold refundAmount
  cases hamount : body.amountCents with
  | none => exact htotal
  | some amount =>
      have hpositive := body.amountPositive amount hamount
      exact le_trans (by decide) hpositive

theorem unallocated (h : orderAllocations o.id t = []) :
    cashAllocated o.id t = 0 ∧ nonCashAllocated o.id t = 0 := by
  simp [cashAllocated, nonCashAllocated, h]

theorem sharesWithin_iff {amount : Cents} :
    SharesWithin o t amount cash (amount - cash) ↔
      0 ≤ cash ∧ cash ≤ collectedCash o t ∧ cash ≤ amount ∧
        amount ≤ collectedNonCash o t + cash := by
  constructor
  · rintro ⟨-, hnonneg, htaken, hrest, hrestTaken⟩
    exact ⟨hnonneg, htaken, by linarith, by linarith⟩
  · rintro ⟨hnonneg, htaken, hrest, hrestTaken⟩
    exact ⟨add_sub_cancel _ _, hnonneg, htaken, by linarith, by linarith⟩

theorem legacy_within (hnone : orderAllocations o.id t = []) (htotal : 0 ≤ o.totalCents)
    (hamount : refundAmount body o ≤ o.totalCents) (hshare : refundShare body o t = some cash) :
    SharesWithin o t (refundAmount body o) cash (refundAmount body o - cash) := by
  have hnonneg : 0 ≤ refundAmount body o := refundAmount_nonneg htotal
  obtain ⟨hcash, -⟩ := unallocated hnone
  have hmixed : ¬ Mixed body o t := fun h => by simp [Mixed, hcash] at h
  rw [refundShare, if_neg hmixed] at hshare
  obtain rfl := Option.some.inj hshare
  rw [sharesWithin_iff, collectedCash, collectedNonCash, if_pos hnone, if_pos hnone]
  unfold cashPortion
  split
  next hmethod => simp [hmethod, hnonneg, hamount]
  next hmethod => simp [hmethod, hcash, hnonneg, hamount]
  next hcash _ =>
    have hmethod : o.paymentMethod ≠ some .cash := hcash
    simp [hmethod, hnonneg, hamount]

theorem shares_within_iff (hamounts : ∀ a ∈ t.allocations, 0 < a.amountCents)
    (htotal : 0 ≤ o.totalCents)
    (hamount : refundAmount body o ≤ o.totalCents) (hshare : refundShare body o t = some cash) :
    SharesWithin o t (refundAmount body o) cash (refundAmount body o - cash) ↔
      Covered body o t := by
  by_cases hnone : orderAllocations o.id t = []
  · exact iff_of_true (legacy_within hnone htotal hamount hshare) (.inl hnone)
  have hnonneg : 0 ≤ refundAmount body o := refundAmount_nonneg htotal
  obtain ⟨hcash, hnonCash⟩ := allocated_nonneg hamounts o.id
  rw [sharesWithin_iff, collectedCash, collectedNonCash, if_neg hnone, if_neg hnone, Covered,
    or_iff_right hnone]
  by_cases hmixed : Mixed body o t
  · rw [refundShare, if_pos hmixed] at hshare
    obtain ⟨hrequested, hkept⟩ := Option.filter_eq_some_iff.mp hshare
    obtain ⟨hle, hleCash⟩ := of_decide_eq_true hkept
    have hrequestedNonneg := body.cashNonnegative cash hrequested
    simp only [hmixed.2.1, if_pos hmixed, hrequested, Option.getD_some]
    constructor
    · exact fun h => h.2.2.2
    · exact fun h => ⟨hrequestedNonneg, hleCash, hle, h⟩
  · rw [refundShare, if_neg hmixed] at hshare
    obtain rfl := Option.some.inj hshare
    rw [if_neg hmixed, cashPortion]
    rcases o.paymentMethod with - | method
    · simp [hcash, hnonneg]
    · cases method with
      | cash =>
          dsimp only
          constructor
          · exact fun h => h.2.1
          · exact fun h => ⟨hnonneg, h, le_refl _, by linarith⟩
      | split =>
          dsimp only
          constructor
          · rintro ⟨-, -, -, h⟩
            linarith [min_le_left (cashAllocated o.id t) (refundAmount body o)]
          · intro h
            refine ⟨le_min hcash hnonneg, min_le_left _ _, min_le_right _ _, ?_⟩
            rcases le_total (cashAllocated o.id t) (refundAmount body o) with hle | hle
            · rw [min_eq_left hle]
              linarith
            · rw [min_eq_right hle]
              linarith
      | _ => simp [hcash, hnonneg]

section Runs

variable {request : Request} {event : Event} {steps : List (Event × Database)}

-- No order has a negative total.
def Recorded (t : Tables) : Prop :=
  ∀ o ∈ t.orders, 0 ≤ o.totalCents

def KeepsRecorded (f : Pending) : Prop :=
  ∀ t, Recorded t → Recorded (f t)

theorem keepsRecorded_neutral : Neutral KeepsRecorded :=
  preserves_neutral

theorem keepsRecorded_same {f : Pending} (horders : ∀ t, (f t).orders = t.orders) :
    KeepsRecorded f := by
  intro t h
  rw [Recorded, horders]
  exact h

theorem keepsRecorded_setOrder {set : Order → Order}
    (htotal : ∀ o, (set o).totalCents = o.totalCents) : KeepsRecorded (setOrder orderId set) := by
  intro t h o ho
  obtain ⟨o', ho', rfl | rfl⟩ := Table.mem_modify ho
  · exact h o ho'
  · exact htotal o' ▸ h o' ho'

theorem totals_nonneg {sale : Sale} {body : POSOrderCreateRequest} :
    0 ≤ (sale.totals body).totalCents := by
  unfold Sale.totals
  dsimp only
  generalize subtotal sale.items - body.discountCents - sale.loyaltyDiscountCents +
    (if body.orderMode = .delivery then sale.business.deliveryFeeCents else 0) = net
  have hnet : 0 ≤ max 0 net := le_max_left _ _
  split
  · exact Vat.pricing_applyVatToTotal_nonneg hnet
  · exact hnet

theorem keepsRecorded_stages {f : Pending} (h : Stages request f) : KeepsRecorded f := by
  cases h with
  | payOrder | recordPayment | recordRefund | markRefunded | markVoided =>
      exact keepsRecorded_setOrder fun _ => rfl
  | insertOrder =>
      intro t h o ho
      rcases List.mem_append.mp ho with ho | ho
      · exact h o ho
      · obtain rfl := List.mem_singleton.mp ho
        exact totals_nonneg
  | _ => exact keepsRecorded_same fun _ => rfl

theorem recorded_next (h : Recorded db.toTables) (hnext : Next db event db') :
    Recorded db'.toTables := by
  cases event with
  | environment =>
      rw [Recorded, hnext.orders]
      exact h
  | served request r =>
      have hwrites : Writes (fun _ => True) KeepsRecorded (handle request) :=
        handle_writes keepsRecorded_neutral fun f hf => keepsRecorded_stages hf
      have hkeeps : Recorded ((handle request).run db).2.toTables :=
        preserves_run (I := Recorded) hwrites h
      rwa [show (handle request).run db = (r, db') from hnext] at hkeeps

def refundedOrder : Event → Option (Uuid × POSRefundRequest × Order)
  | .served (.refundPosOrder _ orderId body) (.ok (.order o')) => some (orderId, body, o')
  | _ => none

def RefundWithin (s : Database) (event : Event) (_ : Database) : Prop :=
  ∀ orderId body o', refundedOrder event = some (orderId, body, o') →
    ∀ o, s.orders.lookup orderId = some o →
      ∃ amount cash nonCash, o'.refundAmountCents = some amount ∧ o'.refundCashCents = some cash ∧
        SharesWithin o s.toTables amount cash nonCash

def RefundCovered (s : Database) (event : Event) (_ : Database) : Prop :=
  ∀ orderId body o', refundedOrder event = some (orderId, body, o') →
    ∀ o, s.orders.lookup orderId = some o → Covered body o s.toTables

theorem refundedOrder_eq (h : refundedOrder event = some (orderId, body, o')) :
    ∃ user, event = .served (.refundPosOrder user orderId body) (.ok (.order o')) := by
  unfold refundedOrder at h
  split at h
  · cases h
    exact ⟨_, rfl⟩
  · cases h

theorem refund_within_iff (hrecorded : Recorded db.toTables) (hnext : Next db event db') :
    RefundWithin db event db' ↔ RefundCovered db event db' := by
  refine forall₄_congr fun orderId body o' hevent => forall₂_congr fun o ho => ?_
  obtain ⟨user, rfl⟩ := refundedOrder_eq hevent
  obtain ⟨r, hr, hreply⟩ := reply_run (refundPosOrder_reverses refundCash_share) hnext
  rcases hr with ⟨e, rfl, -⟩ | ⟨placed, set, restores, ⟨hamount, -, cash, hshare, rfl⟩, hreverses, rfl⟩
  · cases hreply
  obtain rfl : o = placed := Option.some.inj (ho.symm.trans hreverses.order)
  obtain rfl : o' = _ := Reply.order.inj (Except.ok.inj hreply)
  have htotal := hrecorded o (Table.lookup_mem ho)
  rw [← shares_within_iff (db.valid .ckAllocationsAmountPositive) htotal hamount hshare]
  constructor
  · rintro ⟨amount, cash', nonCash, hamount', hcash, hshares⟩
    obtain rfl : refundAmount body o = amount := Option.some.inj hamount'
    obtain rfl : cash = cash' := Option.some.inj hcash
    obtain rfl : nonCash = refundAmount body o - cash := by linarith [hshares.sum]
    exact hshares
  · exact fun hshares => ⟨_, cash, _, rfl, rfl, hshares⟩

theorem refunds_within_collected_iff (hrun : Run.Along Next db steps)
    (hinit : Recorded db.toTables) :
    Run.Along RefundWithin db steps ↔ Run.Along RefundCovered db steps := by
  have hrecorded := hrun.carrying (I := fun s => Recorded s.toTables) hinit
    fun _ _ _ hI hnext => recorded_next hI hnext
  constructor
  · intro h
    exact (hrecorded.and h).mono fun _ _ _ hstep =>
      (refund_within_iff hstep.1.2 hstep.1.1).mp hstep.2
  · intro h
    exact (hrecorded.and h).mono fun _ _ _ hstep =>
      (refund_within_iff hstep.1.2 hstep.1.1).mpr hstep.2

end Runs

def supper : Order where
  id := 4
  businessId := 1
  customerId := none
  orderNumber := "BO-000001"
  status := .completed
  paymentStatus := .paid
  orderMode := .pickup
  source := .pos
  subtotalCents := 10000
  deliveryFeeCents := 0
  totalCents := 10000
  currency := "ZAR"
  paymentMethod := some .split
  tillSessionId := some 3
  createdAt := 0

def took (position : Nat) (method : PaymentMethod) (amountCents : Cents)
    (tendered : Option Cents) : POSPaymentAllocation where
  id := (4, position)
  businessId := 1
  orderId := 4
  tillSessionId := some 3
  paymentMethod := method
  amountCents := amountCents
  cashTenderedCents := tendered
  changeDueCents := tendered.map fun _ => 0
  createdByUserId := none
  createdAt := 0

def halfAndHalf : Database where
  businesses := [{ id := 1 }]
  tillSessions := [SplitPayments.morningTill]
  orders := [supper]
  allocations := [took 0 .cash 6000 (some 6000), took 1 .card 4000 none]
  now := 10
  valid := Tables.violation_eq_none.mp (by decide +kernel)

def manager : AuthUser where
  userId := 9
  businessId := 1
  role := .manager

def partOfIt (cashRefundCents : Cents) (h : 0 ≤ cashRefundCents) : POSRefundRequest where
  amountCents := some 9000
  reason := none
  restoreStock := false
  restoreLoyaltyPoints := true
  cashRefundCents := some cashRefundCents
  amountPositive := by simp
  cashNonnegative := by simpa using h

def refunds (cashRefundCents : Cents) (h : 0 ≤ cashRefundCents) : List Request :=
  [.refundPosOrder manager 4 (partOfIt cashRefundCents h)]

theorem halfAndHalf_recorded : Recorded halfAndHalf.toTables := by
  unfold Recorded
  decide

theorem half_of_each_refunded :
    Run.Along RefundWithin halfAndHalf (played halfAndHalf (refunds 5000 (by decide))) ↔
      Run.Along RefundCovered halfAndHalf (played halfAndHalf (refunds 5000 (by decide))) :=
  refunds_within_collected_iff along_played halfAndHalf_recorded

-- 9000 go back to a card that took 4000.
theorem card_refunded_more_than_taken :
    ¬ ∀ (db : Database) (steps : List (Event × Database)), Run.Along Next db steps →
      Recorded db.toTables → Run.Along RefundWithin db steps := by
  intro h
  have hrun : Run.Along Next halfAndHalf (played halfAndHalf (refunds 0 (by decide))) :=
    along_played
  have hwithin := (h halfAndHalf _ hrun halfAndHalf_recorded).1
  have hcovered := (refund_within_iff halfAndHalf_recorded hrun.1).mp hwithin 4 _ _ rfl supper rfl
  rcases hcovered with hnone | hcovered
  · revert hnone
    decide +kernel
  · have hle : (9000 : Cents) ≤ 4000 := hcovered
    exact absurd hle (by decide)

end NextgenBackend.RefundShares
