import NextgenBackend.Pos.RefundShares

namespace NextgenBackend.CollectedCash

open Txn RoutesPos
open RefundShares (collectedCash refundAmount)

variable {db db' rung : Database} {user : AuthUser} {id orderId : Uuid} {sold : Order}
  {event : Event} {steps : List (Event × Database)} {tender : Cents × Option PaymentMethod}

-- The method that an accepted change of the payment names for the order.
def methodNamed (id : Uuid) : Event → Option PaymentMethod
  | .served (.updatePaymentStatus _ orderId body) (.ok _) =>
      if orderId = id then body.paymentMethod else none
  | _ => none

def lastNamed (id : Uuid) (steps : List (Event × Database)) : Option PaymentMethod :=
  (steps.filterMap fun step => methodNamed id step.1).getLast?

theorem lastNamed_snoc {s : Database} :
    lastNamed id (steps ++ [(event, s)]) = (methodNamed id event).or (lastNamed id steps) := by
  unfold lastNamed
  rw [List.filterMap_append, List.getLast?_append, List.filterMap_cons, List.filterMap_nil]
  cases methodNamed id event <;> rfl

theorem methodNamed_accepted {method : PaymentMethod} (h : methodNamed id event = some method) :
    method ≠ .split := by
  unfold methodNamed at h
  split at h
  next body _ =>
    split at h
    · have haccepted := body.methodAccepted method h
      rintro rfl
      simp at haccepted
    · cases h
  · cases h

theorem lastNamed_accepted {method : PaymentMethod} (h : lastNamed id steps = some method) :
    method ≠ .split := by
  obtain ⟨step, -, hnamed⟩ := List.mem_filterMap.mp (List.mem_of_getLast? h)
  exact methodNamed_accepted hnamed

section Tender

-- What the order is charged, and the method on its row.
def Tendered (id : Uuid) (tender : Cents × Option PaymentMethod) (t : Tables) : Prop :=
  (t.orders.lookup id).map (fun o => (o.totalCents, o.paymentMethod)) = some tender

theorem tendered_same {f : Pending} (horders : ∀ t, (f t).orders = t.orders) :
    Preserves (Tendered id tender) f := by
  intro t h
  rw [Tendered, horders]
  exact h

theorem tendered_setOrder {set : Order → Order} (hkey : ∀ o, key (set o) = key o)
    (hset : ∀ o, ((set o).totalCents, (set o).paymentMethod) = (o.totalCents, o.paymentMethod)) :
    Preserves (Tendered id tender) (setOrder orderId set) := by
  intro t h
  rw [Tendered, setOrder, Table.lookup_modify hkey]
  split
  next hid =>
    subst hid
    rw [Option.map_map]
    exact (congrArg (Option.map · (t.orders.lookup id)) (funext hset)).trans h
  next => exact h

theorem tendered_insertOrder {order : Order} : Preserves (Tendered id tender) (insertOrder order) := by
  intro t h
  obtain ⟨o, ho, htender⟩ := Option.map_eq_some_iff.mp h
  rw [Tendered, insertOrder, Table.lookup_insert_of_some ho, Option.map_some, htender]

theorem tendered_stages {request : Request} {f : Pending} (h : Stages request f)
    (hpatch : ∀ user orderId body, request ≠ .updatePaymentStatus user orderId body) :
    Preserves (Tendered id tender) f := by
  cases h with
  | recordPayment => exact absurd rfl (hpatch _ _ _)
  | payOrder | recordRefund | markRefunded | markVoided =>
      exact tendered_setOrder (fun _ => rfl) fun _ => rfl
  | insertOrder => exact tendered_insertOrder
  | _ => exact tendered_same fun _ => rfl

theorem tendered_unpatched {request : Request} {r : Except Failure Reply}
    (hpatch : ∀ user orderId body, request ≠ .updatePaymentStatus user orderId body)
    (h : Tendered id tender db.toTables) (hrun : (handle request).run db = (r, db')) :
    Tendered id tender db'.toTables := by
  have hwrites : Writes (fun _ => True) (Preserves (Tendered id tender)) (handle request) :=
    handle_writes preserves_neutral fun f hf => tendered_stages hf hpatch
  have hkept := preserves_run hwrites h
  rwa [hrun] at hkept

theorem recordPayment_method {body : RoutesOrders.PaymentUpdateRequest} {o : Order} {now : Instant} :
    (RoutesOrders.recordPayment body o now o).paymentMethod =
      body.paymentMethod.or o.paymentMethod := by
  unfold RoutesOrders.recordPayment
  cases body.paymentMethod with
  | none => rfl
  | some method => exact RoutesOrders.assign_self

theorem tendered_patched {body : RoutesOrders.PaymentUpdateRequest} {r : Except Failure Reply}
    (h : Tendered id tender db.toTables)
    (hrun : (handle (.updatePaymentStatus user orderId body)).run db = (r, db')) :
    Tendered id (tender.1,
      (methodNamed id (.served (.updatePaymentStatus user orderId body) r)).or tender.2)
        db'.toTables := by
  obtain ⟨r', hsettles, rfl⟩ := reply_run updatePaymentStatus_ensures hrun
  rcases hsettles with ⟨e, rfl, rfl⟩ | ⟨o, set, ho, ⟨-, -, rfl⟩, hset, rfl⟩
  · exact h
  · have hkey (o' : Order) : key (RoutesOrders.recordPayment body o db.now o') = key o' := rfl
    dsimp only [methodNamed, Except.map]
    split
    next hid =>
      subst hid
      rw [Tendered, ho] at h
      obtain rfl := Option.some.inj h
      rw [Tendered, hset.lookup hkey ho, Option.map_some, recordPayment_method]
      rfl
    next hid =>
      rw [Tendered, hset.lookup_ne hkey (Ne.symm hid)]
      exact h

theorem next_tendered (h : Tendered id tender db.toTables) (hnext : Next db event db') :
    Tendered id (tender.1, (methodNamed id event).or tender.2) db'.toTables := by
  cases event with
  | environment =>
      rw [Tendered, hnext.orders]
      exact h
  | served request r =>
      cases request with
      | updatePaymentStatus user orderId body => exact tendered_patched h hnext
      | _ => exact tendered_unpatched (fun _ _ _ h => by cases h) h hnext

theorem run_tendered (h : Tendered id tender db.toTables) (hrun : Run.Along Next db steps) :
    Tendered id (tender.1, (lastNamed id steps).or tender.2) (Run.last db steps).toTables := by
  refine hrun.history (I := fun taken => Tendered id (tender.1, (lastNamed id taken).or tender.2)
    (Run.last db taken).toTables) h fun taken event s' htaken hnext => ?_
  have hlast : Run.last db (taken ++ [(event, s')]) = s' := by simp [Run.last]
  rw [hlast, lastNamed_snoc, Option.or_assoc]
  exact next_tendered htaken hnext

theorem run_allocations (hsome : (db.orders.lookup id).isSome) (hrun : Run.Along Next db steps) :
    (orderAllocations id (Run.last db steps).toTables).map money =
      (orderAllocations id db.toTables).map money := by
  refine (hrun.invariant (I := fun s => (s.orders.lookup id).isSome ∧
    (orderAllocations id s.toTables).map money = (orderAllocations id db.toTables).map money)
      ⟨hsome, rfl⟩ fun s event s' h hnext => ?_).2
  exact ⟨(SplitPayments.next_kept hnext h.1).1,
    (SplitPayments.next_allocations hnext h.1).trans h.2⟩

end Tender

section Sale

-- The checkout that rang the order up.
def RingsUp (s : Database) (event : Event) (s' : Database) (sold : Order) : Prop :=
  ∃ user newCustomerId body r, event = .served (.createPosOrder user sold.id newCustomerId body) r ∧
    s.orders.lookup sold.id = none ∧ s'.orders.lookup sold.id = some sold

variable {body : POSOrderCreateRequest} {p : Placement user orderId body db}

theorem cashAllocated_money {t : Tables} : cashAllocated id t =
    ((((orderAllocations id t).map money).filter fun a => a.paymentMethod = .cash).map
      (·.amountCents)).sum := by
  unfold cashAllocated
  rw [List.filter_map, List.map_map]
  rfl

theorem cashAllocated_congr {t t' : Tables}
    (h : (orderAllocations id t').map money = (orderAllocations id t).map money) :
    cashAllocated id t' = cashAllocated id t := by
  rw [cashAllocated_money, h, ← cashAllocated_money]

theorem cashAllocated_le :
    cashAllocated id db.toTables ≤ SplitPayments.allocated id db.toTables := by
  refine List.Sublist.sum_le_sum (List.filter_sublist.map _) fun amount hamount => ?_
  obtain ⟨a, ha, rfl⟩ := List.mem_map.mp hamount
  exact (db.valid .ckAllocationsAmountPositive a (List.mem_filter.mp ha).1).le

theorem ringsUp_placement (hnext : Next db event db') (h : RingsUp db event db' sold) :
    ∃ user orderId body, ∃ p : Placement user orderId body db,
      Places p db'.toTables ∧ p.order = sold := by
  obtain ⟨user, newCustomerId, body, r, rfl, hnone, hsome⟩ := h
  obtain ⟨r', hrings, -⟩ := reply_run createPosOrder_rings hnext
  rcases hrings with rfl | ⟨p, hplaces, -, -⟩
  · rw [hnone] at hsome
    cases hsome
  · have hlookup := (SplitPayments.places_lookup hplaces).2
    exact ⟨user, sold.id, body, p, hplaces, Option.some.inj (hlookup.symm.trans hsome)⟩

theorem sold_allocations (hplaces : Places p db'.toTables) :
    (orderAllocations orderId db'.toTables).map money =
      (allocationRows body p.order p.intents db.now).map money := by
  rw [SplitPayments.orderAllocations_places hplaces, if_pos rfl]

theorem allocations_nil (hplaces : Places p db'.toTables) :
    orderAllocations orderId db'.toTables = [] ↔
      allocationRows body p.order p.intents db.now = [] := by
  rw [← List.map_eq_nil_iff (f := money), sold_allocations hplaces, List.map_eq_nil_iff]

theorem split_sold {payments : List POSPaymentAllocationRequest} (hplaces : Places p db'.toTables)
    (hbody : body.payments = some payments) :
    cashPortion p.order db'.toTables p.order.totalCents = collectedCash p.order db'.toTables := by
  have hmethod : p.order.paymentMethod = some .split := by
    simp [Placement.order, newOrder, hbody]
  have hrows : orderAllocations orderId db'.toTables ≠ [] := by
    rw [ne_eq, allocations_nil hplaces]
    simp only [allocationRows, hbody, List.map_eq_nil_iff, List.zipIdx_eq_nil_iff]
    rintro rfl
    exact body.paymentsNonempty hbody
  have hsum : SplitPayments.allocated orderId db'.toTables = p.order.totalCents := by
    rw [SplitPayments.allocated_money, sold_allocations hplaces, List.map_map]
    exact SplitPayments.rows_amounts hbody
  have hle : cashAllocated orderId db'.toTables ≤ p.order.totalCents := hsum ▸ cashAllocated_le
  have hcollected : collectedCash p.order db'.toTables = cashAllocated orderId db'.toTables :=
    if_neg hrows
  rw [hcollected, cashPortion, hmethod]
  exact min_eq_left hle

theorem single_sold (hplaces : Places p db'.toTables) (hbody : body.payments = none) :
    cashPortion p.order db'.toTables p.order.totalCents = collectedCash p.order db'.toTables := by
  obtain ⟨method, hnamed⟩ : ∃ method, body.paymentMethod = some method := by
    refine Option.ne_none_iff_exists'.mp fun hnone => ?_
    have hsome := body.onePaymentShape.mpr hnone
    rw [hbody] at hsome
    cases hsome
  have hmethod : p.order.paymentMethod = some method := by
    simp [Placement.order, newOrder, hbody, hnamed]
  have hsplit : method ≠ .split := by
    have haccepted := body.methodAccepted method hnamed
    rintro rfl
    simp at haccepted
  have hportion : cashPortion p.order db'.toTables p.order.totalCents =
      if method = .cash then p.order.totalCents else 0 := by
    unfold cashPortion
    rw [hmethod]
    cases method <;> first | rfl | exact absurd rfl hsplit
  have hrows : allocationRows body p.order p.intents db.now =
      if 0 < p.order.totalCents then [singleAllocation p.order method db.now] else [] := by
    simp only [allocationRows, hbody, hnamed]
  rw [hportion]
  by_cases htotal : 0 < p.order.totalCents
  · rw [if_pos htotal] at hrows
    have hnonempty : orderAllocations orderId db'.toTables ≠ [] := by
      rw [ne_eq, allocations_nil hplaces, hrows]
      simp
    have hcollected : collectedCash p.order db'.toTables = cashAllocated orderId db'.toTables :=
      if_neg hnonempty
    rw [hcollected, cashAllocated_money, sold_allocations hplaces, hrows]
    by_cases hcash : method = .cash <;> simp [hcash, money, singleAllocation]
  · rw [if_neg htotal] at hrows
    have hcollected : collectedCash p.order db'.toTables =
        if p.order.paymentMethod = some .cash then p.order.totalCents else 0 :=
      if_pos ((allocations_nil hplaces).mpr hrows)
    rw [hcollected, hmethod]
    simp only [Option.some.injEq]

-- Reversed as it was sold, an order gives back the cash it took.
theorem cashPortion_sold (hplaces : Places p db'.toTables) :
    cashPortion p.order db'.toTables p.order.totalCents = collectedCash p.order db'.toTables := by
  cases hbody : body.payments with
  | none => exact single_sold hplaces hbody
  | some payments => exact split_sold hplaces hbody

end Sale

section Reversals

-- An accepted void of the order, or an accepted refund of all of it.
inductive ReversesInFull (sold : Order) : Event → Prop
  | voided {user reason reply} :
      ReversesInFull sold (.served (.voidPosOrder user sold.id reason) (.ok reply))
  | refunded {user body reply} : refundAmount body sold = sold.totalCents →
      ReversesInFull sold (.served (.refundPosOrder user sold.id body) (.ok reply))

def recordedCash (id : Uuid) (t : Tables) : Option Cents :=
  (t.orders.lookup id).bind (·.refundCashCents)

-- Since the sale no method was named, or the one named last fits what was collected.
def MethodFits (sold : Order) (rung : Database) (steps : List (Event × Database)) : Prop :=
  match lastNamed sold.id steps with
  | none => True
  | some .cash => collectedCash sold rung.toTables = sold.totalCents
  | some _ => collectedCash sold rung.toTables = 0

theorem reversal_cash {o : Order} (ho : db.orders.lookup sold.id = some o)
    (htotal : o.totalCents = sold.totalCents) (hreverses : ReversesInFull sold event)
    (hnext : Next db event db') :
    recordedCash sold.id db'.toTables = some (cashPortion o db.toTables o.totalCents) := by
  cases hreverses with
  | voided =>
      obtain ⟨r', hsettles, hr⟩ := reply_run voidPosOrder_ensures hnext
      rcases hsettles with ⟨e, rfl, -⟩ | ⟨o', set, ho', ⟨cash, hreversal, rfl⟩, hset, rfl⟩
      · cases hr
      obtain rfl := Option.some.inj (ho.symm.trans ho')
      rw [recordedCash, hset.lookup (fun _ => rfl) ho, hreversal.full rfl]
      rfl
  | refunded hamount =>
      obtain ⟨r', hsettles, hr⟩ := reply_run refundPosOrder_ensures hnext
      rcases hsettles with ⟨e, rfl, -⟩ | ⟨o', set, ho', ⟨cash, hreversal, rfl⟩, hset, rfl⟩
      · cases hr
      obtain rfl := Option.some.inj (ho.symm.trans ho')
      rw [refundAmount, ← htotal] at hamount
      rw [recordedCash, hset.lookup (fun _ => rfl) ho, hreversal.full hamount, hamount]
      rfl

theorem cashPortion_congr {o o' : Order} {t t' : Tables} (hid : o'.id = o.id)
    (hmethod : o'.paymentMethod = o.paymentMethod)
    (hcash : cashAllocated o.id t' = cashAllocated o.id t) (amount : Cents) :
    cashPortion o' t' amount = cashPortion o t amount := by
  unfold cashPortion
  rw [hid, hmethod, hcash]

theorem reversal_gives_collected_iff {sale reversal : Event} (hsale : Next db sale rung)
    (hsold : RingsUp db sale rung sold) (hrun : Run.Along Next rung steps)
    (hreversal : Next (Run.last rung steps) reversal db')
    (hreverses : ReversesInFull sold reversal) :
    recordedCash sold.id db'.toTables = some (collectedCash sold rung.toTables) ↔
      MethodFits sold rung steps := by
  obtain ⟨user, orderId, body, p, hplaces, rfl⟩ := ringsUp_placement hsale hsold
  have hlookup : rung.orders.lookup p.order.id = some p.order :=
    (SplitPayments.places_lookup hplaces).2
  have htendered : Tendered p.order.id (p.order.totalCents, p.order.paymentMethod)
      rung.toTables := by
    rw [Tendered, hlookup, Option.map_some]
  obtain ⟨o, ho, htender⟩ := Option.map_eq_some_iff.mp (run_tendered htendered hrun)
  obtain ⟨htotal, hmethod⟩ := Prod.mk.inj htender
  have hid : o.id = p.order.id := Table.lookup_key ho
  have hcash : cashAllocated p.order.id (Run.last rung steps).toTables =
      cashAllocated p.order.id rung.toTables :=
    cashAllocated_congr (run_allocations (by rw [hlookup]; rfl) hrun)
  rw [reversal_cash ho htotal hreverses hreversal, htotal, Option.some.injEq]
  unfold MethodFits
  cases hlast : lastNamed p.order.id steps with
  | none =>
      rw [hlast] at hmethod
      rw [cashPortion_congr hid hmethod hcash, cashPortion_sold hplaces]
      exact iff_of_true rfl trivial
  | some method =>
      rw [hlast] at hmethod
      have hsplit := lastNamed_accepted hlast
      unfold cashPortion
      rw [hmethod]
      cases method with
      | cash => exact eq_comm
      | split => exact absurd rfl hsplit
      | _ => exact eq_comm

end Reversals

def till : Database where
  businesses := [{ id := 1 }]
  menuItems := [SplitPayments.burger]
  tillSessions := [SplitPayments.morningTill]
  now := 10
  valid := Tables.violation_eq_none.mp (by decide +kernel)

def burgerInCash : POSOrderCreateRequest where
  items := [⟨2, 1, [], [], [], none⟩]
  orderMode := .pickup
  tableNumber := none
  customerName := none
  customerPhone := none
  discountCents := 0
  discountReason := none
  loyaltyRewardId := none
  paymentMethod := some .cash
  cashTenderedCents := some 100
  paymentReference := none
  payments := none
  idempotencyKey := none
  itemsNonempty := by simp
  quantities := by simp
  discountNonnegative := no_discount
  methodAccepted := by simp
  paymentsNonempty := no_payments
  onePaymentShape := by simp
  cashTendered := by simp
  cashScoped := by simp
  redemptionKeyed := no_redemption

def burgerSold : Order where
  id := 4
  businessId := 1
  customerId := none
  orderNumber := "BO-000001"
  status := .completed
  paymentStatus := .paid
  orderMode := .pickup
  source := .pos
  subtotalCents := 100
  deliveryFeeCents := 0
  totalCents := 100
  currency := "ZAR"
  confirmedAt := some 10
  completedAt := some 10
  paymentMethod := some .cash
  paidAt := some 10
  cashTenderedCents := some 100
  changeDueCents := some 0
  tillSessionId := some 3
  createdByUserId := some 7
  createdAt := 10

def paidBy (method : PaymentMethod)
    (h : method ∈ [.cash, .card, .payOnCollection, .directEft, .payshap, .yoco, .payfast, .stitch,
      .manual]) : RoutesOrders.PaymentUpdateRequest where
  paymentStatus := .paid
  paymentMethod := some method
  paymentReference := none
  methodAccepted := by simpa using h

def serve (db : Database) (request : Request) : Event × Database :=
  (.served request ((handle request).run db).1, ((handle request).run db).2)

def rungUp : Event × Database :=
  serve till (.createPosOrder SplitPayments.teller 4 8 burgerInCash)

def patched (method : PaymentMethod)
    (h : method ∈ [.cash, .card, .payOnCollection, .directEft, .payshap, .yoco, .payfast, .stitch,
      .manual]) : List (Event × Database) :=
  played rungUp.2 [.updatePaymentStatus RefundShares.manager 4 (paidBy method h)]

def void : Request := .voidPosOrder RefundShares.manager 4 "rung up twice"

def voided (steps : List (Event × Database)) : Event × Database :=
  serve (Run.last rungUp.2 steps) void

theorem burger_rung_up : RingsUp till rungUp.1 rungUp.2 burgerSold :=
  ⟨SplitPayments.teller, 8, burgerInCash, _, rfl, by decide +kernel, by decide +kernel⟩

theorem serve_next {request : Request} : Next db (serve db request).1 (serve db request).2 := rfl

theorem sale_next : Next till rungUp.1 rungUp.2 := serve_next

theorem patched_along {method : PaymentMethod} {h : method ∈ [.cash, .card, .payOnCollection,
    .directEft, .payshap, .yoco, .payfast, .stitch, .manual]} :
    Run.Along Next rungUp.2 (patched method h) := along_played

theorem void_next : Next (Run.last rungUp.2 steps) (voided steps).1 (voided steps).2 := serve_next

theorem void_in_full (steps : List (Event × Database))
    (h : ((handle void).run (Run.last rungUp.2 steps)).1.isOk = true) :
    ReversesInFull burgerSold (voided steps).1 := by
  unfold voided serve
  cases hr : ((handle void).run (Run.last rungUp.2 steps)).1 with
  | error e =>
      rw [hr] at h
      cases h
  | ok reply => exact .voided

theorem patched_to_cash_gives_collected :
    recordedCash burgerSold.id (voided (patched .cash (by decide))).2.toTables =
        some (collectedCash burgerSold rungUp.2.toTables) ↔
      MethodFits burgerSold rungUp.2 (patched .cash (by decide)) := by
  have hreverses : ReversesInFull burgerSold (voided (patched .cash (by decide))).1 :=
    void_in_full (patched .cash (by decide)) (by decide +kernel)
  exact reversal_gives_collected_iff sale_next burger_rung_up patched_along void_next hreverses

-- The cash sale is patched to CARD and voided: the drawer took 100, and the record gives back 0.
theorem patched_to_card_gives_nothing :
    ¬ ∀ (db rung db' : Database) (sold : Order) (steps : List (Event × Database))
      (sale reversal : Event), Next db sale rung → RingsUp db sale rung sold →
      Run.Along Next rung steps → Next (Run.last rung steps) reversal db' →
      ReversesInFull sold reversal →
      recordedCash sold.id db'.toTables = some (collectedCash sold rung.toTables) := by
  intro h
  have hreverses : ReversesInFull burgerSold (voided (patched .card (by decide))).1 :=
    void_in_full (patched .card (by decide)) (by decide +kernel)
  have hcollected := h till rungUp.2 (voided (patched .card (by decide))).2 burgerSold
    (patched .card (by decide)) rungUp.1 (voided (patched .card (by decide))).1 sale_next
    burger_rung_up patched_along void_next hreverses
  have hlost : recordedCash burgerSold.id (voided (patched .card (by decide))).2.toTables ≠
      some (collectedCash burgerSold rungUp.2.toTables) := by decide +kernel
  exact hlost hcollected

end NextgenBackend.CollectedCash
