import NextgenBackend.Api.RoutesPos.Reversal
import NextgenBackend.Library.Binary64
import NextgenBackend.Library.Dict
import NextgenBackend.Utils.Time

namespace NextgenBackend.RoutesAnalytics

open RoutesPos
open Binary64 (share wholeShare RoundsUp roundedUp lost share_eq sum_share wholeShare_add)

section Revenue

def fulfilledStatuses : List OrderStatus := [.collected, .delivered, .completed]

def paidIshPaymentStatuses : List PaymentStatus := [.paid, .partiallyRefunded, .refunded]

def orderIsSale (o : Order) : Bool :=
  o.status ≠ .cancelled &&
    (o.paymentStatus ∈ paidIshPaymentStatuses || o.status ∈ fulfilledStatuses)

def saleTimestamp (o : Order) : Instant := o.externalPlacedAt.getD o.createdAt

def grossCents (orders : List Order) : Cents :=
  (orders.map fun o => if orderIsSale o then o.totalCents else 0).sum

def refundsCents (orders : List Order) : Cents :=
  (orders.map fun o => if orderIsSale o then o.refundAmountCents.getD 0 else 0).sum

def vatCents (orders : List Order) : Cents :=
  (orders.map fun o => if orderIsSale o then o.taxCents else 0).sum

-- The orders the dashboard's summary counts over.
def ordersSince (businessId : Uuid) (since : Instant) (t : Tables) : List Order :=
  t.orders.filter fun o => o.businessId = businessId ∧ since ≤ saleTimestamp o

end Revenue

@[ext]
structure Figures where
  orderCount : Int
  grossCents : Cents
  vatCents : Cents
  refundsCents : Cents
deriving DecidableEq, Repr

namespace Figures

instance : Zero Figures := ⟨⟨0, 0, 0, 0⟩⟩

instance : Add Figures := ⟨fun a b =>
  ⟨a.orderCount + b.orderCount, a.grossCents + b.grossCents, a.vatCents + b.vatCents,
    a.refundsCents + b.refundsCents⟩⟩

@[simp]
theorem grossCents_add (a b : Figures) : (a + b).grossCents = a.grossCents + b.grossCents := rfl

@[simp]
theorem vatCents_add (a b : Figures) : (a + b).vatCents = a.vatCents + b.vatCents := rfl

@[simp]
theorem refundsCents_add (a b : Figures) :
    (a + b).refundsCents = a.refundsCents + b.refundsCents := rfl

instance : AddCommMonoid Figures where
  add_assoc a b c := Figures.ext (add_assoc ..) (add_assoc ..) (add_assoc ..) (add_assoc ..)
  zero_add a := Figures.ext (zero_add _) (zero_add _) (zero_add _) (zero_add _)
  add_zero a := Figures.ext (add_zero _) (add_zero _) (add_zero _) (add_zero _)
  add_comm a b := Figures.ext (add_comm ..) (add_comm ..) (add_comm ..) (add_comm ..)
  nsmul := nsmulRec

def gross : Figures →+ Cents := ⟨⟨grossCents, rfl⟩, grossCents_add⟩

def vat : Figures →+ Cents := ⟨⟨vatCents, rfl⟩, vatCents_add⟩

def refunds : Figures →+ Cents := ⟨⟨refundsCents, rfl⟩, refundsCents_add⟩

end Figures

structure PaymentMethodBreakdown where
  paymentMethod : String
  orderCount : Int
  grossCents : Cents
  vatCents : Cents
  refundsCents : Cents
  netCents : Cents
deriving DecidableEq, Repr

structure PaymentMethodsReport where
  days : Nat
  since : Instant
  methods : List PaymentMethodBreakdown
  totalOrders : Int
  totalGrossCents : Cents
  totalRefundsCents : Cents
  totalNetCents : Cents
deriving DecidableEq, Repr

def legacyMethod (o : Order) : String :=
  if o.paymentMethod = some .split then "UNKNOWN"
  else (o.paymentMethod.map PaymentMethod.value).getD "UNKNOWN"

def legacyRow (o : Order) : String × Figures :=
  (legacyMethod o, ⟨1, o.totalCents, o.taxCents, o.refundAmountCents.getD 0⟩)

def legacyRows (orders : List Order) : Dict String Figures :=
  Dict.empty.tally (orders.map legacyRow)

-- The tax and the refund are taken as shares of the order's own figures, each rounded alone.
def allocationRow (o : Order) (nonCashTotal : Cents) (r : POSPaymentAllocation) :
    String × Figures :=
  let refundTotal := o.refundAmountCents.getD 0
  let refundCash := o.refundCashCents.getD 0
  let refundNonCashRemaining := max 0 (refundTotal - refundCash)
  (r.paymentMethod.value,
    { orderCount := 1
      grossCents := r.amountCents
      vatCents := if o.totalCents ≠ 0 then share o.taxCents o.totalCents r.amountCents else 0
      refundsCents :=
        if r.paymentMethod = .cash then min refundCash r.amountCents
        else if nonCashTotal ≠ 0 then share refundNonCashRemaining nonCashTotal r.amountCents
        else 0 })

def orderRows (t : Tables) (o : Order) : List (String × Figures) :=
  (orderAllocations o.id t).map (allocationRow o (nonCashAllocated o.id t))

def hasAllocations (t : Tables) (o : Order) : Bool := orderAllocations o.id t ≠ []

def breakdown (entry : String × Figures) : PaymentMethodBreakdown :=
  { paymentMethod := entry.1
    orderCount := entry.2.orderCount
    grossCents := entry.2.grossCents
    vatCents := entry.2.vatCents
    refundsCents := entry.2.refundsCents
    netCents := entry.2.grossCents - entry.2.refundsCents }

def paymentBuckets (t : Tables) (sales : List Order) : Dict String Figures :=
  let legacy := legacyRows (sales.filter fun o => ¬ hasAllocations t o)
  (Dict.empty.tally legacy.entries).tally
    ((sales.filter (hasAllocations t)).flatMap (orderRows t))

def getPaymentMethodBreakdown (t : Tables) (businessId : Uuid) (days : Nat) (now : Instant) :
    PaymentMethodsReport :=
  let since := now - days * Time.day
  let sales := (ordersSince businessId since t).filter orderIsSale
  let methods := ((paymentBuckets t sales).entries.map breakdown).mergeSort
    fun m m' => -m.grossCents ≤ -m'.grossCents
  { days := days
    since := since
    methods := methods
    totalOrders := (methods.map (·.orderCount)).sum
    totalGrossCents := (methods.map (·.grossCents)).sum
    totalRefundsCents := (methods.map (·.refundsCents)).sum
    totalNetCents := (methods.map (·.netCents)).sum }

-- What the columns' types and checks, the checkout and the refund endpoints leave in the tables.
structure Books where
  tables : Tables
  amounts : ∀ a ∈ tables.allocations, 0 < a.amountCents
  settled : ∀ o ∈ tables.orders, orderAllocations o.id tables ≠ [] →
    ((orderAllocations o.id tables).map (·.amountCents)).sum = o.totalCents
  refunds : ∀ o ∈ tables.orders,
    0 ≤ o.refundAmountCents.getD 0 ∧ o.refundAmountCents.getD 0 ≤ o.totalCents
  refundCash : ∀ o ∈ tables.orders, 0 ≤ o.refundCashCents.getD 0
  taxes : ∀ o ∈ tables.orders, 0 ≤ o.taxCents ∧ o.taxCents < 2 ^ 31
  totals : ∀ o ∈ tables.orders, o.totalCents < 2 ^ 31

-- No cent is lost or invented, against what the summary says of the same orders.
structure Conserves (report : PaymentMethodsReport) (orders : List Order) : Prop where
  gross : report.totalGrossCents = grossCents orders
  refunds : report.totalRefundsCents = refundsCents orders
  net : report.totalNetCents = grossCents orders - refundsCents orders
  vat : (report.methods.map (·.vatCents)).sum = vatCents orders
  within : ∀ m ∈ report.methods, m.refundsCents ≤ m.grossCents

section Drift

variable (t : Tables) (o : Order)

def refunded : Cents := o.refundAmountCents.getD 0

def refundedCash : Cents := o.refundCashCents.getD 0

def remaining : Cents := max 0 (refunded o - refundedCash o)

def amounts : List Cents := (orderAllocations o.id t).map (·.amountCents)

def cashAmounts : List Cents :=
  ((orderAllocations o.id t).filter fun a => a.paymentMethod = .cash).map (·.amountCents)

def nonCashAmounts : List Cents :=
  ((orderAllocations o.id t).filter fun a => a.paymentMethod ≠ .cash).map (·.amountCents)

def vatDrift : Int :=
  roundedUp o.taxCents o.totalCents (amounts t o) - lost o.taxCents o.totalCents (amounts t o)

-- Every cash allocation gives the whole of the cash it can; without any other the rest is dropped.
def cashDrift : Int :=
  ((cashAmounts t o).map (min (refundedCash o))).sum - min (refundedCash o) (refunded o)

def nonCashDrift : Int :=
  if nonCashAmounts t o = [] then -remaining o
  else roundedUp (remaining o) (nonCashAmounts t o).sum (nonCashAmounts t o) -
    lost (remaining o) (nonCashAmounts t o).sum (nonCashAmounts t o)

variable (a : POSPaymentAllocation)

def roundsUp : Int := if RoundsUp (remaining o) (nonCashAmounts t o).sum a.amountCents then 1 else 0

-- The share in what was refunded beyond all that was not paid in cash.
def overrun : Cents :=
  let nonCash := (nonCashAmounts t o).sum
  if a.paymentMethod ≠ .cash ∧ nonCash < remaining o then
    wholeShare (remaining o - nonCash) nonCash a.amountCents + roundsUp t o a
  else 0

def kept : Cents :=
  let nonCash := (nonCashAmounts t o).sum
  if a.paymentMethod = .cash then a.amountCents - min (refundedCash o) a.amountCents
  else if nonCash < remaining o then 0
  else a.amountCents - (wholeShare (remaining o) nonCash a.amountCents + roundsUp t o a)

end Drift

def under (method : String) (rows : List (String × Cents)) : Cents :=
  ((rows.filter fun row => row.1 = method).map (·.2)).sum

def overruns (t : Tables) (sales : List Order) : List (String × Cents) :=
  (sales.filter (hasAllocations t)).flatMap fun o =>
    (orderAllocations o.id t).map fun a => (a.paymentMethod.value, overrun t o a)

def keptRows (t : Tables) (sales : List Order) : List (String × Cents) :=
  (sales.filter fun o => ¬ hasAllocations t o).map (fun o =>
    (legacyMethod o, o.totalCents - refunded o)) ++
  (sales.filter (hasAllocations t)).flatMap fun o =>
    (orderAllocations o.id t).map fun a => (a.paymentMethod.value, kept t o a)

-- The roundings cancel out, every refund finds its bucket, and what was refunded beyond the
-- payments of a method is covered by its other sales.
structure Balanced (t : Tables) (sales : List Order) : Prop where
  vat : ((sales.filter (hasAllocations t)).map (vatDrift t)).sum = 0
  refunds : ((sales.filter (hasAllocations t)).map fun o =>
    cashDrift t o + nonCashDrift t o).sum = 0
  covered : ∀ method, under method (overruns t sales) ≤ under method (keptRows t sales)

section Buckets

variable {t : Tables} {sales : List Order} {method : String}

def saleRows (t : Tables) (sales : List Order) : List (String × Figures) :=
  (sales.filter fun o => ¬ hasAllocations t o).map legacyRow ++
    (sales.filter (hasAllocations t)).flatMap (orderRows t)

theorem paymentBuckets_sum :
    (paymentBuckets t sales).values.sum = ((saleRows t sales).map (·.2)).sum := by
  have hlegacy :=
    Dict.sum_tally_empty ((sales.filter fun o => ¬ hasAllocations t o).map legacyRow)
  rw [paymentBuckets, Dict.sum_tally, Dict.sum_tally_empty, saleRows, List.map_append,
    List.sum_append, ← hlegacy]
  rfl

theorem paymentBuckets_lookup : ((paymentBuckets t sales).lookup method).getD 0 =
    (((saleRows t sales).filter fun row => row.1 = method).map (·.2)).sum := by
  have hlegacy :=
    @Dict.lookup_tally_empty _ _ _ method _
      ((sales.filter fun o => ¬ hasAllocations t o).map legacyRow)
  rw [paymentBuckets, Dict.lookup_tally, Dict.lookup_tally_empty, Dict.sum_filter_entries, saleRows,
    List.filter_append, List.map_append, List.sum_append, ← hlegacy]
  rfl

variable {α : Type} {rows rows' : List (String × Cents)}

theorem under_append : under method (rows ++ rows') = under method rows + under method rows' := by
  simp [under]

theorem under_flatMap {l : List α} {f : α → List (String × Cents)} :
    under method (l.flatMap f) = (l.map fun x => under method (f x)).sum := by
  induction l with
  | nil => rfl
  | cons x l ih => rw [List.flatMap_cons, under_append, ih, List.map_cons, List.sum_cons]

theorem under_add {l : List α} {label : α → String} {u v : α → Cents} :
    under method (l.map fun x => (label x, u x + v x)) =
      under method (l.map fun x => (label x, u x)) + under method (l.map fun x => (label x, v x)) := by
  have hunder (w : α → Cents) : under method (l.map fun x => (label x, w x)) =
      ((l.filter fun x => label x = method).map w).sum := by
    rw [under, List.filter_map, List.map_map]
    rfl
  rw [hunder, hunder, hunder, List.sum_map_add]

end Buckets

section Report

variable {t : Tables} {businessId : Uuid} {days : Nat} {now : Instant}

def reportSales (t : Tables) (businessId : Uuid) (days : Nat) (now : Instant) : List Order :=
  (ordersSince businessId (now - days * Time.day) t).filter orderIsSale

def net : Figures →+ Cents := Figures.gross - Figures.refunds

theorem methods_perm : (getPaymentMethodBreakdown t businessId days now).methods.Perm
    ((paymentBuckets t (reportSales t businessId days now)).entries.map breakdown) :=
  List.mergeSort_perm _ _

theorem methods_sum (read : PaymentMethodBreakdown → Cents) (figure : Figures →+ Cents)
    (h : ∀ entry, read (breakdown entry) = figure entry.2) :
    ((getPaymentMethodBreakdown t businessId days now).methods.map read).sum =
      ((saleRows t (reportSales t businessId days now)).map fun row => figure row.2).sum := by
  have hread : read ∘ breakdown = figure ∘ Prod.snd := funext h
  rw [(methods_perm.map read).sum_eq, List.map_map, hread, ← List.map_map, ← map_list_sum]
  change figure (paymentBuckets t _).values.sum = _
  rw [paymentBuckets_sum, map_list_sum, List.map_map]
  rfl

theorem methods_within :
    (∀ m ∈ (getPaymentMethodBreakdown t businessId days now).methods,
      m.refundsCents ≤ m.grossCents) ↔
    ∀ method, 0 ≤ under method
      ((saleRows t (reportSales t businessId days now)).map fun row => (row.1, net row.2)) := by
  have hvalues : (∀ m ∈ (getPaymentMethodBreakdown t businessId days now).methods,
      m.refundsCents ≤ m.grossCents) ↔
      ∀ v ∈ (paymentBuckets t (reportSales t businessId days now)).values, 0 ≤ net v := by
    simp only [methods_perm.mem_iff, List.forall_mem_map, Dict.values]
    exact forall₂_congr fun entry _ => Int.sub_nonneg.symm
  rw [hvalues, Dict.forall_values_iff (P := fun v => 0 ≤ net v) le_rfl]
  refine forall_congr' fun method => ?_
  have hunder : under method ((saleRows t (reportSales t businessId days now)).map fun row =>
      (row.1, net row.2)) =
      net (((paymentBuckets t (reportSales t businessId days now)).lookup method).getD 0) := by
    rw [paymentBuckets_lookup, map_list_sum, under, List.filter_map, List.map_map, List.map_map]
    rfl
  rw [hunder]

theorem report_net : (getPaymentMethodBreakdown t businessId days now).totalNetCents =
    (getPaymentMethodBreakdown t businessId days now).totalGrossCents -
      (getPaymentMethodBreakdown t businessId days now).totalRefundsCents := by
  have hsum (rows : List (String × Figures)) : (rows.map fun row => net row.2).sum =
      (rows.map fun row => Figures.gross row.2).sum -
        (rows.map fun row => Figures.refunds row.2).sum := by
    induction rows with
    | nil => rfl
    | cons row rows ih =>
        simp only [List.map_cons, List.sum_cons, ih]
        have hrow : net row.2 = Figures.gross row.2 - Figures.refunds row.2 := rfl
        rw [hrow]
        ring
  have hnet := @methods_sum t businessId days now (·.netCents) net fun _ => rfl
  have hgross := @methods_sum t businessId days now (·.grossCents) Figures.gross fun _ => rfl
  have hrefunds := @methods_sum t businessId days now (·.refundsCents) Figures.refunds fun _ => rfl
  exact hnet.trans ((hsum _).trans (congrArg₂ _ hgross hrefunds).symm)

theorem sum_sales {amount : Order → Cents} {orders : List Order} :
    (orders.map fun o => if orderIsSale o then amount o else 0).sum =
      ((orders.filter orderIsSale).map amount).sum := by
  induction orders with
  | nil => rfl
  | cons o orders ih =>
      rw [List.map_cons, List.sum_cons, ih]
      cases h : orderIsSale o <;> simp [h]

-- The legacy sales and the others are all the sales.
theorem sum_split {amount : Order → Cents} {sales : List Order} :
    (sales.map amount).sum = ((sales.filter fun o => ¬ hasAllocations t o).map amount).sum +
      ((sales.filter (hasAllocations t)).map amount).sum := by
  induction sales with
  | nil => rfl
  | cons o sales ih =>
      rw [List.map_cons, List.sum_cons, ih]
      cases h : hasAllocations t o
      · simp [h, add_assoc]
      · simp [h]
        ring

end Report

section Orders

variable {books : Books} {o : Order} {a : POSPaymentAllocation}

theorem cents_lt_digits : (2 : Cents) ^ 31 + 1 < 2 ^ Binary64.digits := by decide

theorem remaining_bounds (ho : o ∈ books.tables.orders) :
    0 ≤ remaining o ∧ remaining o + 1 < 2 ^ Binary64.digits := by
  have hrefund := books.refunds o ho
  have hcash := books.refundCash o ho
  have htotal := books.totals o ho
  have hle : remaining o ≤ o.refundAmountCents.getD 0 :=
    max_le hrefund.1 (by unfold refunded refundedCash; linarith)
  exact ⟨le_max_left _ _, by linarith [cents_lt_digits]⟩

theorem allocation_pos (ha : a ∈ orderAllocations o.id books.tables) : 0 < a.amountCents :=
  books.amounts a (List.mem_of_mem_filter ha)

theorem amounts_nonneg {amount : Cents} (hamount : amount ∈ amounts books.tables o) :
    0 ≤ amount := by
  obtain ⟨a, ha, rfl⟩ := List.mem_map.mp hamount
  exact (allocation_pos ha).le

theorem nonCashAmounts_pos {amount : Cents} (hamount : amount ∈ nonCashAmounts books.tables o) :
    0 < amount := by
  obtain ⟨a, ha, rfl⟩ := List.mem_map.mp hamount
  exact allocation_pos (List.mem_of_mem_filter ha)

theorem nonCashAllocated_eq : nonCashAllocated o.id books.tables =
    (nonCashAmounts books.tables o).sum := rfl

theorem nonCash_sum_pos (h : nonCashAmounts books.tables o ≠ []) :
    0 < (nonCashAmounts books.tables o).sum :=
  List.sum_pos _ (fun _ => nonCashAmounts_pos) h

theorem sum_gross (ho : o ∈ books.tables.orders) (hallocated : hasAllocations books.tables o) :
    ((orderRows books.tables o).map fun row => Figures.gross row.2).sum = o.totalCents := by
  rw [orderRows, List.map_map]
  exact books.settled o ho (by simpa [hasAllocations] using hallocated)

theorem total_pos (ho : o ∈ books.tables.orders) (hallocated : hasAllocations books.tables o) :
    0 < o.totalCents := by
  have hne : orderAllocations o.id books.tables ≠ [] := by
    simpa [hasAllocations] using hallocated
  rw [← books.settled o ho hne]
  refine List.sum_pos _ (fun amount hamount => ?_) (by simpa using hne)
  obtain ⟨a, ha, rfl⟩ := List.mem_map.mp hamount
  exact allocation_pos ha

theorem sum_vat (ho : o ∈ books.tables.orders) (hallocated : hasAllocations books.tables o) :
    ((orderRows books.tables o).map fun row => Figures.vat row.2).sum =
      o.taxCents + vatDrift books.tables o := by
  have htotal := total_pos ho hallocated
  have htaxes := books.taxes o ho
  have hshares : (orderRows books.tables o).map (fun row => Figures.vat row.2) =
      (amounts books.tables o).map (share o.taxCents o.totalCents) := by
    rw [orderRows, amounts, List.map_map, List.map_map]
    exact List.map_congr_left fun a _ => if_pos htotal.ne'
  rw [hshares]
  refine sum_share htaxes.1 (by linarith [cents_lt_digits]) (fun _ => amounts_nonneg) ?_ htotal
  exact books.settled o ho (by simpa [hasAllocations] using hallocated)

-- The rows of an order, cash first.
theorem sum_refund_rows : ((orderRows books.tables o).map fun row => Figures.refunds row.2).sum =
    ((cashAmounts books.tables o).map (min (refundedCash o))).sum +
      ((nonCashAmounts books.tables o).map fun amount =>
        if (nonCashAmounts books.tables o).sum ≠ 0 then
          share (remaining o) (nonCashAmounts books.tables o).sum amount else 0).sum := by
  rw [orderRows, List.map_map, nonCashAllocated_eq]
  generalize (nonCashAmounts books.tables o).sum = nonCash
  unfold cashAmounts nonCashAmounts
  induction orderAllocations o.id books.tables with
  | nil => rfl
  | cons a allocations ih =>
      rw [List.map_cons, List.sum_cons, ih]
      rcases eq_or_ne a.paymentMethod .cash with hcash | hcash
      · have hrow : Figures.refunds (allocationRow o nonCash a).2 =
            min (refundedCash o) a.amountCents := if_pos hcash
        simp [hcash, hrow, add_assoc]
      · have hrow : Figures.refunds (allocationRow o nonCash a).2 =
            if nonCash ≠ 0 then share (remaining o) nonCash a.amountCents else 0 := if_neg hcash
        simp only [Function.comp_apply, hrow]
        simp [hcash, add_left_comm]

theorem cash_add_remaining (o : Order) :
    min (refundedCash o) (refunded o) + remaining o = refunded o := by
  unfold remaining
  rcases le_total (refundedCash o) (refunded o) with hle | hle
  · rw [min_eq_left hle, max_eq_right (sub_nonneg.mpr hle)]
    ring
  · rw [min_eq_right hle, max_eq_left (sub_nonpos.mpr hle), add_zero]

theorem sum_refunds (ho : o ∈ books.tables.orders) :
    ((orderRows books.tables o).map fun row => Figures.refunds row.2).sum =
      refunded o + (cashDrift books.tables o + nonCashDrift books.tables o) := by
  have hsplit := cash_add_remaining o
  obtain ⟨hnonneg, hsmall⟩ := remaining_bounds ho
  rw [sum_refund_rows]
  rcases eq_or_ne (nonCashAmounts books.tables o) [] with hnone | hsome
  · rw [nonCashDrift, if_pos hnone, hnone]
    simp only [List.map_nil, List.sum_nil, cashDrift]
    linarith
  · have hpos := nonCash_sum_pos hsome
    have hshares := sum_share hnonneg hsmall
      (fun _ hamount => (@nonCashAmounts_pos books o _ hamount).le) rfl hpos
    rw [nonCashDrift, if_neg hsome]
    simp only [if_pos hpos.ne', hshares, cashDrift]
    linarith

-- What is refunded in an allocation beyond its amount, or less than that.
theorem row_net (ho : o ∈ books.tables.orders) (ha : a ∈ orderAllocations o.id books.tables) :
    net (allocationRow o (nonCashAllocated o.id books.tables) a).2 =
      kept books.tables o a - overrun books.tables o a := by
  obtain ⟨hnonneg, hsmall⟩ := remaining_bounds ho
  rcases eq_or_ne a.paymentMethod .cash with hcash | hcash
  · have hrow : net (allocationRow o (nonCashAllocated o.id books.tables) a).2 =
        a.amountCents - min (refundedCash o) a.amountCents :=
      congrArg (a.amountCents - ·) (if_pos hcash)
    rw [hrow, kept, if_pos hcash, overrun, if_neg (by simp [hcash]), sub_zero]
  · have hmem : a.amountCents ∈ nonCashAmounts books.tables o :=
      List.mem_map_of_mem (List.mem_filter.mpr ⟨ha, by simpa using hcash⟩)
    have hpos := nonCash_sum_pos (List.ne_nil_of_mem hmem)
    have hle : a.amountCents ≤ (nonCashAmounts books.tables o).sum :=
      List.single_le_sum (fun _ h => (nonCashAmounts_pos h).le) _ hmem
    have hrow : net (allocationRow o (nonCashAllocated o.id books.tables) a).2 =
        a.amountCents - share (remaining o) (nonCashAmounts books.tables o).sum a.amountCents :=
      congrArg (a.amountCents - ·) ((if_neg hcash).trans (if_pos hpos.ne'))
    have hshare : share (remaining o) (nonCashAmounts books.tables o).sum a.amountCents =
        wholeShare (remaining o) (nonCashAmounts books.tables o).sum a.amountCents +
          roundsUp books.tables o a := share_eq hnonneg hsmall (allocation_pos ha).le hle hpos
    rw [hrow, hshare, kept, if_neg hcash, overrun]
    rcases lt_or_ge (nonCashAmounts books.tables o).sum (remaining o) with hbeyond | hwithin
    · have hwhole : wholeShare ((nonCashAmounts books.tables o).sum +
          (remaining o - (nonCashAmounts books.tables o).sum)) (nonCashAmounts books.tables o).sum
            a.amountCents = a.amountCents +
              wholeShare (remaining o - (nonCashAmounts books.tables o).sum)
                (nonCashAmounts books.tables o).sum a.amountCents := wholeShare_add hpos.ne'
      rw [add_sub_cancel] at hwhole
      rw [if_pos hbeyond, if_pos ⟨hcash, hbeyond⟩, hwhole]
      ring
    · rw [if_neg hwithin.not_gt, if_neg fun h => hwithin.not_gt h.2, sub_zero]

end Orders

section Conservation

variable {books : Books} {sales : List Order}

theorem saleRows_sum {t : Tables} {figure : Figures →+ Cents} {amount drift : Order → Cents}
    (hlegacy : ∀ o, figure (legacyRow o).2 = amount o)
    (hallocated : ∀ o ∈ sales, hasAllocations t o →
      ((orderRows t o).map fun row => figure row.2).sum = amount o + drift o) :
    ((saleRows t sales).map fun row => figure row.2).sum =
      (sales.map amount).sum + ((sales.filter (hasAllocations t)).map drift).sum := by
  have hlegacies : ((sales.filter fun o => ¬ hasAllocations t o).map legacyRow).map
      (fun row => figure row.2) = (sales.filter fun o => ¬ hasAllocations t o).map amount := by
    rw [List.map_map]
    exact List.map_congr_left fun o _ => hlegacy o
  have horders : (((sales.filter (hasAllocations t)).flatMap (orderRows t)).map fun row =>
      figure row.2).sum = ((sales.filter (hasAllocations t)).map amount).sum +
        ((sales.filter (hasAllocations t)).map drift).sum := by
    rw [← List.sum_map_add, List.map_flatMap, List.flatMap_def, List.sum_flatten, List.map_map]
    refine congrArg List.sum (List.map_congr_left fun o ho => ?_)
    obtain ⟨hmem, hrows⟩ := List.mem_filter.mp ho
    exact hallocated o hmem hrows
  have hsplit := @sum_split t amount sales
  rw [saleRows, List.map_append, List.sum_append, hlegacies, horders, hsplit]
  ring

theorem saleRows_net (hsales : ∀ o ∈ sales, o ∈ books.tables.orders) (method : String) :
    under method ((saleRows books.tables sales).map fun row => (row.1, net row.2)) +
      under method (overruns books.tables sales) = under method (keptRows books.tables sales) := by
  have hlegacies : ((sales.filter fun o => ¬ hasAllocations books.tables o).map legacyRow).map
      (fun row => (row.1, net row.2)) =
        (sales.filter fun o => ¬ hasAllocations books.tables o).map fun o =>
          (legacyMethod o, o.totalCents - refunded o) := by
    rw [List.map_map]
    rfl
  have horders : under method (((sales.filter (hasAllocations books.tables)).flatMap
      (orderRows books.tables)).map fun row => (row.1, net row.2)) +
        under method (overruns books.tables sales) =
      under method ((sales.filter (hasAllocations books.tables)).flatMap fun o =>
        (orderAllocations o.id books.tables).map fun a =>
          (a.paymentMethod.value, kept books.tables o a)) := by
    rw [overruns, List.map_flatMap, under_flatMap, under_flatMap, under_flatMap,
      ← List.sum_map_add]
    refine congrArg List.sum (List.map_congr_left fun o ho => ?_)
    have hmem := hsales o (List.mem_of_mem_filter ho)
    rw [orderRows, List.map_map]
    change under method ((orderAllocations o.id books.tables).map fun a => (a.paymentMethod.value,
      net (allocationRow o (nonCashAllocated o.id books.tables) a).2)) + _ = _
    rw [← under_add]
    refine congrArg (under method) (List.map_congr_left fun a ha => ?_)
    exact Prod.ext rfl (by rw [row_net hmem ha, sub_add_cancel])
  rw [saleRows, List.map_append, under_append, hlegacies, add_assoc, horders, keptRows,
    under_append]

theorem mem_orders {t : Tables} {businessId : Uuid} {days : Nat} {now : Instant} {o : Order}
    (ho : o ∈ reportSales t businessId days now) : o ∈ t.orders :=
  List.mem_of_mem_filter (List.mem_of_mem_filter ho)

-- A column of the report is the sum over the sales and what their own rows are off by.
theorem report_sum (books : Books) (businessId : Uuid) (days : Nat) (now : Instant)
    (read : PaymentMethodBreakdown → Cents) (figure : Figures →+ Cents)
    (hread : ∀ entry, read (breakdown entry) = figure entry.2) (amount drift : Order → Cents)
    (hlegacy : ∀ o, figure (legacyRow o).2 = amount o)
    (hallocated : ∀ o ∈ books.tables.orders, hasAllocations books.tables o →
      ((orderRows books.tables o).map fun row => figure row.2).sum = amount o + drift o) :
    ((getPaymentMethodBreakdown books.tables businessId days now).methods.map read).sum =
      ((ordersSince businessId (now - days * Time.day) books.tables).map fun o =>
        if orderIsSale o then amount o else 0).sum +
      (((reportSales books.tables businessId days now).filter
        (hasAllocations books.tables)).map drift).sum := by
  rw [sum_sales, methods_sum read figure hread]
  exact saleRows_sum hlegacy fun o ho => hallocated o (mem_orders ho)

theorem paymentMethods_conserve_iff (books : Books) (businessId : Uuid) (days : Nat)
    (now : Instant) :
    Conserves (getPaymentMethodBreakdown books.tables businessId days now)
        (ordersSince businessId (now - days * Time.day) books.tables) ↔
      Balanced books.tables (reportSales books.tables businessId days now) := by
  have hgross := report_sum books businessId days now (·.grossCents) Figures.gross (fun _ => rfl)
    Order.totalCents (fun _ => 0) (fun _ => rfl) fun o ho hallocated => by
      rw [sum_gross ho hallocated, add_zero]
  have hrefunds := report_sum books businessId days now (·.refundsCents) Figures.refunds
    (fun _ => rfl) refunded (fun o => cashDrift books.tables o + nonCashDrift books.tables o)
    (fun _ => rfl) fun o ho _ => sum_refunds ho
  have hnet : (getPaymentMethodBreakdown books.tables businessId days now).totalNetCents =
      (getPaymentMethodBreakdown books.tables businessId days now).totalGrossCents -
        (getPaymentMethodBreakdown books.tables businessId days now).totalRefundsCents :=
    report_net
  have hvat := report_sum books businessId days now (·.vatCents) Figures.vat (fun _ => rfl)
    Order.taxCents (vatDrift books.tables) (fun _ => rfl) fun o ho => sum_vat ho
  have hwithin : (∀ m ∈ (getPaymentMethodBreakdown books.tables businessId days now).methods,
      m.refundsCents ≤ m.grossCents) ↔ ∀ method,
        under method (overruns books.tables (reportSales books.tables businessId days now)) ≤
          under method (keptRows books.tables (reportSales books.tables businessId days now)) := by
    rw [methods_within]
    refine forall_congr' fun method => ?_
    rw [← saleRows_net (fun o => mem_orders) method]
    exact le_add_iff_nonneg_left _ |>.symm
  rw [List.sum_map_zero, add_zero] at hgross
  constructor
  · intro h
    refine ⟨?_, ?_, hwithin.mp h.within⟩
    · exact left_eq_add.mp (h.vat.symm.trans hvat)
    · exact left_eq_add.mp (h.refunds.symm.trans hrefunds)
  · intro h
    have hrefunds' : (getPaymentMethodBreakdown books.tables businessId days now).totalRefundsCents =
        refundsCents (ordersSince businessId (now - days * Time.day) books.tables) :=
      hrefunds.trans (by rw [h.refunds, add_zero]; rfl)
    refine ⟨hgross, hrefunds', ?_, hvat.trans (by rw [h.vat, add_zero]; rfl), hwithin.mpr h.covered⟩
    rw [hnet, hrefunds']
    exact congrArg (· - _) hgross

def thirdsSale : Order :=
  { id := 1, businessId := 7, customerId := none, orderNumber := "0001", status := .completed
    paymentStatus := .paid, orderMode := .pickup, source := .pos, subtotalCents := 1000
    deliveryFeeCents := 0, totalCents := 1000, currency := "ZAR", paymentMethod := some .split
    taxCents := 130, createdAt := 50 * Time.day }

def thirdsAllocation (line : Nat) (method : PaymentMethod) (amount : Cents) :
    POSPaymentAllocation :=
  { id := (1, line), businessId := 7, orderId := 1, tillSessionId := some 3
    paymentMethod := method, amountCents := amount, createdAt := 50 * Time.day }

def thirds : Books where
  tables :=
    { orders := [thirdsSale]
      allocations := [thirdsAllocation 0 .cash 333, thirdsAllocation 1 .card 333,
        thirdsAllocation 2 .other 334] }
  amounts := by decide
  settled := by decide
  refunds := by decide
  refundCash := by decide
  taxes := by decide
  totals := by decide

-- Three times 43 cents of the 130.
theorem thirds_lose_vat : ¬ Conserves (getPaymentMethodBreakdown thirds.tables 7 30 (60 * Time.day))
    (ordersSince 7 (60 * Time.day - 30 * Time.day) thirds.tables) := by
  intro h
  have hvat := report_sum thirds 7 30 (60 * Time.day) (·.vatCents) Figures.vat (fun _ => rfl)
    Order.taxCents (vatDrift thirds.tables) (fun _ => rfl) fun o ho => sum_vat ho
  have hdrift : (((reportSales thirds.tables 7 30 (60 * Time.day)).filter
      (hasAllocations thirds.tables)).map (vatDrift thirds.tables)).sum = -1 := by decide +kernel
  have hzero := left_eq_add.mp (h.vat.symm.trans hvat)
  exact absurd (hdrift.symm.trans hzero) (by decide)

end Conservation

end NextgenBackend.RoutesAnalytics
