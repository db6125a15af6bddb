import Mathlib
import NextgenBackend.ExternalOrders.RowAccounting

namespace NextgenBackend.ExternalOrders.Adapters

-- An order as it is worth, whatever the numbers and the sequence of its rows.
structure OrderSummary where
  externalOrderId : String
  placedAt : Instant
  status : Option String
  grossCents : Option Cents
  lines : Multiset ExternalOrderLine

def unnumbered (line : ExternalOrderLine) : ExternalOrderLine :=
  { line with sourceRow := 0 }

def summary (order : CanonicalExternalOrder) : OrderSummary where
  externalOrderId := order.externalOrderId
  placedAt := order.placedAt
  status := order.status
  grossCents := order.grossCents
  lines := ↑(order.lines.map unnumbered)

def laterStatus (existing status : Option String) : Option String :=
  if existing = none ∧ status ≠ some "" then status else existing

def addCents (existing cents : Option Cents) : Option Cents :=
  cents.elim existing fun cents => some (existing.getD 0 + cents)

section Rows

variable (py : Standard) (resolved : Dict String String)

def joined (existing : Option OrderSummary) (row : Row) : Option OrderSummary :=
  if orderId resolved row = "" ∨ itemText resolved row = "" then existing
  else
    match rowQuantity resolved row with
    | none => existing
    | some quantity =>
        let line := lineOf resolved (row, 0) quantity
        match existing, rowPlacedAt py resolved row with
        | none, none => none
        | none, some placedAt =>
            some ⟨orderId resolved row, placedAt, rowStatus resolved row, line.grossCents, {line}⟩
        | some order, placedAt =>
            some
              { order with
                placedAt := placedAt.elim order.placedAt (min order.placedAt)
                status := laterStatus order.status (rowStatus resolved row)
                grossCents := addCents order.grossCents line.grossCents
                lines := line ::ₘ order.lines }

variable {py resolved} {entries : List (Row × Nat)} {k : String}

theorem summary_append {order : CanonicalExternalOrder} {placedAt : Option Instant}
    {status : Option String} {line : ExternalOrderLine} :
    summary (order.append placedAt status line) =
      { summary order with
        placedAt := placedAt.elim order.placedAt (min order.placedAt)
        status := laterStatus order.status status
        grossCents := addCents order.grossCents line.grossCents
        lines := unnumbered line ::ₘ (summary order).lines } := by
  have hlines : (↑((order.lines ++ [line]).map unnumbered) : Multiset ExternalOrderLine) =
      unnumbered line ::ₘ ↑(order.lines.map unnumbered) := by
    rw [List.map_append, ← Multiset.coe_add, add_comm]
    rfl
  simp only [summary, CanonicalExternalOrder.append, hlines]
  rfl

theorem joined_summary (existing : Option CanonicalExternalOrder) (entry : Row × Nat) :
    ((admitted py resolved existing entry).or existing).map summary =
      joined py resolved (existing.map summary) entry.1 := by
  unfold admitted joined
  split
  · simp
  cases rowQuantity resolved entry.1 with
  | none => simp
  | some quantity =>
      cases existing with
      | none => cases rowPlacedAt py resolved entry.1 <;> rfl
      | some order =>
          change some (summary (order.append _ _ _)) = _
          rw [summary_append]
          rfl

-- Only the rows of an order decide what becomes of it.
theorem lookup_summary :
    ((adapted py resolved entries).grouped.lookup k).map summary =
      (ofOrder resolved (entries.map (·.1)) k).foldl (joined py resolved) none := by
  induction entries using List.reverseRecOn with
  | nil => rfl
  | append_singleton entries entry ih =>
      rw [lookup_append, ofOrder, List.map_append, List.filter_append, List.foldl_append]
      rcases eq_or_ne k (orderId resolved entry.1) with rfl | hne
      · rw [if_pos rfl, joined_summary, ih]
        simp
      · rw [if_neg hne, ih]
        simp [hne.symm]

-- Statuses that decide an order's status in either sequence.
abbrev Compatible (status status' : Option String) : Prop :=
  status = status' ∨ (status = none ∧ status' ≠ some "") ∨ (status' = none ∧ status ≠ some "")

variable (py resolved) in
-- Two complete rows of one order both have a date or both have none, and dated ones do not
-- contradict each other's status.
def Agree (row row' : Row) : Prop :=
  orderId resolved row ≠ "" → orderId resolved row = orderId resolved row' →
    IsComplete resolved row → IsComplete resolved row' →
      (IsDated py resolved row ↔ IsDated py resolved row') ∧
        (IsDated py resolved row → Compatible (rowStatus resolved row) (rowStatus resolved row'))

theorem laterStatus_comm {existing status status' : Option String}
    (h : Compatible status status') :
    laterStatus (laterStatus existing status) status' =
      laterStatus (laterStatus existing status') status := by
  unfold laterStatus
  cases existing with
  | some text => simp
  | none =>
      rcases h with rfl | ⟨rfl, h⟩ | ⟨rfl, h⟩
      · rfl
      · simp [h]
      · cases status <;> simp [h]

theorem laterStatus_first {status status' : Option String} (h : Compatible status status') :
    laterStatus status status' = laterStatus status' status := by
  unfold laterStatus
  rcases h with rfl | ⟨rfl, h⟩ | ⟨rfl, h⟩
  · rfl
  · cases status' <;> simp_all
  · cases status <;> simp_all

theorem addCents_comm (existing a b : Option Cents) :
    addCents (addCents existing a) b = addCents (addCents existing b) a := by
  cases a <;> cases b <;> simp [addCents, add_right_comm]

theorem addCents_first (a b : Option Cents) : addCents a b = addCents b a := by
  cases a <;> cases b <;> simp [addCents, add_comm]

theorem joined_incomplete {row : Row} (h : ¬ IsComplete resolved row)
    (existing : Option OrderSummary) : joined py resolved existing row = existing := by
  unfold joined
  split
  · rfl
  next hblank =>
    cases hquantity : rowQuantity resolved row with
    | none => rfl
    | some quantity => exact absurd ⟨(not_or.mp hblank).2, by simp [hquantity]⟩ h

theorem joined_comm {row row' : Row} (hid : orderId resolved row = orderId resolved row')
    (hcomplete : IsComplete resolved row) (hcomplete' : IsComplete resolved row')
    (hdated : IsDated py resolved row ∧ IsDated py resolved row')
    (hstatus : Compatible (rowStatus resolved row) (rowStatus resolved row'))
    (existing : Option OrderSummary) :
    joined py resolved (joined py resolved existing row) row' =
      joined py resolved (joined py resolved existing row') row := by
  obtain ⟨quantity, hquantity⟩ := Option.ne_none_iff_exists'.mp hcomplete.2
  obtain ⟨quantity', hquantity'⟩ := Option.ne_none_iff_exists'.mp hcomplete'.2
  obtain ⟨placedAt, hplaced⟩ := Option.ne_none_iff_exists'.mp hdated.1
  obtain ⟨placedAt', hplaced'⟩ := Option.ne_none_iff_exists'.mp hdated.2
  by_cases hblank : orderId resolved row = ""
  · simp [joined, hblank, hid ▸ hblank]
  have hblank' : ¬ orderId resolved row' = "" := hid ▸ hblank
  cases existing with
  | none =>
      simp only [joined, hblank, hblank', hcomplete.1, hcomplete'.1, or_self, if_false, hquantity,
        hquantity', hplaced, hplaced', Option.elim_some, Option.some.injEq, OrderSummary.mk.injEq]
      exact ⟨hid, min_comm _ _, laterStatus_first hstatus, addCents_first _ _,
        Multiset.cons_swap _ _ _⟩
  | some order =>
      simp only [joined, hblank, hblank', hcomplete.1, hcomplete'.1, or_self, if_false, hquantity,
        hquantity', hplaced, hplaced', Option.elim_some, Option.some.injEq, OrderSummary.mk.injEq]
      exact ⟨trivial, min_right_comm _ _ _, laterStatus_comm hstatus, addCents_comm _ _ _,
        Multiset.cons_swap _ _ _⟩

theorem joined_none {row : Row} (h : IsComplete resolved row → ¬ IsDated py resolved row) :
    joined py resolved none row = none := by
  by_cases hcomplete : IsComplete resolved row
  · have hplaced : rowPlacedAt py resolved row = none := not_not.mp (h hcomplete)
    unfold joined
    split
    · rfl
    · cases rowQuantity resolved row with
      | none => rfl
      | some quantity => simp [hplaced]
  · exact joined_incomplete hcomplete none

theorem joined_undated {rows : List Row}
    (h : ∀ row ∈ rows, IsComplete resolved row → ¬ IsDated py resolved row) :
    rows.foldl (joined py resolved) none = none := by
  induction rows with
  | nil => rfl
  | cons row rows ih =>
      rw [List.forall_mem_cons] at h
      rw [List.foldl_cons, joined_none h.1]
      exact ih h.2

theorem joined_perm {rows rows' : List Row} (hperm : rows.Perm rows')
    (hid : ∀ row ∈ rows, orderId resolved row = k) (hk : k ≠ "")
    (hagree : ∀ row ∈ rows, ∀ row' ∈ rows, Agree py resolved row row') :
    rows.foldl (joined py resolved) none = rows'.foldl (joined py resolved) none := by
  by_cases hbegun : ∃ row ∈ rows, IsComplete resolved row ∧ IsDated py resolved row
  · obtain ⟨first, hfirst, hcomplete, hdated⟩ := hbegun
    have hall {row : Row} (hrow : row ∈ rows) (h : IsComplete resolved row) :
        IsDated py resolved row :=
      (hagree first hfirst row hrow ((hid first hfirst).symm ▸ hk)
        ((hid first hfirst).trans (hid row hrow).symm) hcomplete h).1.mp hdated
    refine hperm.foldl_eq' (fun row hrow row' hrow' existing => ?_) none
    by_cases h : IsComplete resolved row
    swap
    · rw [joined_incomplete h, joined_incomplete h]
    by_cases h' : IsComplete resolved row'
    swap
    · rw [joined_incomplete h', joined_incomplete h']
    have hsame := (hid row hrow).trans (hid row' hrow').symm
    refine joined_comm hsame h h' ⟨hall hrow h, hall hrow' h'⟩ ?_ existing
    exact (hagree row hrow row' hrow' ((hid row hrow).symm ▸ hk) hsame h h').2 (hall hrow h)
  · have hundated : ∀ row ∈ rows, IsComplete resolved row → ¬ IsDated py resolved row :=
      fun row hrow hcomplete hdated => hbegun ⟨row, hrow, hcomplete, hdated⟩
    rw [joined_undated hundated,
      joined_undated fun row hrow => hundated row (hperm.mem_iff.mpr hrow)]

variable (py resolved) in
-- A row that no sequence of agreeing rows can place.
def IsTurnedDown (row : Row) : Prop :=
  ¬ IsBlank resolved row ∧
    ¬ (orderId resolved row ≠ "" ∧ IsComplete resolved row ∧ IsDated py resolved row)

instance (row : Row) : Decidable (IsTurnedDown py resolved row) :=
  inferInstanceAs (Decidable (_ ∧ _))

theorem issues_eq
    (hagree : ∀ row ∈ entries.map (·.1), ∀ row' ∈ entries.map (·.1), Agree py resolved row row') :
    (adapted py resolved entries).issues.map (·.message) =
      ((entries.map (·.1)).filter (IsTurnedDown py resolved ·)).map
        (complaint py resolved) := by
  induction entries using List.reverseRecOn with
  | nil => rfl
  | append_singleton entries entry ih =>
      simp only [List.map_append, List.map_cons, List.map_nil, List.mem_append,
        List.mem_singleton] at hagree
      have hadmitted : (admitted py resolved ((adapted py resolved entries).grouped.lookup
          (orderId resolved entry.1)) entry).isSome ↔
          orderId resolved entry.1 ≠ "" ∧ IsComplete resolved entry.1 ∧
            IsDated py resolved entry.1 := by
        rw [admitted_isSome_iff]
        refine and_congr_right fun hid => and_congr_right fun hcomplete => ?_
        rw [lookup_isSome_iff hid]
        constructor
        · rintro (hdated | ⟨row, hrow, hready, hdated⟩)
          · exact hdated
          · obtain ⟨earlier, hmem, hsame, rfl⟩ := mem_carrying.mp hrow
            exact (hagree _ (.inl (List.mem_map_of_mem hmem)) _ (.inr rfl) (hsame.symm ▸ hid)
              hsame hready hcomplete).1.mp hdated
        · exact .inl
      rw [adapted_append, List.map_append, List.filter_append, List.map_append,
        ← ih fun row hrow row' hrow' => hagree row (.inl hrow) row' (.inl hrow')]
      rcases step_cases py resolved (adapted py resolved entries) entry with
        ⟨hblank, hstep⟩ | ⟨order, hsome, hstep⟩ | ⟨hblank, hnone, hstep⟩
      · have hkept : ¬ IsTurnedDown py resolved entry.1 := fun h => h.1 hblank
        simp [hstep, hkept]
      · have hkept : ¬ IsTurnedDown py resolved entry.1 := fun h =>
          h.2 (hadmitted.mp (by simp [hsome]))
        simp [hstep, hkept, Adapted.put]
      · have hturned : IsTurnedDown py resolved entry.1 := by
          refine ⟨hblank, fun h => ?_⟩
          have hsome := hadmitted.mpr h
          simp [hnone] at hsome
        simp [hstep, hturned, Adapted.reject]

theorem adapted_perm {rows rows' : List Row} (hperm : rows.Perm rows')
    (hagree : ∀ row ∈ rows, ∀ row' ∈ rows, Agree py resolved row row') :
    ((adapted py resolved (numbered rows)).grouped.values.map summary).Perm
        ((adapted py resolved (numbered rows')).grouped.values.map summary) ∧
      ((adapted py resolved (numbered rows)).issues.map (·.message)).Perm
        ((adapted py resolved (numbered rows')).issues.map (·.message)) := by
  have hagree' : ∀ row ∈ rows', ∀ row' ∈ rows', Agree py resolved row row' :=
    fun row hrow row' hrow' => hagree row (hperm.mem_iff.mpr hrow) row' (hperm.mem_iff.mpr hrow')
  constructor
  · refine Dict.values_perm fun k => ?_
    rcases eq_or_ne k "" with rfl | hk
    · rw [lookup_no_id, lookup_no_id]
    · rw [lookup_summary, lookup_summary, numbered_rows, numbered_rows]
      refine joined_perm (hperm.filter _) (fun row hrow => ?_) hk fun row hrow row' hrow' => ?_
      · exact of_decide_eq_true (List.mem_filter.mp hrow).2
      · exact hagree row (List.mem_filter.mp hrow).1 row' (List.mem_filter.mp hrow').1
  · rw [issues_eq (by rwa [numbered_rows]), issues_eq (by rwa [numbered_rows]), numbered_rows,
      numbered_rows]
    exact (hperm.filter _).map _

def lineCount (order : Option OrderSummary) : Nat :=
  order.elim 0 fun order => order.lines.card

theorem joined_first {row : Row} {order : OrderSummary}
    (h : joined py resolved none row = some order) :
    order.lines.card = 1 ∧ order.status = rowStatus resolved row := by
  unfold joined at h
  split at h
  · simp at h
  split at h
  · simp at h
  cases hplaced : rowPlacedAt py resolved row with
  | none => simp [hplaced] at h
  | some placedAt =>
      rw [hplaced] at h
      rw [← Option.some.inj h]
      exact ⟨rfl, rfl⟩

theorem joined_begins {row : Row} (hid : orderId resolved row ≠ "")
    (hcomplete : IsComplete resolved row) (hdated : IsDated py resolved row) :
    ∃ order, joined py resolved none row = some order := by
  obtain ⟨quantity, hquantity⟩ := Option.ne_none_iff_exists'.mp hcomplete.2
  obtain ⟨placedAt, hplaced⟩ := Option.ne_none_iff_exists'.mp hdated
  exact ⟨_, by simp only [joined, hid, hcomplete.1, or_self, if_false, hquantity, hplaced]; rfl⟩

theorem joined_some (py : Standard) (order : OrderSummary) {row : Row} (hid : orderId resolved row ≠ "") :
    ∃ order', joined py resolved (some order) row = some order' ∧
      order'.lines.card = order.lines.card + (if IsComplete resolved row then 1 else 0) ∧
      ∃ status, order'.status = laterStatus order.status status := by
  by_cases hcomplete : IsComplete resolved row
  · obtain ⟨quantity, hquantity⟩ := Option.ne_none_iff_exists'.mp hcomplete.2
    refine ⟨_, by simp only [joined, hid, hcomplete.1, or_self, if_false, hquantity]; rfl, ?_,
      rowStatus resolved row, rfl⟩
    simp [hcomplete.1, hquantity]
  · exact ⟨order, joined_incomplete hcomplete _, by rw [if_neg hcomplete]; rfl, none,
      by simp [laterStatus]⟩

theorem joined_all (py : Standard) {rows : List Row} (order : OrderSummary)
    (hid : ∀ row ∈ rows, orderId resolved row ≠ "") :
    ∃ order', rows.foldl (joined py resolved) (some order) = some order' ∧
      order'.lines.card = order.lines.card + rows.countP (IsComplete resolved ·) ∧
      (∀ text, order.status = some text → order'.status = some text) ∧
      (order.status = none → order'.status ≠ some "") := by
  induction rows generalizing order with
  | nil => exact ⟨order, rfl, rfl, fun _ h => h, fun h => by simp [h]⟩
  | cons row rows ih =>
      rw [List.forall_mem_cons] at hid
      obtain ⟨next, hnext, hcard, status, hstatus⟩ := joined_some py order hid.1
      obtain ⟨last, hlast, hcount, hkept, hunset⟩ := ih next hid.2
      refine ⟨last, by rw [List.foldl_cons, hnext, hlast], ?_, ?_, ?_⟩
      · rw [hcount, hcard, List.countP_cons]
        simp only [decide_eq_true_eq]
        omega
      · intro text htext
        exact hkept text (by rw [hstatus, htext]; rfl)
      · intro hnone
        rw [hnone, laterStatus] at hstatus
        cases hnext' : next.status with
        | none => exact hunset hnext'
        | some text =>
            rw [hkept text hnext']
            rintro ⟨rfl⟩
            rw [hnext'] at hstatus
            split at hstatus
            next hnew => exact hnew.2 hstatus.symm
            next => simp at hstatus

theorem lineCount_le {rows : List Row} (hid : ∀ row ∈ rows, orderId resolved row ≠ "") :
    lineCount (rows.foldl (joined py resolved) none) ≤
      rows.countP (IsComplete resolved ·) := by
  induction rows with
  | nil => exact Nat.le_refl 0
  | cons row rows ih =>
      rw [List.forall_mem_cons] at hid
      rw [List.foldl_cons, List.countP_cons]
      by_cases hcomplete : IsComplete resolved row
      · cases hjoined : joined py resolved none row with
        | none => exact (ih hid.2).trans (Nat.le_add_right _ _)
        | some order =>
            obtain ⟨last, hlast, hcount, -⟩ := joined_all py order hid.2
            rw [hlast, lineCount, Option.elim_some, hcount, (joined_first hjoined).1,
              if_pos (decide_eq_true hcomplete)]
            omega
      · rw [joined_incomplete hcomplete]
        exact (ih hid.2).trans (Nat.le_add_right _ _)

-- An order that its first row begins takes every complete row of the file.
theorem begun_count {row : Row} {rows : List Row} (hid : ∀ row' ∈ row :: rows,
    orderId resolved row' ≠ "") (hcomplete : IsComplete resolved row)
    (hdated : IsDated py resolved row) :
    lineCount ((row :: rows).foldl (joined py resolved) none) =
      (row :: rows).countP (IsComplete resolved ·) := by
  rw [List.forall_mem_cons] at hid
  obtain ⟨order, horder⟩ := joined_begins hid.1 hcomplete hdated
  obtain ⟨last, hlast, hcount, -⟩ := joined_all py order hid.2
  rw [List.foldl_cons, horder, hlast, lineCount, Option.elim_some, hcount, (joined_first horder).1,
    List.countP_cons, if_pos (decide_eq_true hcomplete), add_comm]

theorem unbegun_count {row : Row} {rows : List Row} (hid : ∀ row' ∈ row :: rows,
    orderId resolved row' ≠ "") (hcomplete : IsComplete resolved row)
    (hdated : ¬ IsDated py resolved row) :
    lineCount ((row :: rows).foldl (joined py resolved) none) <
      (row :: rows).countP (IsComplete resolved ·) := by
  rw [List.forall_mem_cons] at hid
  rw [List.foldl_cons, joined_none fun _ => hdated, List.countP_cons,
    if_pos (decide_eq_true hcomplete)]
  exact Nat.lt_succ_of_le (lineCount_le hid.2)

theorem summary_of_perm {entries entries' : List (Row × Nat)}
    (h : ((adapted py resolved entries).grouped.values.map summary).Perm
      ((adapted py resolved entries').grouped.values.map summary)) (k : String) :
    ((adapted py resolved entries).grouped.lookup k).map summary =
      ((adapted py resolved entries').grouped.lookup k).map summary := by
  have hmem {entries entries' : List (Row × Nat)} {read : OrderSummary}
      (h : ((adapted py resolved entries).grouped.values.map summary).Perm
        ((adapted py resolved entries').grouped.values.map summary))
      (hread : ((adapted py resolved entries).grouped.lookup k).map summary = some read) :
      ((adapted py resolved entries').grouped.lookup k).map summary = some read := by
    obtain ⟨order, hlookup, rfl⟩ := Option.map_eq_some_iff.mp hread
    have hvalue := List.mem_map_of_mem (f := summary) (Dict.mem_values_iff.mpr ⟨k, hlookup⟩)
    obtain ⟨order', horder', hsame⟩ := List.mem_map.mp (h.subset hvalue)
    obtain ⟨k', hlookup'⟩ := Dict.mem_values_iff.mp horder'
    have hk : k' = k := by
      rw [← lookup_id hlookup', ← lookup_id hlookup]
      exact congrArg OrderSummary.externalOrderId hsame
    rw [← hk, hlookup', Option.map_some, hsame]
  exact Option.ext fun read => ⟨hmem h, hmem h.symm⟩

theorem exists_first {rows : List Row} {row : Row} (hrow : row ∈ rows) :
    ∃ rest, rows.Perm (row :: rest) := by
  obtain ⟨before, after, rfl⟩ := List.append_of_mem hrow
  exact ⟨before ++ after, List.perm_middle⟩

-- The order of a file's first row begins with that row.
theorem summary_first {row : Row} {rest : List Row} :
    ((adapted py resolved (numbered (row :: rest))).grouped.lookup
      (orderId resolved row)).map summary =
        (row :: ofOrder resolved rest (orderId resolved row)).foldl (joined py resolved) none := by
  rw [lookup_summary, numbered_rows, ofOrder, List.filter_cons_of_pos (by simp)]

-- If each row of an order may come first without a difference, the rows agree.
theorem agree_of_first {row row' : Row} {rest rest' : List Row}
    (hperm : (row :: rest).Perm (row' :: rest'))
    (hsame : ((adapted py resolved (numbered (row :: rest))).grouped.values.map summary).Perm
      ((adapted py resolved (numbered (row' :: rest'))).grouped.values.map summary)) :
    Agree py resolved row row' := by
  intro hid heq hcomplete hcomplete'
  have hfold := summary_of_perm hsame (orderId resolved row)
  rw [summary_first, heq, summary_first] at hfold
  rw [heq] at hid
  have hgroup (row : Row) (rest : List Row) (hrow : orderId resolved row = orderId resolved row') :
      ∀ other ∈ row :: ofOrder resolved rest (orderId resolved row'),
        orderId resolved other ≠ "" := by
    rw [List.forall_mem_cons]
    refine ⟨hrow ▸ hid, fun other hother => ?_⟩
    rwa [of_decide_eq_true (List.mem_filter.mp hother).2]
  have hids := hgroup row rest heq
  have hids' := hgroup row' rest' rfl
  have hcount : (row :: ofOrder resolved rest (orderId resolved row')).countP
      (IsComplete resolved ·) = (row' :: ofOrder resolved rest' (orderId resolved row')).countP
        (IsComplete resolved ·) := by
    have hfilter := hperm.filter fun other => orderId resolved other = orderId resolved row'
    rw [List.filter_cons_of_pos (by simp [heq]), List.filter_cons_of_pos (by simp)] at hfilter
    exact hfilter.countP_eq _
  have hdates : IsDated py resolved row ↔ IsDated py resolved row' := by
    constructor
    · intro hdated
      by_contra hundated
      have hall := begun_count hids hcomplete hdated
      have hless := unbegun_count hids' hcomplete' (not_not.mpr hundated)
      rw [hfold, hcount] at hall
      omega
    · intro hdated
      by_contra hundated
      have hall := begun_count hids' hcomplete' hdated
      have hless := unbegun_count hids hcomplete (not_not.mpr hundated)
      rw [hfold, hcount] at hless
      omega
  refine ⟨hdates, fun hdated => ?_⟩
  obtain ⟨order, horder⟩ := joined_begins (hids row List.mem_cons_self) hcomplete hdated
  obtain ⟨order', horder'⟩ := joined_begins (hids' row' List.mem_cons_self) hcomplete'
    (hdates.mp hdated)
  obtain ⟨last, hlast, -, hkept, hunset⟩ := joined_all py order
    (List.forall_mem_cons.mp hids).2
  obtain ⟨last', hlast', -, hkept', hunset'⟩ := joined_all py order'
    (List.forall_mem_cons.mp hids').2
  rw [List.foldl_cons, List.foldl_cons, horder, horder', hlast, hlast'] at hfold
  obtain rfl := Option.some.inj hfold
  rw [(joined_first horder).2] at hkept hunset
  rw [(joined_first horder').2] at hkept' hunset'
  cases hstatus : rowStatus resolved row with
  | none =>
      cases hstatus' : rowStatus resolved row' with
      | none => exact .inl rfl
      | some text => exact .inr (.inl ⟨rfl, hkept' text hstatus' ▸ hunset hstatus⟩)
  | some text =>
      cases hstatus' : rowStatus resolved row' with
      | none => exact .inr (.inr ⟨rfl, hkept text hstatus ▸ hunset' hstatus'⟩)
      | some text' => exact .inl ((hkept text hstatus).symm.trans (hkept' text' hstatus'))

end Rows

-- What two readings of one report have in common, but for the numbers of the rows.
structure SameReport (result result' : AdapterResult) : Prop where
  orders : (result.orders.map summary).Perm (result'.orders.map summary)
  issues : (result.issues.map (·.message)).Perm (result'.issues.map (·.message))

-- Every row of a file has the headings of the file.
structure Report where
  headings : List String
  rows : List Row
  headed : ∀ row ∈ rows, row.cells.keys = headings

theorem noteHeading_seen {headings keys : List String}
    (h : ∀ key ∈ keys, key ≠ "" → key ∈ headings) : keys.foldl noteHeading headings = headings := by
  induction keys with
  | nil => rfl
  | cons key keys ih =>
      rw [List.forall_mem_cons] at h
      have hkey : noteHeading headings key = headings := if_neg fun hnew => hnew.2 (h.1 hnew.1)
      rw [List.foldl_cons, hkey]
      exact ih h.2

theorem mem_noteHeading {headings keys : List String} {key : String}
    (h : key ∈ headings ∨ (key ∈ keys ∧ key ≠ "")) : key ∈ keys.foldl noteHeading headings := by
  induction keys generalizing headings with
  | nil => simpa using h
  | cons first keys ih =>
      refine ih ?_
      unfold noteHeading
      rcases h with h | ⟨h, hne⟩
      · left
        split <;> simp [h]
      · rcases List.mem_cons.mp h with rfl | h
        · left
          split
          · simp
          next hseen => simpa [hne] using hseen
        · exact .inr ⟨h, hne⟩

theorem detectedHeadings_eq {headings : List String} {rows : List Row} (hrows : rows ≠ [])
    (hheaded : ∀ row ∈ rows, row.cells.keys = headings) :
    detectedHeadings rows = headings.foldl noteHeading [] := by
  cases rows with
  | nil => exact absurd rfl hrows
  | cons row rows =>
      rw [List.forall_mem_cons] at hheaded
      unfold detectedHeadings
      rw [List.take_succ_cons, List.flatMap_cons, List.foldl_append, hheaded.1]
      refine noteHeading_seen fun key hkey hne => mem_noteHeading (.inr ⟨?_, hne⟩)
      obtain ⟨other, hother, hmem⟩ := List.mem_flatMap.mp hkey
      exact hheaded.2 other (List.mem_of_mem_take hother) ▸ hmem

theorem resolvedMapping_perm {report : Report} {rows : List Row} (hperm : report.rows.Perm rows)
    (mappingOverride : Dict String String) :
    resolvedMapping rows mappingOverride = resolvedMapping report.rows mappingOverride := by
  rcases eq_or_ne report.rows [] with hnil | hrows
  · rw [hnil] at hperm
    rw [hnil, List.nil_perm.mp hperm]
  · have hrows' : rows ≠ [] := fun h => hrows (List.perm_nil.mp (h ▸ hperm))
    have hheaded : ∀ row ∈ rows, row.cells.keys = report.headings :=
      fun row hrow => report.headed row (hperm.mem_iff.mpr hrow)
    rw [resolvedMapping, resolvedMapping, detectedHeadings_eq hrows report.headed,
      detectedHeadings_eq hrows' hheaded]

def IsOrderFree (py : Standard) (report : Report) (mappingOverride : Dict String String) : Prop :=
  ∀ rows, report.rows.Perm rows → ∃ result result',
    adaptRows py report.rows mappingOverride = .ok result ∧
      adaptRows py rows mappingOverride = .ok result' ∧ SameReport result result'

theorem read_found (py : Standard) {report : Report} {rows : List Row}
    (mappingOverride : Dict String String) (hperm : report.rows.Perm rows)
    (hfound : missingRequired (resolvedMapping report.rows mappingOverride) = [])
    {result : AdapterResult} (hresult : adaptRows py rows mappingOverride = .ok result) :
    result.orders = (adapted py (resolvedMapping report.rows mappingOverride)
        (numbered rows)).grouped.values ∧
      result.issues = (adapted py (resolvedMapping report.rows mappingOverride)
        (numbered rows)).issues := by
  obtain ⟨read, hread, hmissing, hrefused, haccepted⟩ := adaptRows_eq py rows mappingOverride
  obtain rfl : read = result := Except.ok.inj (hread.symm.trans hresult)
  rw [resolvedMapping_perm hperm] at hmissing haccepted
  by_cases hnone : read.missingRequired = []
  · exact haccepted hnone
  · rcases eq_or_ne rows [] with rfl | hrows
    · exact hrefused hnone
    · exact absurd ((hmissing hrows).trans hfound) hnone

theorem read_missing (py : Standard) {report : Report} {rows : List Row}
    (mappingOverride : Dict String String) (hperm : report.rows.Perm rows)
    (hmissed : missingRequired (resolvedMapping report.rows mappingOverride) ≠ [])
    {result : AdapterResult} (hresult : adaptRows py rows mappingOverride = .ok result) :
    result.orders = [] ∧ result.issues = [] := by
  obtain ⟨read, hread, hmissing, hrefused, haccepted⟩ := adaptRows_eq py rows mappingOverride
  obtain rfl : read = result := Except.ok.inj (hread.symm.trans hresult)
  rw [resolvedMapping_perm hperm] at hmissing
  rcases eq_or_ne rows [] with rfl | hrows
  · by_cases hnone : read.missingRequired = []
    · exact haccepted hnone
    · exact hrefused hnone
  · exact hrefused ((hmissing hrows).symm ▸ hmissed)

theorem row_order_iff (py : Standard) (report : Report) (mappingOverride : Dict String String) :
    IsOrderFree py report mappingOverride ↔
      missingRequired (resolvedMapping report.rows mappingOverride) ≠ [] ∨
        ∀ row ∈ report.rows, ∀ row' ∈ report.rows,
          Agree py (resolvedMapping report.rows mappingOverride) row row' := by
  constructor
  · intro hfree
    by_cases hfound : missingRequired (resolvedMapping report.rows mappingOverride) = []
    swap
    · exact .inl hfound
    refine .inr fun row hrow row' hrow' => ?_
    obtain ⟨rest, hperm⟩ := exists_first hrow
    obtain ⟨rest', hperm'⟩ := exists_first hrow'
    obtain ⟨result, first, hresult, hfirst, hsame⟩ := hfree _ hperm
    obtain ⟨result', second, hresult', hsecond, hsame'⟩ := hfree _ hperm'
    obtain rfl : result = result' := Except.ok.inj (hresult.symm.trans hresult')
    have horders := (hsame.orders.symm.trans hsame'.orders)
    rw [(read_found py mappingOverride hperm hfound hfirst).1,
      (read_found py mappingOverride hperm' hfound hsecond).1] at horders
    exact agree_of_first (hperm.symm.trans hperm') horders
  · intro hcondition rows hperm
    obtain ⟨result, hresult, -⟩ := adaptRows_eq py report.rows mappingOverride
    obtain ⟨result', hresult', -⟩ := adaptRows_eq py rows mappingOverride
    refine ⟨result, result', hresult, hresult', ?_⟩
    by_cases hfound : missingRequired (resolvedMapping report.rows mappingOverride) = []
    · obtain ⟨horders, hissues⟩ := read_found py mappingOverride (List.Perm.refl _) hfound hresult
      obtain ⟨horders', hissues'⟩ := read_found py mappingOverride hperm hfound hresult'
      obtain ⟨hsame, hmessages⟩ := adapted_perm hperm (hcondition.resolve_left (not_not.mpr hfound))
      exact ⟨by rwa [horders, horders'], by rwa [hissues, hissues']⟩
    · obtain ⟨horders, hissues⟩ := read_missing py mappingOverride (List.Perm.refl _) hfound hresult
      obtain ⟨horders', hissues'⟩ := read_missing py mappingOverride hperm hfound hresult'
      exact ⟨by rw [horders, horders'], by rw [hissues, hissues']⟩

def deliveredRow : Row where
  cells := ⟨[("order id", "UE-1"), ("order date", "2026-09-08"), ("item", "Margherita"),
    ("qty", "1"), ("status", "Delivered")], by decide⟩
  short := by decide

def cancelledRow : Row where
  cells := ⟨[("order id", "UE-1"), ("order date", "2026-09-08"), ("item", "Coca-Cola"),
    ("qty", "1"), ("status", "Cancelled")], by decide⟩
  short := by decide

def deliveredFirst : Report where
  headings := ["order id", "order date", "item", "qty", "status"]
  rows := [deliveredRow, cancelledRow]
  headed := by
    simp only [List.mem_cons, List.not_mem_nil, or_false, forall_eq_or_imp, forall_eq]
    exact ⟨rfl, rfl⟩

def statuses (result : AdapterResult) : List (Option String) :=
  result.orders.map (·.status)

theorem first_status_decides :
    (∀ row ∈ deliveredFirst.rows, orderId (resolvedMapping deliveredFirst.rows .empty) row ≠ "") ∧
      ¬ IsOrderFree dayReader deliveredFirst .empty := by
  have hfirst : (adaptRows dayReader [deliveredRow, cancelledRow] .empty).toOption.map statuses =
      some [some "Delivered"] := by
    decide +kernel
  have hsecond : (adaptRows dayReader [cancelledRow, deliveredRow] .empty).toOption.map statuses =
      some [some "Cancelled"] := by
    decide +kernel
  refine ⟨?_, fun hfree => ?_⟩
  · change ∀ row ∈ [deliveredRow, cancelledRow],
      orderId (resolvedMapping [deliveredRow, cancelledRow] .empty) row ≠ ""
    simp only [List.mem_cons, List.not_mem_nil, or_false, forall_eq_or_imp, forall_eq]
    exact ⟨by decide +kernel, by decide +kernel⟩
  · obtain ⟨result, result', hresult, hresult', hsame⟩ :=
      hfree [cancelledRow, deliveredRow] (List.Perm.swap _ _ _)
    change adaptRows dayReader [deliveredRow, cancelledRow] .empty = _ at hresult
    rw [hresult] at hfirst
    rw [hresult'] at hsecond
    have hstatuses : (statuses result).Perm (statuses result') := by
      have hmap := hsame.orders.map (·.status)
      simpa [statuses, summary, Function.comp_def] using hmap
    rw [Option.some.inj hfirst, Option.some.inj hsecond] at hstatuses
    exact absurd hstatuses (by decide)

end NextgenBackend.ExternalOrders.Adapters
