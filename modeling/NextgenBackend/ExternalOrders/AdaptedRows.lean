import NextgenBackend.ExternalOrders.Adapters
import NextgenBackend.Library.Decimal.Plain

namespace NextgenBackend.ExternalOrders.Adapters

open Decimal

theorem length_strip_le (text : List Char) : (Text.strip text).length ≤ text.length :=
  Text.strip_sublist.length_le

theorem plainAmount_plain {raw : List Char} (h : ∀ c ∈ raw, isMoneyChar c) :
    ∀ c ∈ plainAmount raw, isPlain c := by
  have hplain {c : Char} (hc : isMoneyChar c) (hne : c ≠ ',') : isPlain c := by
    simp only [isMoneyChar, Bool.or_eq_true, decide_eq_true_eq, List.mem_cons,
      List.not_mem_nil, or_false, hne, false_or] at hc
    simpa [isPlain, or_assoc] using hc
  have hdropped : ∀ c ∈ raw.filter (· ≠ ','), isPlain c := by
    intro c hc
    obtain ⟨hmem, hne⟩ := List.mem_filter.mp hc
    exact hplain (h c hmem) (by simpa using hne)
  unfold plainAmount
  split
  · exact hdropped
  split
  · intro c hc
    obtain ⟨d, hd, rfl⟩ := List.mem_map.mp hc
    split
    · decide
    next hne => exact hplain (h d hd) hne
  · exact hdropped

theorem length_plainAmount_le (raw : List Char) : (plainAmount raw).length ≤ raw.length := by
  unfold plainAmount
  split
  · exact List.length_filter_le _ _
  split
  · simp
  · exact List.length_filter_le _ _

-- A price short enough for a cell is far from the largest exponent.
theorem toCents_returns {x : ℚ} (h : |x| < 10 ^ fieldSizeLimit) :
    (∃ cents, toCents (.finite x) = .ok cents) ∨
      toCents (.finite x) = .error .invalidOperation := by
  have hfits : Number.rounded defaultContext (x * 100) =
      .ok (.finite (fix defaultContext.prec (x * 100))) := by
    refine if_neg (not_lt.mpr ?_)
    by_cases hzero : fix defaultContext.prec (x * 100) = 0
    · rw [hzero]
      simp
    have hscaled : |x * 100| < 10 ^ ((fieldSizeLimit + 2 : ℕ) : ℤ) := by
      rw [abs_mul, zpow_natCast, pow_add]
      norm_num
      exact h
    have hlog : Int.log 10 |x * 100| + 1 ≤ (fieldSizeLimit + 2 : ℕ) := by
      by_cases hx : x * 100 = 0
      · simp [hx, fieldSizeLimit]
      · have := log_lt hx hscaled
        omega
    have hlt : |fix defaultContext.prec (x * 100)| < 10 ^ ((fieldSizeLimit + 3 : ℕ) : ℤ) := by
      refine abs_fix_le_pow.trans_lt (zpow_lt_zpow_right₀ (by norm_num) ?_)
      push_cast at hlog ⊢
      omega
    have hbound := log_lt hzero hlt
    have hsmall : ((fieldSizeLimit + 3 : ℕ) : ℤ) ≤ defaultContext.emax := by decide
    omega
  simp only [toCents]
  change (∃ cents, (Number.rounded defaultContext (x * 100) >>= _) = .ok cents) ∨
    (Number.rounded defaultContext (x * 100) >>= _) = _
  rw [hfits]
  change (∃ cents, (Number.quantizeHalfEven _ (.finite _) >>= Number.toInt) = .ok cents) ∨
    (Number.quantizeHalfEven _ (.finite _) >>= Number.toInt) = _
  simp only [Number.quantizeHalfEven]
  split
  · exact .inl ⟨_, rfl⟩
  · exact .inr rfl

theorem parseMoneyCents_returns (text : Option String)
    (h : ∀ cell ∈ text, cell.length ≤ fieldSizeLimit) :
    ∃ cents, parseMoneyCents text = .ok cents := by
  have hraw : ((Text.strip (text.getD "").toList).filter isMoneyChar).length ≤
      fieldSizeLimit := by
    refine (List.length_filter_le _ _).trans ((length_strip_le _).trans ?_)
    cases text with
    | none => simp
    | some cell => exact h cell rfl
  simp only [parseMoneyCents]
  split
  · exact ⟨_, rfl⟩
  split
  · exact ⟨_, rfl⟩
  next number hparse =>
    obtain ⟨x, rfl, hx⟩ := parse_bounded
      (plainAmount_plain fun c hc => (List.mem_filter.mp hc).2) hparse
    have hbound : |x| < 10 ^ fieldSizeLimit :=
      hx.trans_le (pow_le_pow_right₀ (by norm_num) ((length_plainAmount_le _).trans hraw))
    rcases toCents_returns hbound with ⟨cents, hcents⟩ | hinvalid
    · exact ⟨_, by rw [hcents]⟩
    · exact ⟨_, by rw [hinvalid]⟩

section Rows

variable (py : Standard) (resolved : Dict String String)

theorem value_short {row : Row} {fieldName cell : String}
    (h : value resolved row fieldName = some cell) : cell.length ≤ fieldSizeLimit := by
  obtain ⟨heading, -, hcell⟩ := Option.bind_eq_some_iff.mp h
  exact row.short cell (Dict.mem_values_iff.mpr ⟨heading, hcell⟩)

def rowCents (row : Row) : Option Cents :=
  (parseMoneyCents (value resolved row "price")).toOption.join

def lineOf (entry : Row × Nat) (quantity : Int) : ExternalOrderLine where
  externalItemText := itemText resolved entry.1
  quantity := quantity
  modifiers := splitModifiers (value resolved entry.1 "modifiers")
  sizeText := rowSize resolved entry.1
  grossCents := rowCents resolved entry.1
  sourceRow := entry.2

theorem readLine_eq {row : Row} {index : Nat} {quantity : Int} :
    readLine resolved index row quantity = .ok (lineOf resolved (row, index) quantity) := by
  obtain ⟨cents, hcents⟩ := parseMoneyCents_returns (value resolved row "price")
    fun cell hcell => value_short resolved hcell
  unfold readLine lineOf rowCents
  rw [hcents]
  rfl

abbrev IsBlank (row : Row) : Prop :=
  orderId resolved row = "" ∧ itemText resolved row = ""

abbrev IsComplete (row : Row) : Prop :=
  itemText resolved row ≠ "" ∧ rowQuantity resolved row ≠ none

abbrev IsDated (row : Row) : Prop :=
  rowPlacedAt py resolved row ≠ none

-- The order of a row once the row is on it, where the row is one that its order takes.
def admitted (existing : Option CanonicalExternalOrder) (entry : Row × Nat) :
    Option CanonicalExternalOrder :=
  if orderId resolved entry.1 = "" ∨ itemText resolved entry.1 = "" then none
  else
    (rowQuantity resolved entry.1).bind fun quantity =>
      let line := lineOf resolved entry quantity
      match existing, rowPlacedAt py resolved entry.1 with
      | none, none => none
      | none, some placedAt =>
          some (newOrder (orderId resolved entry.1) placedAt (rowStatus resolved entry.1) line)
      | some order, placedAt => some (order.append placedAt (rowStatus resolved entry.1) line)

-- The complaint about a row does not depend on the rows before it.
def complaint (row : Row) : String :=
  if orderId resolved row = "" then missingOrderId
  else if itemText resolved row = "" then missingItem resolved row
  else if rowQuantity resolved row = none then badQuantity py resolved row
  else unreadableDate resolved row

def step (adapted : Adapted) (entry : Row × Nat) : Adapted :=
  if IsBlank resolved entry.1 then adapted
  else
    match admitted py resolved (adapted.grouped.lookup (orderId resolved entry.1)) entry with
    | some order => adapted.put (orderId resolved entry.1) order
    | none => adapted.reject entry.2 (complaint py resolved entry.1)

theorem adaptRow_eq (adapted : Adapted) (entry : Row × Nat) :
    adaptRow py resolved adapted entry = .ok (step py resolved adapted entry) := by
  obtain ⟨row, index⟩ := entry
  simp only [adaptRow, step, admitted, complaint, IsBlank]
  by_cases hid : orderId resolved row = ""
  · by_cases hitem : itemText resolved row = "" <;> simp [hid, hitem]
  by_cases hitem : itemText resolved row = ""
  · simp [hid, hitem]
  cases hquantity : rowQuantity resolved row with
  | none => simp [hid, hitem]
  | some quantity =>
      simp only [hid, hitem, false_and, or_self, if_false, Option.bind_some, readLine_eq]
      cases adapted.grouped.lookup (orderId resolved row) with
      | none =>
          cases rowPlacedAt py resolved row with
          | none => simp
          | some placedAt => rfl
      | some order => rfl

theorem foldlM_adaptRow (entries : List (Row × Nat)) (adapted : Adapted) :
    entries.foldlM (adaptRow py resolved) adapted =
      .ok (entries.foldl (step py resolved) adapted) := by
  induction entries generalizing adapted with
  | nil => rfl
  | cons entry entries ih =>
      rw [List.foldlM_cons, adaptRow_eq, List.foldl_cons]
      exact ih _

def adapted (entries : List (Row × Nat)) : Adapted :=
  entries.foldl (step py resolved) {}

-- The row with its number: the header is row 1.
def numbered (rows : List Row) : List (Row × Nat) :=
  rows.zipIdx 2

@[simp]
theorem numbered_rows (rows : List Row) : (numbered rows).map (·.1) = rows := by
  simp [numbered, List.zipIdx_map_fst]

theorem adaptRows_eq (rows : List Row) (mappingOverride : Dict String String) :
    ∃ result, adaptRows py rows mappingOverride = .ok result ∧
      (rows ≠ [] → result.missingRequired =
        missingRequired (resolvedMapping rows mappingOverride)) ∧
      (result.missingRequired ≠ [] → result.orders = [] ∧ result.issues = []) ∧
      (result.missingRequired = [] →
        result.orders =
          (adapted py (resolvedMapping rows mappingOverride) (numbered rows)).grouped.values ∧
        result.issues =
          (adapted py (resolvedMapping rows mappingOverride) (numbered rows)).issues) := by
  unfold adaptRows
  split
  next hrows =>
    subst hrows
    exact ⟨_, rfl, fun h => absurd rfl h, fun h => absurd rfl h, fun _ => ⟨rfl, rfl⟩⟩
  next =>
    dsimp only
    split
    next hmissing => exact ⟨_, rfl, fun _ => rfl, fun _ => ⟨rfl, rfl⟩, fun h => absurd h hmissing⟩
    next hmissing =>
      rw [foldlM_adaptRow]
      exact ⟨_, rfl, fun _ => rfl, fun h => absurd h hmissing, fun _ => ⟨rfl, rfl⟩⟩

variable {py resolved} {existing : Option CanonicalExternalOrder} {entry : Row × Nat}
  {entries : List (Row × Nat)} {k : String}

theorem admitted_isSome_iff :
    (admitted py resolved existing entry).isSome ↔ orderId resolved entry.1 ≠ "" ∧
      IsComplete resolved entry.1 ∧ (IsDated py resolved entry.1 ∨ existing.isSome) := by
  unfold admitted IsComplete IsDated
  split
  next h => rcases h with h | h <;> simp [h]
  next h =>
    rw [not_or] at h
    cases rowQuantity resolved entry.1 with
    | none => simp
    | some quantity =>
        cases existing with
        | none => cases rowPlacedAt py resolved entry.1 <;> simp [h]
        | some order => simp [h]

theorem admitted_lines {order : CanonicalExternalOrder}
    (h : admitted py resolved existing entry = some order) :
    ∃ quantity, rowQuantity resolved entry.1 = some quantity ∧
      order.lines = existing.elim [] (·.lines) ++ [lineOf resolved entry quantity] := by
  unfold admitted at h
  split at h
  · simp at h
  obtain ⟨quantity, hquantity, horder⟩ := Option.bind_eq_some_iff.mp h
  refine ⟨quantity, hquantity, ?_⟩
  dsimp only at horder
  split at horder
  · simp at horder
  · rw [← Option.some.inj horder]
    rfl
  · rw [← Option.some.inj horder]
    rfl

theorem admitted_id {order : CanonicalExternalOrder}
    (hexisting : ∀ o ∈ existing, o.externalOrderId = orderId resolved entry.1)
    (h : admitted py resolved existing entry = some order) :
    order.externalOrderId = orderId resolved entry.1 := by
  unfold admitted at h
  split at h
  · simp at h
  obtain ⟨quantity, -, horder⟩ := Option.bind_eq_some_iff.mp h
  cases existing with
  | some order =>
      rw [← Option.some.inj horder]
      exact hexisting order rfl
  | none =>
      cases hplaced : rowPlacedAt py resolved entry.1 with
      | none => simp [hplaced] at horder
      | some placedAt =>
          rw [hplaced] at horder
          rw [← Option.some.inj horder]
          rfl

theorem not_isBlank_of_admitted {order : CanonicalExternalOrder}
    (h : admitted py resolved existing entry = some order) : ¬ IsBlank resolved entry.1 := by
  have hsome := admitted_isSome_iff.mp (Option.isSome_iff_exists.mpr ⟨order, h⟩)
  exact fun hblank => hsome.1 hblank.1

theorem step_cases (py : Standard) (resolved : Dict String String) (state : Adapted) (entry : Row × Nat) :
    (IsBlank resolved entry.1 ∧ step py resolved state entry = state) ∨
      (∃ order,
        admitted py resolved (state.grouped.lookup (orderId resolved entry.1)) entry = some order ∧
          step py resolved state entry = state.put (orderId resolved entry.1) order) ∨
      (¬ IsBlank resolved entry.1 ∧
        admitted py resolved (state.grouped.lookup (orderId resolved entry.1)) entry = none ∧
          step py resolved state entry = state.reject entry.2 (complaint py resolved entry.1)) := by
  unfold step
  split
  next hblank => exact .inl ⟨hblank, rfl⟩
  next hblank =>
    cases hadmitted :
        admitted py resolved (state.grouped.lookup (orderId resolved entry.1)) entry with
    | none => exact .inr (.inr ⟨hblank, rfl, rfl⟩)
    | some order => exact .inr (.inl ⟨order, rfl, rfl⟩)

@[simp]
theorem adapted_nil : adapted py resolved [] = {} := rfl

theorem adapted_append :
    adapted py resolved (entries ++ [entry]) =
      step py resolved (adapted py resolved entries) entry := by
  simp [adapted, List.foldl_append]

-- Only its own rows change an order.
theorem lookup_append :
    (adapted py resolved (entries ++ [entry])).grouped.lookup k =
      if k = orderId resolved entry.1 then
        (admitted py resolved ((adapted py resolved entries).grouped.lookup k) entry).or
          ((adapted py resolved entries).grouped.lookup k)
      else (adapted py resolved entries).grouped.lookup k := by
  rw [adapted_append]
  rcases eq_or_ne k (orderId resolved entry.1) with rfl | hne
  · rw [if_pos rfl]
    rcases step_cases py resolved (adapted py resolved entries) entry with
      ⟨hblank, hstep⟩ | ⟨order, hadmitted, hstep⟩ | ⟨-, hadmitted, hstep⟩
    · have hnone : admitted py resolved
          ((adapted py resolved entries).grouped.lookup (orderId resolved entry.1)) entry =
          none := by
        simp [admitted, hblank.1]
      rw [hstep, hnone, Option.none_or]
    · rw [hstep, hadmitted]
      simp [Adapted.put]
    · rw [hstep, hadmitted, Option.none_or]
      rfl
  · rw [if_neg hne]
    rcases step_cases py resolved (adapted py resolved entries) entry with
      ⟨-, hstep⟩ | ⟨order, -, hstep⟩ | ⟨-, -, hstep⟩
    · rw [hstep]
    · rw [hstep]
      simp [Adapted.put, hne]
    · rw [hstep]
      rfl

theorem lookup_no_id : (adapted py resolved entries).grouped.lookup "" = none := by
  induction entries using List.reverseRecOn with
  | nil => rfl
  | append_singleton entries entry ih =>
      rw [lookup_append, ih]
      split
      next hid => simp [admitted, ← hid]
      next => rfl

theorem lookup_id {order : CanonicalExternalOrder}
    (h : (adapted py resolved entries).grouped.lookup k = some order) :
    order.externalOrderId = k := by
  induction entries using List.reverseRecOn generalizing order with
  | nil => simp at h
  | append_singleton entries entry ih =>
      rw [lookup_append] at h
      split at h
      next hk =>
        subst hk
        cases hadmitted : admitted py resolved
            ((adapted py resolved entries).grouped.lookup (orderId resolved entry.1)) entry with
        | none => exact ih (by simpa [hadmitted] using h)
        | some admittedOrder =>
            rw [hadmitted, Option.some_or, Option.some.injEq] at h
            exact h ▸ admitted_id (fun o ho => ih ho) hadmitted
      next => exact ih h

end Rows

end NextgenBackend.ExternalOrders.Adapters
