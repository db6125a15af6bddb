import NextgenBackend.ExternalOrders.AdaptedRows

namespace NextgenBackend.ExternalOrders.Adapters

open Decimal

-- The stretches of digits, points and minus signs with nothing else between them.
def runs (text : List Char) : List (List Char) :=
  (text.splitOnP fun c => !isQuantityChar c).filter (· ≠ [])

def numbers (text : List Char) : List (List Char) :=
  (runs text).filter (·.any Text.isDigit)

variable {text run before after : List Char}

theorem flatten_runs : (runs text).flatten = text.filter isQuantityChar := by
  have hflatten := Text.flatten_splitOnP (fun c => !isQuantityChar c) text
  simp only [Bool.not_not] at hflatten
  rw [runs, ← hflatten]
  exact List.flatten_filter_ne_nil

theorem isPlain_iff {c : Char} : isPlain c ↔ isQuantityChar c := by
  simp [isPlain, isQuantityChar, or_assoc]

-- Only a digit is read as one.
theorem isDigit_iff {c : Char} (h : isPlain c) : asciiDigit (toAscii c) ↔ Text.isDigit c := by
  rcases toAscii_cases h with ⟨hdigit, hascii⟩ | ⟨rfl, heq⟩ | ⟨rfl, heq⟩
  · simp [hdigit, hascii]
  · rw [heq]
    decide
  · rw [heq]
    decide

theorem numbers_cons (h : numbers text = [run]) : ∃ before after,
    text.filter isQuantityChar = before ++ run ++ after ∧
      (∀ c ∈ before ++ after, Text.isDigit c = false) := by
  obtain ⟨first, last, hruns, hfirst, -, hlast⟩ := List.filter_eq_cons_iff.mp h
  refine ⟨first.flatten, last.flatten, ?_, ?_⟩
  · rw [← flatten_runs, hruns]
    simp
  · intro c hc
    rw [← List.flatten_append, List.mem_flatten] at hc
    obtain ⟨piece, hpiece, hmem⟩ := hc
    rcases List.mem_append.mp hpiece with hpiece | hpiece
    · simpa using List.any_eq_false.mp (by simpa using hfirst piece hpiece) c hmem
    · have hnone := List.filter_eq_nil_iff.mp hlast piece hpiece
      simpa using List.any_eq_false.mp (by simpa using hnone) c hmem

theorem numbers_nil (h : numbers text = []) :
    ∀ c ∈ text.filter isQuantityChar, Text.isDigit c = false := by
  intro c hc
  rw [← flatten_runs, List.mem_flatten] at hc
  obtain ⟨piece, hpiece, hmem⟩ := hc
  have hnone := List.filter_eq_nil_iff.mp h piece hpiece
  simpa using List.any_eq_false.mp (by simpa using hnone) c hmem

theorem countP_unsigned_le (numeral : Numeral) :
    numeral.unsigned.countP (!asciiDigit ·) ≤ 1 := by
  have hnone {digits : List Char} (h : ∀ c ∈ digits, asciiDigit c) :
      digits.countP (!asciiDigit ·) = 0 := by
    simpa [List.countP_eq_zero] using h
  have hdigits := numeral.digits
  rw [Numeral.unsigned, List.countP_append,
    hnone fun c hc => hdigits c (List.mem_append_left _ hc)]
  cases hfraction : numeral.fraction with
  | none => simp
  | some fraction =>
      rw [hfraction] at hdigits
      have hfraction : fraction.countP (!asciiDigit ·) = 0 :=
        hnone fun c hc => hdigits c (List.mem_append_right _ hc)
      rw [Option.elim_some, List.countP_cons, hfraction]
      split <;> omega

theorem magnitude_nonneg (numeral : Numeral) :
    (0 : ℚ) ≤ numeral.coefficient * 10 ^ numeral.exponent :=
  mul_nonneg (Nat.cast_nonneg _) (zpow_nonneg (by norm_num) _)

theorem value_lt_one {numeral : Numeral} (hwhole : numeral.whole = []) : numeral.value < 1 := by
  have hlt : numeral.coefficient < 10 ^ (numeral.fraction.getD []).length := by
    have h := digitsValue_lt numeral.digits
    rw [Numeral.coefficient]
    rwa [hwhole, List.nil_append] at h ⊢
  have hscaled : (numeral.coefficient : ℚ) * 10 ^ numeral.exponent < 1 := by
    rw [Numeral.exponent, zpow_neg, zpow_natCast, ← div_eq_mul_inv, div_lt_one (by positivity)]
    exact_mod_cast hlt
  have hnonneg := magnitude_nonneg numeral
  rw [Numeral.value, mul_assoc]
  split <;> linarith

theorem not_negative_of_value {numeral : Numeral} (h : 1 ≤ numeral.value) :
    numeral.negative = false := by
  by_contra hnegative
  have hnonneg := magnitude_nonneg numeral
  rw [Numeral.value, if_pos (Bool.eq_true_of_not_eq_false hnegative), mul_assoc] at h
  linarith

-- A point or a minus sign apart from the number leaves no whole number, or the same one.
theorem parse_run {kept : List Char} {x : ℚ} (h : ∀ c ∈ kept, isPlain c)
    (hkept : kept = before ++ run ++ after)
    (hapart : ∀ c ∈ before ++ after, Text.isDigit c = false)
    (hparse : parse kept = some (.finite x)) (hx : 1 ≤ x) : parse run = some (.finite x) := by
  obtain ⟨numeral, hwritten, hbounds, hvalue⟩ := exists_numeral h hparse
  obtain rfl := Number.finite.inj hvalue
  have hpositive := not_negative_of_value hx
  rw [Numeral.written, hpositive, if_neg Bool.false_ne_true] at hwritten
  have hfew : before.length + after.length ≤ 1 := by
    have hcount := countP_unsigned_le numeral
    rw [← hwritten, List.countP_map] at hcount
    have hstray {stray : List Char} (hstray : ∀ c ∈ stray, c ∈ before ++ after) :
        stray.length = stray.countP ((!asciiDigit ·) ∘ toAscii) := by
      refine (List.countP_eq_length.mpr fun c hc => ?_).symm
      have hmem : c ∈ kept := by
        rcases List.mem_append.mp (hstray c hc) with hc | hc <;> simp [hkept, hc]
      have hdigit := (isDigit_iff (h c hmem)).not.mpr (by simp [hapart c (hstray c hc)])
      simpa using hdigit
    rw [hkept, List.countP_append, List.countP_append,
      ← hstray fun c hc => List.mem_append_left _ hc,
      ← hstray fun c hc => List.mem_append_right _ hc] at hcount
    omega
  have hshape : (before = [] ∧ after = []) ∨ (∃ c, before = [c] ∧ after = []) ∨
      ∃ c, before = [] ∧ after = [c] := by
    rcases before with _ | ⟨c, rest⟩
    · rcases after with _ | ⟨c, rest⟩
      · exact .inl ⟨rfl, rfl⟩
      · simp only [List.length_cons, List.length_nil] at hfew
        have hrest : rest = [] := List.length_eq_zero_iff.mp (by omega)
        exact .inr (.inr ⟨c, rfl, by rw [hrest]⟩)
    · simp only [List.length_cons] at hfew
      have hrest : rest = [] := List.length_eq_zero_iff.mp (by omega)
      have hafter : after = [] := List.length_eq_zero_iff.mp (by omega)
      exact .inr (.inl ⟨c, by rw [hrest], hafter⟩)
  have hstray {c : Char} (hmem : c ∈ kept) (hc : c ∈ before ++ after) :
      ¬ asciiDigit (toAscii c) := by
    rw [isDigit_iff (h c hmem), hapart c hc]
    exact Bool.false_ne_true
  have hrun : ∀ c ∈ run, isPlain c := fun c hc => h c (by simp [hkept, hc])
  rcases hshape with ⟨rfl, rfl⟩ | ⟨c, rfl, rfl⟩ | ⟨c, rfl, rfl⟩
  · rwa [hkept, List.nil_append, List.append_nil] at hparse
  · cases hwhole : numeral.whole with
    | nil => exact absurd (value_lt_one hwhole) (not_lt.mpr hx)
    | cons d ds =>
        rw [hkept, Numeral.unsigned, hwhole] at hwritten
        have hc : toAscii c = d := (List.cons.inj hwritten).1
        have hd : asciiDigit d := numeral.digits d (by simp [hwhole])
        exact absurd (hc ▸ hd) (hstray (by simp [hkept]) (by simp))
  · have hc := hstray (c := c) (by simp [hkept]) (by simp)
    rw [hkept, List.nil_append, List.map_append, List.map_singleton] at hwritten
    obtain ⟨negative, whole, fraction, hdigits, hne⟩ := numeral
    obtain rfl : negative = false := hpositive
    cases fraction with
    | none =>
        have hmem : toAscii c ∈ whole := by
          have hwhole : run.map toAscii ++ [toAscii c] = whole := by
            simpa [Numeral.unsigned] using hwritten
          rw [← hwhole]
          simp
        exact absurd (hdigits _ (List.mem_append_left _ hmem)) hc
    | some fraction =>
        rcases List.eq_nil_or_concat fraction with rfl | ⟨init, d, rfl⟩
        · have hrun' : run.map toAscii = whole := (List.append_inj' hwritten rfl).1
          let whole' : Numeral := ⟨false, whole, none, hdigits, hne⟩
          have hwritten' : run.map toAscii = whole'.written := by
            simp [whole', hrun', Numeral.written, Numeral.unsigned]
          have hbounds' : whole'.Kept := hbounds
          rw [parse_written hrun hwritten', if_pos hbounds']
          rfl
        · have hsplit : run.map toAscii ++ [toAscii c] = (whole ++ '.' :: init) ++ [d] := by
            simpa [Numeral.unsigned] using hwritten
          have hd : toAscii c = d := (List.cons.inj (List.append_inj' hsplit rfl).2).1
          exact absurd (hd ▸ hdigits d (by simp)) hc

theorem no_number {kept : List Char} {x : ℚ} (h : ∀ c ∈ kept, isPlain c)
    (hnone : ∀ c ∈ kept, Text.isDigit c = false) : parse kept ≠ some (.finite x) := by
  intro hparse
  obtain ⟨numeral, hwritten, -, -⟩ := exists_numeral h hparse
  obtain ⟨d, rest, hdigits⟩ := List.exists_cons_of_ne_nil numeral.nonempty
  have hd : d ∈ numeral.whole ++ numeral.fraction.getD [] := by simp [hdigits]
  have hmem : d ∈ numeral.written := by
    rw [Numeral.written, Numeral.unsigned]
    rcases List.mem_append.mp hd with hd | hd
    · split <;> simp [hd]
    · cases hfraction : numeral.fraction with
      | none => simp [hfraction] at hd
      | some fraction =>
          have hd' : d ∈ fraction := by simpa [hfraction] using hd
          split <;> simp [hd']
  rw [← hwritten] at hmem
  obtain ⟨c, hc, rfl⟩ := List.mem_map.mp hmem
  have hdigit := (isDigit_iff (h c hc)).mp (numeral.digits _ hd)
  rw [hnone c hc] at hdigit
  exact Bool.false_ne_true hdigit

abbrev cellText (text : Option String) : List Char :=
  Text.strip (text.getD "").toList

theorem parse_zero : parse ['0'] = some (.finite 0) := by decide +kernel

theorem parseQuantity_eq {text : Option String} (h : cellText text ≠ []) (n : Int) :
    parseQuantity text = some n ↔
      parse ((cellText text).filter isQuantityChar) = some (.finite n) ∧ 0 < n := by
  have hread : parseQuantity text = some n ↔
      parse (if (cellText text).filter isQuantityChar = [] then ['0']
        else (cellText text).filter isQuantityChar) = some (.finite n) ∧ 0 < n := by
    unfold parseQuantity
    rw [if_neg h]
    dsimp only
    split
    next x hx =>
      rw [hx, Option.some.injEq, Number.finite.injEq]
      constructor
      · intro hx
        split at hx
        next hwhole =>
          obtain rfl := Option.some.inj hx
          have hx : x = x.num := (Rat.eq_num_of_isInt hwhole.1)
          exact ⟨hx, Rat.num_pos.mpr hwhole.2⟩
        next => simp at hx
      · rintro ⟨rfl, hpos⟩
        have hpos' : (0 : ℚ) < n := by exact_mod_cast hpos
        simp [hpos', Rat.isInt]
    next hnumber =>
      constructor
      · simp
      · rintro ⟨hn, -⟩
        exact absurd hn (hnumber n)
  refine hread.trans ?_
  split
  next hnil =>
    have hnone : parse [] = none := by rfl
    rw [hnil, parse_zero, hnone]
    constructor
    · rintro ⟨hzero, hpos⟩
      have hn : (0 : ℚ) = n := Number.finite.inj (Option.some.inj hzero)
      have hn' : (0 : Int) = n := by exact_mod_cast hn
      omega
    · simp
  next => rfl

-- A quantity is read only from the one number of the text, and is that number.
def ReadsTheNumber (text : Option String) : Prop :=
  ∀ n, parseQuantity text = some n → 0 < n ∧
    ∃ run, numbers (cellText text) = [run] ∧ parse run = some (.finite n)

theorem quantity_is_the_number (text : Option String) :
    (cellText text = [] → parseQuantity text = some 1) ∧
      (cellText text ≠ [] → (numbers (cellText text)).length ≤ 1 →
        ReadsTheNumber text ∧ ∀ run, runs (cellText text) = [run] → ∀ n : Int, 0 < n →
          parse run = some (.finite n) → parseQuantity text = some n) := by
  refine ⟨fun hblank => if_pos hblank, fun htext hfew => ⟨fun n hn => ?_, ?_⟩⟩
  · obtain ⟨hparse, hpos⟩ := (parseQuantity_eq htext n).mp hn
    have hplain : ∀ c ∈ (cellText text).filter isQuantityChar, isPlain c :=
      fun c hc => isPlain_iff.mpr (List.mem_filter.mp hc).2
    refine ⟨hpos, ?_⟩
    match hnumbers : numbers (cellText text), hfew with
    | [], _ => exact absurd hparse (no_number hplain (numbers_nil hnumbers))
    | [run], _ =>
        obtain ⟨before, after, hkept, hapart⟩ := numbers_cons hnumbers
        have hone : (1 : ℚ) ≤ n := by exact_mod_cast hpos
        exact ⟨run, rfl, parse_run hplain hkept hapart hparse hone⟩
  · intro run hrun n hpos hparse
    have hkept : (cellText text).filter isQuantityChar = run := by
      rw [← flatten_runs, hrun, List.flatten_singleton]
    exact (parseQuantity_eq htext n).mpr ⟨hkept ▸ hparse, hpos⟩

-- A blank cell counts one, and two numbers run together into one that nobody wrote.
theorem numbers_nobody_wrote :
    ¬ ReadsTheNumber (some "") ∧ ¬ ReadsTheNumber (some "1/2") := by
  have hblank : parseQuantity (some "") = some 1 := by decide +kernel
  have hfraction : parseQuantity (some "1/2") = some 12 := by decide +kernel
  have hnone : numbers (cellText (some "")) = [] := by decide +kernel
  have htwo : numbers (cellText (some "1/2")) = [['1'], ['2']] := by decide +kernel
  constructor
  · intro h
    obtain ⟨-, run, hrun, -⟩ := h 1 hblank
    simp [hnone] at hrun
  · intro h
    obtain ⟨-, run, hrun, -⟩ := h 12 hfraction
    simp [htwo] at hrun

end NextgenBackend.ExternalOrders.Adapters
