import Mathlib

namespace Decimal

def roundHalfEven (x : ℚ) : ℤ :=
  if Int.fract x < 1 / 2 then ⌊x⌋
  else if 1 / 2 < Int.fract x then ⌊x⌋ + 1
  else if Even ⌊x⌋ then ⌊x⌋ else ⌊x⌋ + 1

-- Ties go away from zero.
def roundHalfUp (x : ℚ) : ℤ :=
  if 0 ≤ x then ⌊x + 1 / 2⌋ else -⌊-x + 1 / 2⌋

-- The last of the `prec` significant digits of `x` counts these.
def ulp (prec : ℕ) (x : ℚ) : ℚ :=
  10 ^ (Int.log 10 |x| + 1 - prec)

-- A result as the arithmetic context stores it.
def fix (prec : ℕ) (x : ℚ) : ℚ :=
  roundHalfEven (x / ulp prec x) * ulp prec x

def add (prec : ℕ) (x y : ℚ) : ℚ := fix prec (x + y)

def mul (prec : ℕ) (x y : ℚ) : ℚ := fix prec (x * y)

def div (prec : ℕ) (x y : ℚ) : ℚ := fix prec (x / y)

-- Quantizing signals an invalid operation where the digits do not fit the context.
def quantizeHalfUp (prec : ℕ) (x : ℚ) : Option ℤ :=
  if |roundHalfUp x| < 10 ^ prec then some (roundHalfUp x) else none

variable {prec : ℕ} {x y : ℚ}

theorem abs_roundHalfEven_sub_le (x : ℚ) : |(roundHalfEven x : ℚ) - x| ≤ 1 / 2 := by
  have hfract : Int.fract x = x - ⌊x⌋ := rfl
  have hnonneg := Int.fract_nonneg x
  have hlt := Int.fract_lt_one x
  unfold roundHalfEven
  rw [abs_le]
  split_ifs <;> push_cast <;> constructor <;> linarith

theorem roundHalfEven_eq {n : ℤ} (h : |x - n| < 1 / 2) : roundHalfEven x = n := by
  have hclose := abs_le.mp (abs_roundHalfEven_sub_le x)
  have hx := abs_lt.mp h
  have hlow : (n : ℚ) < roundHalfEven x + 1 := by linarith
  have hhigh : (roundHalfEven x : ℚ) < n + 1 := by linarith
  have hlow' : n < roundHalfEven x + 1 := by exact_mod_cast hlow
  have hhigh' : roundHalfEven x < n + 1 := by exact_mod_cast hhigh
  omega

@[simp]
theorem roundHalfEven_intCast (n : ℤ) : roundHalfEven n = n :=
  roundHalfEven_eq (by norm_num)

theorem roundHalfEven_half (n : ℤ) :
    roundHalfEven (n + 1 / 2) = if Even n then n else n + 1 := by
  have hfloor : ⌊(n : ℚ) + 1 / 2⌋ = n := by
    rw [Int.floor_eq_iff]
    constructor <;> linarith
  have hfract : Int.fract ((n : ℚ) + 1 / 2) = 1 / 2 := by
    rw [Int.fract, hfloor]
    ring
  rw [roundHalfEven, hfract, hfloor, if_neg (lt_irrefl _), if_neg (lt_irrefl _)]

theorem roundHalfEven_nonneg (h : 0 ≤ x) : 0 ≤ roundHalfEven x := by
  have hfloor : 0 ≤ ⌊x⌋ := Int.floor_nonneg.mpr h
  unfold roundHalfEven
  split_ifs <;> omega

-- A tie at half an odd number below an even bound is rounded up to that bound.
theorem abs_roundHalfEven_lt {n : ℤ} (hn : Even n) :
    |roundHalfEven x| < n ↔ |x| < n - 1 / 2 := by
  have hclose := abs_le.mp (abs_roundHalfEven_sub_le x)
  constructor
  · intro h
    obtain ⟨hlow, hhigh⟩ := abs_lt.mp h
    have hlow' : (-n + 1 : ℚ) ≤ roundHalfEven x := by
      exact_mod_cast (by omega : -n + 1 ≤ roundHalfEven x)
    have hhigh' : (roundHalfEven x : ℚ) ≤ n - 1 := by
      exact_mod_cast (by omega : roundHalfEven x ≤ n - 1)
    refine abs_lt.mpr ⟨lt_of_le_of_ne (by linarith) fun heq => ?_,
      lt_of_le_of_ne (by linarith) fun heq => ?_⟩
    · have hx : x = (-n : ℤ) + 1 / 2 := by push_cast; linarith
      rw [hx, roundHalfEven_half (-n), if_pos hn.neg] at hlow
      omega
    · have hx : x = (n - 1 : ℤ) + 1 / 2 := by push_cast; linarith
      have hodd : ¬ Even (n - 1) := Int.not_even_iff_odd.mpr (hn.sub_odd odd_one)
      rw [hx, roundHalfEven_half (n - 1), if_neg hodd] at hhigh
      omega
  · intro h
    obtain ⟨hlow, hhigh⟩ := abs_lt.mp h
    have hlow' : (-n : ℚ) < roundHalfEven x := by linarith
    have hhigh' : (roundHalfEven x : ℚ) < n := by linarith
    exact abs_lt.mpr ⟨by exact_mod_cast hlow', by exact_mod_cast hhigh'⟩

theorem abs_roundHalfUp_lt {n : ℤ} : |roundHalfUp x| < n ↔ |x| < n - 1 / 2 := by
  have hfloor (y : ℚ) : ⌊y + 1 / 2⌋ < n ↔ y < n - 1 / 2 := by
    rw [Int.floor_lt, lt_sub_iff_add_lt]
  unfold roundHalfUp
  split_ifs with hx
  · rw [abs_of_nonneg hx, ← hfloor, abs_of_nonneg (Int.floor_nonneg.mpr (by linarith))]
  · have hneg : 0 ≤ -x := by linarith
    rw [abs_of_neg (not_le.mp hx), ← hfloor, abs_neg,
      abs_of_nonneg (Int.floor_nonneg.mpr (by linarith))]

theorem roundHalfUp_eq_iff {n : ℤ} (h : 0 ≤ x) :
    roundHalfUp x = n ↔ (n : ℚ) - 1 / 2 ≤ x ∧ x < n + 1 / 2 := by
  rw [roundHalfUp, if_pos h, Int.floor_eq_iff]
  constructor <;> rintro ⟨hlow, hhigh⟩ <;> constructor <;> linarith

theorem roundHalfUp_nonneg (h : 0 ≤ x) : 0 ≤ roundHalfUp x := by
  rw [roundHalfUp, if_pos h]
  exact Int.floor_nonneg.mpr (by linarith)

theorem roundHalfUp_le {n : ℤ} (hx : 0 ≤ x) (h : x ≤ n) : roundHalfUp x ≤ n := by
  obtain ⟨hlow, -⟩ := (roundHalfUp_eq_iff hx).mp rfl
  have hlt : (roundHalfUp x : ℚ) < n + 1 := by linarith
  have hlt' : roundHalfUp x < n + 1 := by exact_mod_cast hlt
  omega

theorem ulp_pos : 0 < ulp prec x :=
  zpow_pos (by norm_num) _

theorem ulp_eq {e : ℤ} (hlow : 10 ^ e ≤ |x|) (hhigh : |x| < 10 ^ (e + 1)) :
    ulp prec x = 10 ^ (e + 1 - prec) := by
  have hx : 0 < |x| := lt_of_lt_of_le (zpow_pos (by norm_num) e) hlow
  have hle : e ≤ Int.log 10 |x| := (Int.zpow_le_iff_le_log (by norm_num) hx).mp hlow
  have hlt : Int.log 10 |x| < e + 1 := (Int.lt_zpow_iff_log_lt (by norm_num) hx).mp hhigh
  rw [ulp, show Int.log 10 |x| = e by omega]

theorem log_lt {k : ℤ} (hx : x ≠ 0) (h : |x| < 10 ^ k) : Int.log 10 |x| < k :=
  (Int.lt_zpow_iff_log_lt (by norm_num) (abs_pos.mpr hx)).mp h

theorem ulp_le {j : ℕ} (hx : x ≠ 0) (h : |x| < 10 ^ ((prec : ℤ) - j)) :
    ulp prec x ≤ (10 ^ j)⁻¹ := by
  have hlog := log_lt hx h
  rw [ulp, ← zpow_natCast, ← zpow_neg]
  exact zpow_le_zpow_right₀ (by norm_num) (by omega)

theorem abs_fix_sub_le : |fix prec x - x| ≤ ulp prec x / 2 := by
  have hpos : 0 < ulp prec x := ulp_pos
  have hround := abs_roundHalfEven_sub_le (x / ulp prec x)
  have hfix : fix prec x - x = (roundHalfEven (x / ulp prec x) - x / ulp prec x) * ulp prec x := by
    rw [fix, sub_mul, div_mul_cancel₀ _ hpos.ne']
  rw [hfix, abs_mul, abs_of_pos hpos]
  calc _ ≤ 1 / 2 * ulp prec x := mul_le_mul_of_nonneg_right hround hpos.le
    _ = ulp prec x / 2 := by ring

@[simp]
theorem fix_zero : fix prec 0 = 0 := by
  have hround : roundHalfEven 0 = 0 := by exact_mod_cast roundHalfEven_intCast 0
  simp [fix, hround]

theorem abs_fix : |fix prec x| = |roundHalfEven (x / ulp prec x)| * ulp prec x := by
  rw [fix, abs_mul, abs_of_pos ulp_pos, Int.cast_abs]

theorem abs_div_ulp : |x / ulp prec x| = |x| / ulp prec x := by
  rw [abs_div, abs_of_pos ulp_pos]

theorem even_pow (hprec : 0 < prec) : Even ((10 : ℤ) ^ prec) :=
  Even.pow_of_ne_zero (by decide) hprec.ne'

theorem pow_split (prec : ℕ) (k : ℤ) : (10 : ℚ) ^ k = 10 ^ prec * 10 ^ (k - prec) := by
  rw [← zpow_natCast, ← zpow_add₀ (by norm_num)]
  simp

theorem pow_pred (k : ℤ) : (10 : ℚ) ^ k = 10 ^ (k - 1) * 10 := by
  rw [← zpow_add_one₀ (by norm_num)]
  simp

theorem unit_le {k : ℤ} (hprec : 0 < prec) : (10 : ℚ) ^ (k - prec) ≤ 10 ^ (k - 1) :=
  zpow_le_zpow_right₀ (by norm_num) (by omega)

theorem unit_pos {k : ℤ} : (0 : ℚ) < 10 ^ (k - prec) :=
  zpow_pos (by norm_num) _

theorem abs_round_le {n : ℤ} (h : |x| < n) : |roundHalfEven x| ≤ n := by
  have hclose := abs_sub_abs_le_abs_sub (roundHalfEven x : ℚ) x
  have hhalf := abs_roundHalfEven_sub_le x
  have hlt : (|roundHalfEven x| : ℚ) < n + 1 := by linarith
  exact Int.lt_add_one_iff.mp (by exact_mod_cast hlt)

theorem le_abs_round {n : ℤ} (h : n ≤ |x|) : n ≤ |roundHalfEven x| := by
  have hclose := abs_sub_abs_le_abs_sub x (roundHalfEven x : ℚ)
  have hhalf := abs_roundHalfEven_sub_le x
  rw [abs_sub_comm] at hhalf
  have hlt : (n : ℚ) < |(roundHalfEven x : ℚ)| + 1 := by linarith
  exact Int.lt_add_one_iff.mp (by exact_mod_cast hlt)

-- A result has the order of magnitude of the number, or is the next power of ten.
theorem abs_fix_le_pow : |fix prec x| ≤ 10 ^ (Int.log 10 |x| + 1) := by
  have hsmall : |x / ulp prec x| < (10 ^ prec : ℤ) := by
    have hhigh : |x| < (10 : ℚ) ^ (Int.log 10 |x| + 1) :=
      Int.lt_zpow_succ_log_self (by norm_num) _
    rw [pow_split prec] at hhigh
    rw [abs_div_ulp, div_lt_iff₀ ulp_pos, ulp]
    exact_mod_cast hhigh
  calc |fix prec x| ≤ 10 ^ prec * ulp prec x := by
        rw [abs_fix]
        exact mul_le_mul_of_nonneg_right (by exact_mod_cast abs_round_le hsmall) ulp_pos.le
    _ = 10 ^ (Int.log 10 |x| + 1) := (pow_split prec _).symm

theorem pow_le_abs_fix (hprec : 0 < prec) (hx : x ≠ 0) : 10 ^ Int.log 10 |x| ≤ |fix prec x| := by
  have hsplit : (10 : ℚ) ^ Int.log 10 |x| = (10 ^ (prec - 1) : ℤ) * ulp prec x := by
    rw [pow_split (prec - 1), ulp]
    push_cast
    congr 2
    omega
  have hlarge : ((10 ^ (prec - 1) : ℤ) : ℚ) ≤ |x / ulp prec x| := by
    have hlow : (10 : ℚ) ^ Int.log 10 |x| ≤ |x| :=
      Int.zpow_log_le_self (by norm_num) (abs_pos.mpr hx)
    rwa [abs_div_ulp, le_div_iff₀ ulp_pos, ← hsplit]
  rw [hsplit, abs_fix]
  exact mul_le_mul_of_nonneg_right (by exact_mod_cast le_abs_round hlarge) ulp_pos.le

theorem abs_quotient_lt {k : ℤ} (hulp : ulp prec x = 10 ^ (k - prec)) :
    |x / ulp prec x| < (10 ^ prec : ℤ) - 1 / 2 ↔ |x| < 10 ^ k - 10 ^ (k - prec) / 2 := by
  rw [abs_div_ulp, hulp, div_lt_iff₀ unit_pos, sub_mul, pow_split prec k]
  push_cast
  ring_nf

-- Below the last half unit before a power of ten, rounding stays below it by a whole unit.
theorem abs_fix_le {k : ℤ} (hprec : 0 < prec)
    (h : |x| < 10 ^ k - 10 ^ (k - prec) / 2) : |fix prec x| ≤ 10 ^ k - 10 ^ (k - prec) := by
  have hunit : (10 : ℚ) ^ (k - prec) ≤ 10 ^ (k - 1) := unit_le hprec
  have hpos : (0 : ℚ) < 10 ^ (k - prec) := unit_pos
  have hstep := pow_pred k
  by_cases hx : x = 0
  · subst hx
    simp only [fix_zero, abs_zero]
    linarith
  have hlog : Int.log 10 |x| < k := log_lt hx (by linarith)
  rcases (Int.add_one_le_iff.mpr hlog).lt_or_eq with hlt | heq
  · have hpow : (10 : ℚ) ^ (Int.log 10 |x| + 1) ≤ 10 ^ (k - 1) :=
      zpow_le_zpow_right₀ (by norm_num) (by omega)
    have hfix := (abs_fix_le_pow : |fix prec x| ≤ _)
    linarith
  · have hulp : ulp prec x = 10 ^ (k - prec) := by rw [ulp, heq]
    have hround := (abs_roundHalfEven_lt (even_pow hprec)).mpr ((abs_quotient_lt hulp).mpr h)
    have hround' : (|roundHalfEven (x / ulp prec x)| : ℚ) ≤ 10 ^ prec - 1 := by
      exact_mod_cast Int.le_sub_one_of_lt hround
    calc |fix prec x| ≤ (10 ^ prec - 1) * ulp prec x := by
          rw [abs_fix]
          exact mul_le_mul_of_nonneg_right (by exact_mod_cast hround') ulp_pos.le
      _ = 10 ^ k - 10 ^ (k - prec) := by rw [hulp, pow_split prec k]; ring

theorem le_abs_fix {k : ℤ} (hprec : 0 < prec)
    (h : 10 ^ k - 10 ^ (k - prec) / 2 ≤ |x|) : 10 ^ k ≤ |fix prec x| := by
  have hunit : (10 : ℚ) ^ (k - prec) ≤ 10 ^ (k - 1) := unit_le hprec
  have hpos : (0 : ℚ) < 10 ^ (k - prec) := unit_pos
  have hstep := pow_pred k
  have habs : 0 < |x| := by linarith
  have hlow : (10 : ℚ) ^ (k - 1) ≤ |x| := by linarith
  have hk : k - 1 ≤ Int.log 10 |x| := (Int.zpow_le_iff_le_log (by norm_num) habs).mp hlow
  rcases hk.lt_or_eq with hlt | heq
  · have hpow : (10 : ℚ) ^ k ≤ 10 ^ Int.log 10 |x| :=
      zpow_le_zpow_right₀ (by norm_num) (by omega)
    exact hpow.trans (pow_le_abs_fix hprec (abs_pos.mp habs))
  · have hulp : ulp prec x = 10 ^ (k - prec) := by
      rw [ulp, ← heq]
      simp
    have hround := not_lt.mp (mt (abs_roundHalfEven_lt (even_pow hprec)).mp
      (mt (abs_quotient_lt hulp).mp (not_lt.mpr h)))
    calc (10 : ℚ) ^ k = 10 ^ prec * ulp prec x := by rw [hulp, pow_split prec k]
      _ ≤ |fix prec x| := by
          rw [abs_fix]
          exact mul_le_mul_of_nonneg_right (by exact_mod_cast hround) ulp_pos.le

theorem abs_fix_lt {k : ℤ} (hprec : 0 < prec) :
    |fix prec x| < 10 ^ k - 10 ^ (k - prec) / 2 ↔ |x| < 10 ^ k - 10 ^ (k - prec) / 2 := by
  have hpos : (0 : ℚ) < 10 ^ (k - prec) := unit_pos
  constructor
  · intro h
    by_contra hnot
    have hle := le_abs_fix hprec (not_lt.mp hnot)
    linarith
  · intro h
    have hle := abs_fix_le hprec h
    linarith

theorem fix_nonneg (h : 0 ≤ x) : 0 ≤ fix prec x :=
  mul_nonneg (by exact_mod_cast roundHalfEven_nonneg (div_nonneg h ulp_pos.le)) ulp_pos.le

-- A number of at most `j` decimal places that the context has room for.
theorem fix_of_scaled {j : ℕ} {m : ℤ} (hm : x * 10 ^ j = m)
    (h : |x| < 10 ^ ((prec : ℤ) - j)) : fix prec x = x := by
  by_cases hx : x = 0
  · rw [hx, fix_zero]
  have hlog := log_lt hx h
  obtain ⟨i, hi⟩ : ∃ i : ℕ, (prec : ℤ) - (Int.log 10 |x| + 1) = j + i :=
    ⟨(prec - (Int.log 10 |x| + 1) - j : ℤ).toNat, by omega⟩
  have hulp : ulp prec x = (10 ^ (j + i))⁻¹ := by
    rw [ulp, ← zpow_natCast, ← zpow_neg]
    congr 1
    push_cast
    omega
  have hwhole : x / ulp prec x = ((m * 10 ^ i : ℤ) : ℚ) := by
    rw [hulp, div_inv_eq_mul, pow_add, ← mul_assoc, hm]
    push_cast
    ring
  rw [fix, hwhole, roundHalfEven_intCast, ← hwhole, div_mul_cancel₀ _ ulp_pos.ne']

theorem fix_intCast {m : ℤ} (h : |m| < 10 ^ prec) : fix prec m = m := by
  refine fix_of_scaled (j := 0) (m := m) (by simp) ?_
  simpa using (by exact_mod_cast h : |(m : ℚ)| < 10 ^ prec)

theorem half_gap {p v : ℤ} {q : ℕ} (hq : 0 < q) (h : (v : ℚ) - 1 / 2 < p / q) :
    (v : ℚ) - 1 / 2 + 1 / (2 * q) ≤ p / q := by
  have hq' : (0 : ℚ) < q := by exact_mod_cast hq
  have hwhole : (2 * v - 1) * q + 1 ≤ 2 * p := by
    have hlt : ((2 * v - 1) * q : ℚ) < 2 * p := by
      rw [lt_div_iff₀ hq'] at h
      linarith
    exact_mod_cast hlt
  rw [le_div_iff₀ hq', add_mul, div_mul_eq_mul_div, mul_div_mul_right _ _ hq'.ne']
  have hwhole' : ((2 * v - 1) * q + 1 : ℚ) ≤ 2 * p := by exact_mod_cast hwhole
  linarith

theorem half_gap' {p v : ℤ} {q : ℕ} (hq : 0 < q) (h : (p / q : ℚ) < v + 1 / 2) :
    (p / q : ℚ) + 1 / (2 * q) ≤ v + 1 / 2 := by
  have hneg : ((-v : ℤ) : ℚ) - 1 / 2 < (-p : ℤ) / q := by
    push_cast
    rw [neg_div]
    linarith
  have hgap := half_gap hq hneg
  push_cast at hgap
  rw [neg_div] at hgap
  linarith

-- A quotient stays on its side of every half where its denominator is below the spare digits.
theorem roundHalfUp_fix {j : ℕ} {p : ℤ} {q : ℕ} (hp : 0 ≤ p) (hq : 0 < q) (hj : 0 < j)
    (hqj : q < 10 ^ j) (h : (p / q : ℚ) < 10 ^ ((prec : ℤ) - j)) :
    roundHalfUp (fix prec (p / q)) = roundHalfUp (p / q) := by
  have hq' : (0 : ℚ) < q := by exact_mod_cast hq
  have hx : (0 : ℚ) ≤ p / q := div_nonneg (by exact_mod_cast hp) hq'.le
  by_cases hzero : (p / q : ℚ) = 0
  · rw [hzero, fix_zero]
  have habs : |(p / q : ℚ)| < 10 ^ ((prec : ℤ) - j) := by rwa [abs_of_nonneg hx]
  -- Half a unit is less than the distance of the quotient to the next half.
  have hstep : ulp prec (p / q) / 2 < 1 / (2 * q) := by
    have hulp : ulp prec (p / q) ≤ (10 ^ j)⁻¹ := ulp_le hzero habs
    have hinv : ((10 : ℚ) ^ j)⁻¹ < (q : ℚ)⁻¹ := by
      gcongr
      exact_mod_cast hqj
    rw [one_div, mul_inv]
    linarith
  obtain ⟨hlow, hhigh⟩ := (roundHalfUp_eq_iff hx).mp rfl
  have hclose := abs_le.mp (abs_fix_sub_le : |fix prec (p / q) - p / q| ≤ _)
  generalize roundHalfUp (p / q : ℚ) = v at hlow hhigh ⊢
  refine (roundHalfUp_eq_iff (fix_nonneg hx)).mpr ⟨?_, ?_⟩
  · rcases (lt_or_eq_of_le hlow) with hlt | heq
    · have hgap := half_gap hq hlt
      linarith
    · rw [fix_of_scaled (j := j) (m := (2 * v - 1) * 5 * 10 ^ (j - 1)) ?_ habs]
      · exact hlow
      · obtain ⟨i, rfl⟩ : ∃ i, j = i + 1 := ⟨j - 1, by omega⟩
        rw [← heq]
        push_cast
        ring
  · have hgap := half_gap' hq hhigh
    linarith

-- A numerator with a digit to spare leaves enough of them for any denominator.
theorem roundHalfUp_fix_of_lt {p : ℤ} {q : ℕ} (hp : 0 ≤ p) (hq : 0 < q)
    (h : p * 10 < 10 ^ prec) :
    roundHalfUp (fix prec (p / q)) = roundHalfUp (p / q) := by
  have hq' : (1 : ℚ) ≤ q := by exact_mod_cast hq
  rcases hp.eq_or_lt with rfl | hpos
  · simp
  have hp' : (0 : ℚ) < p := by exact_mod_cast hpos
  have hx : (0 : ℚ) < p / q := by positivity
  have hnum : (p : ℚ) < 10 ^ ((prec : ℤ) - 1) := by
    have hwhole : (p : ℚ) * 10 < 10 ^ prec := by exact_mod_cast h
    rw [zpow_sub₀ (by norm_num), zpow_natCast, zpow_one, lt_div_iff₀ (by norm_num)]
    exact hwhole
  have hlow : (10 : ℚ) ^ Int.log 10 (p / q : ℚ) ≤ p / q := Int.zpow_log_le_self (by norm_num) hx
  have hhigh : (p / q : ℚ) < 10 ^ (Int.log 10 (p / q : ℚ) + 1) :=
    Int.lt_zpow_succ_log_self (by norm_num) _
  generalize Int.log 10 (p / q : ℚ) = k at hlow hhigh
  have hk : k < (prec : ℤ) - 1 := by
    have hle : (p / q : ℚ) ≤ p := div_le_self hp'.le hq'
    exact (zpow_lt_zpow_iff_right₀ (by norm_num)).mp ((hlow.trans hle).trans_lt hnum)
  obtain ⟨j, hj⟩ : ∃ j : ℕ, (j : ℤ) = prec - 1 - k := ⟨((prec : ℤ) - 1 - k).toNat, by omega⟩
  refine roundHalfUp_fix (j := j) hp hq (by omega) ?_ ?_
  · have hden : (q : ℚ) * 10 ^ k < 10 ^ ((prec : ℤ) - 1) := by
      rw [le_div_iff₀ (by linarith)] at hlow
      linarith
    have hlt : (q : ℚ) < 10 ^ (j : ℤ) := by
      rw [hj, zpow_sub₀ (by norm_num) _ k, lt_div_iff₀ (zpow_pos (by norm_num) k)]
      exact hden
    exact_mod_cast hlt
  · rwa [show (prec : ℤ) - j = k + 1 by omega]

end Decimal
