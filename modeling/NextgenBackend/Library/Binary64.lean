import NextgenBackend.Library.Decimal

-- Double precision numbers as the rationals they stand for, where nothing is too large or too
-- small for them.
namespace Binary64

open Decimal

def digits : ℕ := 53

-- What the last binary digit of a double of this size counts.
def ulp (x : ℚ) : ℚ := 2 ^ (Int.log 2 |x| + 1 - digits)

-- The nearest double, the one with an even last digit where two are equally near.
def nearest (x : ℚ) : ℚ := roundHalfEven (x / ulp x) * ulp x

def div (x y : ℚ) : ℚ := nearest (x / y)

def mul (x y : ℚ) : ℚ := nearest (x * y)

-- The double nearest to a number rounded to so many decimal places.
def round (x : ℚ) (places : ℕ) : ℚ := nearest (roundHalfEven (x * 10 ^ places) / 10 ^ places)

variable {x y : ℚ} {e n : ℤ}

theorem ulp_pos : 0 < ulp x := zpow_pos (by norm_num) _

theorem ulp_eq (hlow : 2 ^ e ≤ |x|) (hhigh : |x| < 2 ^ (e + 1)) : ulp x = 2 ^ (e + 1 - digits) := by
  have hx : 0 < |x| := lt_of_lt_of_le (zpow_pos (by norm_num) e) hlow
  have hle : e ≤ Int.log 2 |x| := (Int.zpow_le_iff_le_log (by norm_num) hx).mp (by exact_mod_cast hlow)
  have hlt : Int.log 2 |x| < e + 1 :=
    (Int.lt_zpow_iff_log_lt (by norm_num) hx).mp (by exact_mod_cast hhigh)
  rw [ulp, show Int.log 2 |x| = e by omega]

theorem roundHalfEven_mono (h : x ≤ y) : roundHalfEven x ≤ roundHalfEven y := by
  have hfloors : ⌊x⌋ ≤ ⌊y⌋ := Int.floor_le_floor h
  have hx : roundHalfEven x ≤ ⌊x⌋ + 1 := by
    unfold roundHalfEven
    split_ifs <;> omega
  have hy : ⌊y⌋ ≤ roundHalfEven y := by
    unfold roundHalfEven
    split_ifs <;> omega
  rcases hfloors.lt_or_eq with hlt | heq
  · omega
  · have hfract : Int.fract x ≤ Int.fract y := by
      rw [Int.fract, Int.fract, heq]
      linarith
    unfold roundHalfEven
    rw [heq]
    split_ifs <;> first | omega | linarith

theorem nearest_of_bounds (hlow : 2 ^ e ≤ x) (hhigh : x < 2 ^ (e + 1)) :
    nearest x = roundHalfEven (x / 2 ^ (e + 1 - digits)) * 2 ^ (e + 1 - digits) := by
  have hpos : 0 < x := lt_of_lt_of_le (zpow_pos (by norm_num) e) hlow
  have hulp : ulp x = 2 ^ (e + 1 - digits) :=
    ulp_eq (by rwa [abs_of_pos hpos]) (by rwa [abs_of_pos hpos])
  rw [nearest, hulp]

theorem nearest_eq (hlow : 2 ^ e ≤ x) (hhigh : x < 2 ^ (e + 1))
    (h : |x / 2 ^ (e + 1 - digits) - n| < 1 / 2) : nearest x = n * 2 ^ (e + 1 - digits) := by
  rw [nearest_of_bounds hlow hhigh, roundHalfEven_eq h]

theorem two_zpow_split (e : ℤ) : (2 : ℚ) ^ e = ((2 : ℤ) ^ 52 : ℤ) * 2 ^ (e + 1 - digits) := by
  rw [show e + 1 - (digits : ℤ) = e - 52 by unfold digits; push_cast; ring,
    zpow_sub₀ (by norm_num)]
  norm_num
  ring

-- A power of two is a double, so rounding cannot cross it.
theorem zpow_le_nearest (hlow : 2 ^ e ≤ x) (hhigh : x < 2 ^ (e + 1)) : 2 ^ e ≤ nearest x := by
  have hunit : (0 : ℚ) < 2 ^ (e + 1 - digits) := zpow_pos (by norm_num) _
  have hdigits : ((2 : ℤ) ^ 52 : ℤ) ≤ roundHalfEven (x / 2 ^ (e + 1 - digits)) := by
    have hle : (((2 : ℤ) ^ 52 : ℤ) : ℚ) ≤ x / 2 ^ (e + 1 - digits) := by
      rw [le_div_iff₀ hunit, ← two_zpow_split]
      exact hlow
    have hmono := roundHalfEven_mono hle
    rwa [roundHalfEven_intCast] at hmono
  rw [nearest_of_bounds hlow hhigh, two_zpow_split e]
  exact mul_le_mul_of_nonneg_right (by exact_mod_cast hdigits) hunit.le

theorem nearest_le_zpow (hlow : 2 ^ e ≤ x) (hhigh : x < 2 ^ (e + 1)) :
    nearest x ≤ 2 ^ (e + 1) := by
  have hunit : (0 : ℚ) < 2 ^ (e + 1 - digits) := zpow_pos (by norm_num) _
  have hsplit : (2 : ℚ) ^ (e + 1) = ((2 : ℤ) ^ 53 : ℤ) * 2 ^ (e + 1 - digits) := by
    rw [zpow_add_one₀ (by norm_num), two_zpow_split e]
    push_cast
    ring
  have hdigits : roundHalfEven (x / 2 ^ (e + 1 - digits)) ≤ ((2 : ℤ) ^ 53 : ℤ) := by
    have hle : x / 2 ^ (e + 1 - digits) ≤ (((2 : ℤ) ^ 53 : ℤ) : ℚ) := by
      rw [div_le_iff₀ hunit, ← hsplit]
      exact hhigh.le
    have hmono := roundHalfEven_mono hle
    rwa [roundHalfEven_intCast] at hmono
  rw [nearest_of_bounds hlow hhigh, hsplit]
  exact mul_le_mul_of_nonneg_right (by exact_mod_cast hdigits) hunit.le

theorem exists_exponent (h : 0 < x) : ∃ e : ℤ, (2 : ℚ) ^ e ≤ x ∧ x < 2 ^ (e + 1) := by
  refine ⟨Int.log 2 x, ?_, ?_⟩
  · exact_mod_cast Int.zpow_log_le_self (by norm_num) h
  · exact_mod_cast Int.lt_zpow_succ_log_self (by norm_num) x

@[simp]
theorem nearest_zero : nearest 0 = 0 := by
  have hzero : roundHalfEven (0 : ℚ) = 0 := by exact_mod_cast roundHalfEven_intCast 0
  rw [nearest, zero_div, hzero]
  simp

theorem nearest_nonneg (h : 0 ≤ x) : 0 ≤ nearest x := by
  have hrounded := roundHalfEven_nonneg (div_nonneg h ulp_pos.le : 0 ≤ x / ulp x)
  exact mul_nonneg (by exact_mod_cast hrounded) ulp_pos.le

theorem nearest_mono (hx : 0 ≤ x) (h : x ≤ y) : nearest x ≤ nearest y := by
  rcases hx.eq_or_lt with rfl | hpos
  · rw [nearest_zero]
    exact nearest_nonneg h
  · obtain ⟨e, hxlow, hxhigh⟩ := exists_exponent hpos
    obtain ⟨e', hylow, hyhigh⟩ := exists_exponent (hpos.trans_le h)
    have hle : e ≤ e' := by
      have hlt : (2 : ℚ) ^ e < 2 ^ (e' + 1) := (hxlow.trans h).trans_lt hyhigh
      have hexp := (zpow_lt_zpow_iff_right₀ (by norm_num : (1 : ℚ) < 2)).mp hlt
      omega
    rcases hle.lt_or_eq with hlt | rfl
    · calc nearest x ≤ 2 ^ (e + 1) := nearest_le_zpow hxlow hxhigh
        _ ≤ 2 ^ e' := zpow_le_zpow_right₀ (by norm_num) (by omega)
        _ ≤ nearest y := zpow_le_nearest hylow hyhigh
    · have hunit : (0 : ℚ) < 2 ^ (e + 1 - digits) := zpow_pos (by norm_num) _
      have hrounded := roundHalfEven_mono ((div_le_div_iff_of_pos_right hunit).mpr h)
      rw [nearest_of_bounds hxlow hxhigh, nearest_of_bounds hylow hyhigh]
      exact mul_le_mul_of_nonneg_right (by exact_mod_cast hrounded) hunit.le

theorem round_mono {places : ℕ} (hx : 0 ≤ x) (h : x ≤ y) : round x places ≤ round y places := by
  have hscale : (0 : ℚ) < 10 ^ places := by positivity
  have hrounded := roundHalfEven_mono (mul_le_mul_of_nonneg_right h hscale.le)
  refine nearest_mono ?_ ?_
  · have hnonneg := roundHalfEven_nonneg (mul_nonneg hx hscale.le)
    exact div_nonneg (by exact_mod_cast hnonneg) hscale.le
  · exact div_le_div_of_nonneg_right (by exact_mod_cast hrounded) hscale.le

-- Small whole numbers are doubles.
theorem nearest_intCast {n : ℤ} (hnonneg : 0 ≤ n) (hlt : n < 2 ^ digits) : nearest n = n := by
  rcases hnonneg.eq_or_lt with rfl | hpos
  · simp
  · obtain ⟨e, hlow, hhigh⟩ := exists_exponent (x := (n : ℚ)) (by exact_mod_cast hpos)
    have hexponent : e < digits := by
      have hpow : (2 : ℚ) ^ e < 2 ^ (digits : ℤ) :=
        hlow.trans_lt (by rw [zpow_natCast]; exact_mod_cast hlt)
      exact (zpow_lt_zpow_iff_right₀ (by norm_num)).mp hpow
    obtain ⟨k, hk⟩ := Int.eq_ofNat_of_zero_le (by omega : 0 ≤ digits - 1 - e)
    have hscale : (n : ℚ) / 2 ^ (e + 1 - digits) = (n * 2 ^ k : ℤ) := by
      rw [show e + 1 - (digits : ℤ) = -(k : ℤ) by omega, zpow_neg, div_inv_eq_mul, zpow_natCast]
      push_cast
      ring
    have hunit : (2 : ℚ) ^ (e + 1 - digits) ≠ 0 := (zpow_pos (by norm_num) _).ne'
    rw [nearest_of_bounds hlow hhigh, hscale, roundHalfEven_intCast, ← hscale,
      div_mul_cancel₀ _ hunit]

theorem roundHalfEven_between {n : ℤ} (hlow : n ≤ x) (hhigh : x ≤ n + 1) :
    roundHalfEven x = n + if n + 1 / 2 < x ∨ x = n + 1 / 2 ∧ Odd n then 1 else 0 := by
  rcases hhigh.lt_or_eq with hlt | rfl
  · have hfloor : ⌊x⌋ = n := Int.floor_eq_iff.mpr ⟨hlow, hlt⟩
    have hfract : Int.fract x = x - n := by rw [Int.fract, hfloor]
    unfold roundHalfEven
    rw [hfract, hfloor]
    rcases lt_trichotomy x (n + 1 / 2) with hbelow | hhalf | habove
    · rw [if_pos (by linarith), if_neg (by rintro (h | ⟨h, -⟩) <;> linarith), add_zero]
    · rw [if_neg (by linarith), if_neg (by linarith)]
      rcases Int.even_or_odd n with heven | hodd
      · rw [if_pos heven, if_neg, add_zero]
        rintro (h | ⟨-, h⟩)
        · linarith
        · exact (Int.not_odd_iff_even.mpr heven) h
      · rw [if_neg (Int.not_even_iff_odd.mpr hodd), if_pos (Or.inr ⟨hhalf, hodd⟩)]
    · rw [if_neg (by linarith), if_pos (by linarith), if_pos (Or.inl habove)]
  · rw [if_pos (Or.inl (by linarith))]
    exact_mod_cast roundHalfEven_intCast (n + 1)

section Shares

-- What a part of the whole gets of a total, rounded by itself.
def share (total whole part : ℤ) : ℤ := roundHalfEven (div (total * part : ℤ) whole)

def wholeShare (total whole part : ℤ) : ℤ := total * part / whole

-- The double nearest to the share lies past the middle between two whole numbers.
def RoundsUp (total whole part : ℤ) : Prop :=
  wholeShare total whole part + 1 / 2 < div (total * part : ℤ) whole ∨
    div (total * part : ℤ) whole = wholeShare total whole part + 1 / 2 ∧
      Odd (wholeShare total whole part)

instance (total whole part : ℤ) : Decidable (RoundsUp total whole part) := by
  unfold RoundsUp
  infer_instance

-- The parts whose share is rounded up, and what all the parts lose by rounding down.
def roundedUp (total whole : ℤ) (parts : List ℤ) : ℤ :=
  (parts.filter fun part => RoundsUp total whole part).length

def lost (total whole : ℤ) (parts : List ℤ) : ℤ :=
  (parts.map fun part => total * part % whole).sum / whole

variable {total whole part : ℤ} {parts : List ℤ}

theorem wholeShare_bounds (htotal : 0 ≤ total) (hpart : 0 ≤ part) (hle : part ≤ whole)
    (hwhole : 0 < whole) : 0 ≤ wholeShare total whole part ∧ wholeShare total whole part ≤ total := by
  refine ⟨Int.ediv_nonneg (mul_nonneg htotal hpart) hwhole.le, ?_⟩
  calc total * part / whole ≤ total * whole / whole :=
        Int.ediv_le_ediv hwhole (mul_le_mul_of_nonneg_left hle htotal)
    _ = total := Int.mul_ediv_cancel _ hwhole.ne'

theorem wholeShare_add (hwhole : whole ≠ 0) :
    wholeShare (whole + total) whole part = part + wholeShare total whole part := by
  unfold wholeShare
  rw [add_mul, add_comm, Int.add_mul_ediv_left _ _ hwhole, add_comm]

theorem share_eq (htotal : 0 ≤ total) (hsmall : total + 1 < 2 ^ digits) (hpart : 0 ≤ part)
    (hle : part ≤ whole) (hwhole : 0 < whole) :
    share total whole part =
      wholeShare total whole part + if RoundsUp total whole part then 1 else 0 := by
  obtain ⟨hnonneg, hbound⟩ := wholeShare_bounds htotal hpart hle hwhole
  have hwhole' : (0 : ℚ) < whole := by exact_mod_cast hwhole
  have hquotient : (0 : ℚ) ≤ wholeShare total whole part := by exact_mod_cast hnonneg
  have hfloor : (wholeShare total whole part : ℚ) ≤ (total * part : ℤ) / whole := by
    rw [le_div_iff₀ hwhole']
    exact_mod_cast Int.ediv_mul_le _ hwhole.ne'
  have hceil : ((total * part : ℤ) : ℚ) / whole ≤ (wholeShare total whole part + 1 : ℤ) := by
    rw [div_le_iff₀ hwhole']
    exact_mod_cast (Int.lt_ediv_add_one_mul_self _ hwhole).le
  have hlow : (wholeShare total whole part : ℚ) ≤ div (total * part : ℤ) whole := by
    rw [← nearest_intCast hnonneg (by omega)]
    exact nearest_mono hquotient hfloor
  have hhigh : div (total * part : ℤ) whole ≤ (wholeShare total whole part : ℚ) + 1 := by
    have hnext := nearest_intCast (by omega : 0 ≤ wholeShare total whole part + 1) (by omega)
    have hmono := nearest_mono (hquotient.trans hfloor) hceil
    rw [hnext] at hmono
    calc div (total * part : ℤ) whole ≤ (wholeShare total whole part + 1 : ℤ) := hmono
      _ = (wholeShare total whole part : ℚ) + 1 := by push_cast; ring
  exact roundHalfEven_between hlow hhigh

theorem sum_wholeShare (hsum : parts.sum = whole) (hwhole : 0 < whole) :
    (parts.map (wholeShare total whole)).sum = total - lost total whole parts := by
  have hparts : ∀ parts : List ℤ, whole * (parts.map (wholeShare total whole)).sum +
      (parts.map fun part => total * part % whole).sum = total * parts.sum := by
    intro parts
    induction parts with
    | nil => simp
    | cons part parts ih =>
        have hdiv : whole * wholeShare total whole part + total * part % whole = total * part :=
          Int.mul_ediv_add_emod _ _
        simp only [List.map_cons, List.sum_cons, mul_add]
        linarith
  have hsplit := hparts parts
  rw [hsum] at hsplit
  have hrest : (parts.map fun part => total * part % whole).sum =
      whole * (total - (parts.map (wholeShare total whole)).sum) := by
    rw [mul_sub, mul_comm whole total]
    linarith
  rw [lost, hrest, Int.mul_ediv_cancel_left _ hwhole.ne']
  ring

-- Rounding the shares one by one gains what rounds up and loses the rests.
theorem sum_share (htotal : 0 ≤ total) (hsmall : total + 1 < 2 ^ digits)
    (hparts : ∀ part ∈ parts, 0 ≤ part) (hsum : parts.sum = whole) (hwhole : 0 < whole) :
    (parts.map (share total whole)).sum =
      total + (roundedUp total whole parts - lost total whole parts) := by
  have hshares : parts.map (share total whole) = parts.map fun part =>
      wholeShare total whole part + if RoundsUp total whole part then 1 else 0 := by
    refine List.map_congr_left fun part hpart => ?_
    have hle : part ≤ whole := hsum ▸ List.single_le_sum hparts part hpart
    exact share_eq htotal hsmall (hparts part hpart) hle hwhole
  have hcount : (parts.map fun part => if RoundsUp total whole part then (1 : ℤ) else 0).sum =
      roundedUp total whole parts := by
    unfold roundedUp
    rw [← List.countP_eq_length_filter]
    clear hparts hsum hshares
    induction parts with
    | nil => rfl
    | cons part parts ih =>
        rw [List.map_cons, List.sum_cons, ih, List.countP_cons]
        simp only [decide_eq_true_eq]
        split <;> push_cast <;> ring
  rw [hshares, List.sum_map_add, sum_wholeShare hsum hwhole, hcount]
  ring

end Shares

end Binary64
