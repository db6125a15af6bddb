import NextgenBackend.Library.Decimal
import NextgenBackend.Shared.Pricing

namespace NextgenBackend.Vat

-- The precision of the default context, in which the amounts are multiplied and divided.
abbrev precision : Nat := 28

def calculateVatCents (amountCents : Cents) (vatRateBasisPoints : Int) (vatInclusive : Bool) :
    Option Cents :=
  if vatRateBasisPoints ≤ 0 ∨ amountCents ≤ 0 then some 0
  else
    let taxed := Decimal.mul precision amountCents vatRateBasisPoints
    let exact :=
      if vatInclusive then
        Decimal.div precision taxed (Decimal.add precision 10000 vatRateBasisPoints)
      else Decimal.div precision taxed 10000
    Decimal.quantizeHalfUp precision exact

def applyVatToTotal (netTotalCents : Cents) (vatRateBasisPoints : Int) (vatInclusive : Bool) :
    Option (Cents × Cents) :=
  (calculateVatCents netTotalCents vatRateBasisPoints vatInclusive).map fun vat =>
    if vatInclusive then (netTotalCents, vat) else (netTotalCents + vat, vat)

def divisor (vatRateBasisPoints : Int) (vatInclusive : Bool) : Nat :=
  if vatInclusive then 10000 + vatRateBasisPoints.toNat else 10000

-- The rational amount of VAT, before any rounding.
def exactVat (amountCents : Cents) (vatRateBasisPoints : Int) (vatInclusive : Bool) : ℚ :=
  (amountCents * vatRateBasisPoints : Int) / divisor vatRateBasisPoints vatInclusive

variable {amount rate : Int} {inclusive : Bool}

theorem roundHalfUp_div {num : Int} {den : Nat} (hnum : 0 ≤ num) (hden : 0 < den) :
    Decimal.roundHalfUp (num / den) = Pricing.roundHalfUp num den := by
  have hden' : (0 : ℚ) < den := by exact_mod_cast hden
  have hquotient : (0 : ℚ) ≤ num / den := div_nonneg (by exact_mod_cast hnum) hden'.le
  rw [Pricing.roundHalfUp, if_pos hnum, Decimal.roundHalfUp_eq_iff hquotient]
  have hdiv := Int.mul_ediv_add_emod (2 * num + den) (2 * den)
  have hpos := Int.emod_nonneg (2 * num + den) (b := 2 * den) (by omega)
  have hlt := Int.emod_lt_of_pos (2 * num + den) (b := 2 * den) (by omega)
  generalize (2 * num + (den : Int)) / (2 * den) = v at hdiv ⊢
  have hlow : ((2 * v - 1) * den : ℚ) ≤ 2 * num := by
    have hwhole : (2 * v - 1) * (den : Int) ≤ 2 * num := by linarith
    exact_mod_cast hwhole
  have hhigh : (2 * num : ℚ) < (2 * v + 1) * den := by
    have hwhole : 2 * num < (2 * v + 1) * (den : Int) := by linarith
    exact_mod_cast hwhole
  rw [le_div_iff₀ hden', div_lt_iff₀ hden']
  constructor <;> linarith

theorem divisor_pos : 0 < divisor rate inclusive := by
  unfold divisor
  split <;> omega

theorem divisor_le (h : rate ≤ 10000) : divisor rate inclusive ≤ 20000 := by
  unfold divisor
  split <;> omega

theorem exactVat_nonneg (hamount : 0 ≤ amount) (hrate : 0 ≤ rate) :
    0 ≤ exactVat amount rate inclusive :=
  div_nonneg (by exact_mod_cast mul_nonneg hamount hrate) (Nat.cast_nonneg _)

theorem pricing_calculateVatCents (hamount : 0 ≤ amount) (hrate : 0 < rate) :
    Pricing.calculateVatCents amount rate inclusive =
      Decimal.roundHalfUp (exactVat amount rate inclusive) := by
  rcases hamount.eq_or_lt with rfl | hpos
  · have hzero : Decimal.roundHalfUp 0 = 0 := by
      rw [Decimal.roundHalfUp_eq_iff le_rfl]
      norm_num
    simp [exactVat, hzero, Pricing.calculateVatCents]
  · have htaxed : ¬ (rate ≤ 0 ∨ amount ≤ 0) := by omega
    rw [exactVat, roundHalfUp_div (mul_nonneg hamount hrate.le) divisor_pos,
      Pricing.calculateVatCents, if_neg htaxed, divisor]
    split <;> rfl

theorem pricing_calculateVatCents_nonneg :
    0 ≤ Pricing.calculateVatCents amount rate inclusive := by
  by_cases hskip : rate ≤ 0 ∨ amount ≤ 0
  · simp [Pricing.calculateVatCents, hskip]
  · obtain ⟨hrate, hamount⟩ := not_or.mp hskip
    rw [pricing_calculateVatCents (le_of_not_ge hamount) (lt_of_not_ge hrate)]
    exact Decimal.roundHalfUp_nonneg
      (exactVat_nonneg (le_of_not_ge hamount) (le_of_not_ge hrate))

theorem pricing_applyVatToTotal_nonneg (h : 0 ≤ amount) :
    0 ≤ (Pricing.applyVatToTotal amount rate inclusive).1 := by
  unfold Pricing.applyVatToTotal
  split
  · exact h
  · exact add_nonneg h pricing_calculateVatCents_nonneg

theorem exactVat_zero : exactVat 0 rate inclusive = 0 := by
  simp [exactVat]

theorem roundHalfUp_zero : Decimal.roundHalfUp 0 = 0 := by
  rw [Decimal.roundHalfUp_eq_iff le_rfl]
  norm_num

theorem taxed_lt (hmax : rate ≤ 10000) (hsmall : exactVat amount rate inclusive < 10 ^ 23) :
    amount * rate < 10 ^ precision := by
  have hdivisor : (0 : ℚ) < divisor rate inclusive := by exact_mod_cast divisor_pos
  have hle : (divisor rate inclusive : ℚ) ≤ 20000 := by exact_mod_cast divisor_le hmax
  rw [exactVat, div_lt_iff₀ hdivisor] at hsmall
  have hbound : ((amount * rate : Int) : ℚ) < 10 ^ precision := by
    calc ((amount * rate : Int) : ℚ) < 10 ^ 23 * divisor rate inclusive := hsmall
      _ ≤ 10 ^ 23 * 20000 := by gcongr
      _ < 10 ^ precision := by norm_num
  exact_mod_cast hbound

-- Neither the product nor the divisor is rounded: only the quotient is.
theorem calculateVatCents_quotient (hamount : 0 < amount) (hrate : 0 < rate) (hmax : rate ≤ 10000)
    (htaxed : amount * rate < 10 ^ precision) :
    calculateVatCents amount rate inclusive =
      Decimal.quantizeHalfUp precision
        (Decimal.fix precision (exactVat amount rate inclusive)) := by
  have hskip : ¬ (rate ≤ 0 ∨ amount ≤ 0) := by omega
  have hproduct : |amount * rate| < 10 ^ precision := by
    rwa [abs_of_nonneg (mul_nonneg hamount.le hrate.le)]
  have hmul : Decimal.mul precision amount rate = (amount * rate : Int) := by
    rw [Decimal.mul, ← Int.cast_mul, Decimal.fix_intCast hproduct]
  have hroom : (20000 : Int) < 10 ^ precision := by norm_num
  have hadd : Decimal.add precision 10000 rate = (10000 + rate : Int) := by
    have hcast : (10000 + rate : ℚ) = (10000 + rate : Int) := by push_cast; rfl
    have habs : |10000 + rate| < 10 ^ precision := by
      rw [abs_of_pos (by omega)]
      omega
    rw [Decimal.add, hcast, Decimal.fix_intCast habs]
  have htotal : ((10000 + rate.toNat : Nat) : ℚ) = (10000 + rate : Int) := by
    have hnat : ((10000 + rate.toNat : Nat) : Int) = 10000 + rate := by omega
    exact_mod_cast hnat
  rw [calculateVatCents, if_neg hskip, exactVat, divisor, hmul, hadd]
  cases inclusive with
  | true => simp only [if_true, Decimal.div, htotal]
  | false => simp [Decimal.div]

-- Below this the context has five digits to spare, and every divisor less than as many.
theorem calculateVatCents_eq (hamount : 0 ≤ amount) (hrate : 0 < rate) (hmax : rate ≤ 10000)
    (hsmall : exactVat amount rate inclusive < 10 ^ 23) :
    calculateVatCents amount rate inclusive =
      some (Decimal.roundHalfUp (exactVat amount rate inclusive)) := by
  rcases hamount.eq_or_lt with rfl | hpos
  · simp [exactVat_zero, roundHalfUp_zero, calculateVatCents]
  have hfew : divisor rate inclusive < 10 ^ 5 := by
    have hle : divisor rate inclusive ≤ 20000 := divisor_le hmax
    omega
  have hround : Decimal.roundHalfUp (Decimal.fix precision (exactVat amount rate inclusive)) =
      Decimal.roundHalfUp (exactVat amount rate inclusive) := by
    refine Decimal.roundHalfUp_fix (mul_nonneg hamount hrate.le) divisor_pos (by omega) hfew ?_
    exact lt_of_lt_of_le hsmall (by norm_num)
  have hnonneg : 0 ≤ exactVat amount rate inclusive := exactVat_nonneg hamount hrate.le
  have hroom : |Decimal.roundHalfUp (exactVat amount rate inclusive)| < 10 ^ precision := by
    rw [abs_of_nonneg (Decimal.roundHalfUp_nonneg hnonneg)]
    have hlow := ((Decimal.roundHalfUp_eq_iff hnonneg).mp rfl).1
    have hbound : (Decimal.roundHalfUp (exactVat amount rate inclusive) : ℚ) < 10 ^ precision := by
      calc (Decimal.roundHalfUp (exactVat amount rate inclusive) : ℚ)
          ≤ exactVat amount rate inclusive + 1 / 2 := by linarith
        _ < 10 ^ 23 + 1 / 2 := by linarith
        _ < 10 ^ precision := by norm_num
    exact_mod_cast hbound
  rw [calculateVatCents_quotient hpos hrate hmax (taxed_lt hmax hsmall), Decimal.quantizeHalfUp,
    hround, if_pos hroom]

-- The two roundings cancel: the gross amount moves the quotient by less than a half.
theorem extracted_eq {net : Cents} (hnet : 0 ≤ net) (hrate : 0 < rate) :
    Decimal.roundHalfUp
        (exactVat (net + Decimal.roundHalfUp (exactVat net rate false)) rate true) =
      Decimal.roundHalfUp (exactVat net rate false) := by
  have hnonneg : 0 ≤ exactVat net rate false := exactVat_nonneg hnet hrate.le
  obtain ⟨hlow, hhigh⟩ := (Decimal.roundHalfUp_eq_iff hnonneg).mp rfl
  have hvat := Decimal.roundHalfUp_nonneg hnonneg
  generalize Decimal.roundHalfUp (exactVat net rate false) = vat at hlow hhigh hvat ⊢
  have hrate' : (0 : ℚ) < rate := by exact_mod_cast hrate
  have hdivisor : ((divisor rate true : Nat) : ℚ) = 10000 + rate := by
    have hnat : ((divisor rate true : Nat) : Int) = 10000 + rate := by
      simp only [divisor, if_true]
      omega
    exact_mod_cast hnat
  have htotal : (0 : ℚ) < 10000 + rate := by linarith
  rw [Decimal.roundHalfUp_eq_iff (exactVat_nonneg (add_nonneg hnet hvat) hrate.le), exactVat, hdivisor,
    le_div_iff₀ htotal, div_lt_iff₀ htotal]
  simp only [exactVat, divisor, Bool.false_eq_true, if_false] at hlow hhigh
  push_cast at hlow hhigh ⊢
  rw [le_div_iff₀ (by norm_num)] at hlow
  rw [div_lt_iff₀ (by norm_num)] at hhigh
  constructor <;> nlinarith

theorem gross_lt {net : Cents} (hnet : 0 ≤ net) (hrate : 0 < rate) (hmax : rate ≤ 10000)
    (hgross : net + Decimal.roundHalfUp (exactVat net rate false) < 2 * 10 ^ 23) :
    exactVat net rate false < 10 ^ 23 ∧
      exactVat (net + Decimal.roundHalfUp (exactVat net rate false)) rate true < 10 ^ 23 := by
  have hnonneg : 0 ≤ exactVat net rate false := exactVat_nonneg hnet hrate.le
  obtain ⟨-, hhigh⟩ := (Decimal.roundHalfUp_eq_iff hnonneg).mp rfl
  generalize Decimal.roundHalfUp (exactVat net rate false) = vat at hhigh hgross ⊢
  constructor
  · by_contra hnot
    have hvat : (10 : ℚ) ^ 23 - 1 / 2 < vat := by linarith
    have hvat' : (10 : Int) ^ 23 ≤ vat := by
      have hlt : (10 : ℚ) ^ 23 - 1 < vat := by linarith
      have hlt' : (10 : Int) ^ 23 - 1 < vat := by exact_mod_cast hlt
      omega
    have hnet' : (10 : Int) ^ 23 ≤ net := by
      have hquotient : (10 : ℚ) ^ 23 ≤ ((net * rate : Int) : ℚ) / (10000 : Nat) := not_lt.mp hnot
      rw [le_div_iff₀ (by norm_num)] at hquotient
      have hproduct : (10 : Int) ^ 23 * 10000 ≤ net * rate := by exact_mod_cast hquotient
      have hcap : net * rate ≤ net * 10000 := mul_le_mul_of_nonneg_left hmax hnet
      linarith
    linarith
  · have hdivisor : ((divisor rate true : Nat) : Int) = 10000 + rate := by
      simp only [divisor, if_true]
      omega
    have hbound : (net + vat) * rate < 10 ^ 23 * (divisor rate true : Int) := by
      rw [hdivisor]
      nlinarith
    rw [exactVat, div_lt_iff₀ (by exact_mod_cast divisor_pos)]
    exact_mod_cast hbound

theorem applyVatToTotal_eq {vat : Cents} (h : calculateVatCents amount rate inclusive = some vat) :
    applyVatToTotal amount rate inclusive =
      some (if inclusive then (amount, vat) else (amount + vat, vat)) := by
  simp [applyVatToTotal, h]

-- Every amount is the exact one rounded once, and both modes agree on gross and tax.
def ModesAgree (net : Cents) (rate : Int) : Prop :=
  let vat := Decimal.roundHalfUp (exactVat net rate false)
  calculateVatCents net rate false = some vat ∧
    calculateVatCents (net + vat) rate true = some vat ∧
    vat = Decimal.roundHalfUp (exactVat (net + vat) rate true) ∧
    applyVatToTotal net rate false = some (net + vat, vat) ∧
    applyVatToTotal (net + vat) rate true = applyVatToTotal net rate false

theorem vat_modes_agree (rate : Int) (hrate : 0 < rate) (hmax : rate ≤ 10000) :
    (∀ net : Cents, 0 ≤ net →
      net + Decimal.roundHalfUp (exactVat net rate false) < 2 * 10 ^ 23 → ModesAgree net rate) ∧
    ∀ (amount : Cents) (inclusive : Bool), 0 ≤ amount →
      exactVat amount rate inclusive < 10 ^ 23 →
        calculateVatCents amount rate inclusive =
          some (Decimal.roundHalfUp (exactVat amount rate inclusive)) := by
  refine ⟨fun net hnet hgross => ?_, fun amount inclusive hamount hsmall =>
    calculateVatCents_eq hamount hrate hmax hsmall⟩
  obtain ⟨hadded, hcontained⟩ := gross_lt hnet hrate hmax hgross
  have hnonneg : 0 ≤ exactVat net rate false := exactVat_nonneg hnet hrate.le
  have hvat := Decimal.roundHalfUp_nonneg hnonneg
  have hextracted := extracted_eq hnet hrate
  have hexclusive := calculateVatCents_eq hnet hrate hmax hadded
  have hinclusive := calculateVatCents_eq (add_nonneg hnet hvat) hrate hmax hcontained
  rw [hextracted] at hinclusive
  refine ⟨hexclusive, hinclusive, hextracted.symm, applyVatToTotal_eq hexclusive, ?_⟩
  rw [applyVatToTotal_eq hexclusive, applyVatToTotal_eq hinclusive]
  rfl

theorem hundred_rand_modes_agree : ModesAgree 10000 1500 := by
  have hvat : Decimal.roundHalfUp (exactVat 10000 1500 false) = 1500 := by
    rw [Decimal.roundHalfUp_eq_iff (exactVat_nonneg (by decide) (by decide))]
    norm_num [exactVat, divisor]
  exact (vat_modes_agree 1500 (by decide) (by decide)).1 10000 (by decide)
    (by rw [hvat]; norm_num)

-- At 99.97% this amount contains less than half a cent over, which the context rounds to a half.
def misrounded : Cents := 300000000000000000008881

theorem misrounded_vat_exact :
    exactVat misrounded 9997 true = 2999100000000000000088783357 / 19997 := by
  have hdivisor : divisor 9997 true = 19997 := by decide
  rw [exactVat, hdivisor]
  norm_num [misrounded]

theorem misrounded_exact :
    Decimal.roundHalfUp (exactVat misrounded 9997 true) = 149977496624493674055547 := by
  rw [misrounded_vat_exact, Decimal.roundHalfUp_eq_iff (by norm_num)]
  norm_num

theorem misrounded_quotient :
    Decimal.fix precision (exactVat misrounded 9997 true) = 149977496624493674055547 + 1 / 2 := by
  have hulp : Decimal.ulp precision (2999100000000000000088783357 / 19997) = 1 / 10 ^ 4 := by
    rw [Decimal.ulp_eq (e := 23) (by norm_num) (by norm_num)]
    norm_num
  have hround : Decimal.roundHalfEven (2999100000000000000088783357 / 19997 / (1 / 10 ^ 4)) =
      1499774966244936740555475000 :=
    Decimal.roundHalfEven_eq (by norm_num [abs_lt])
  rw [misrounded_vat_exact, Decimal.fix, hulp, hround]
  norm_num

theorem misrounded_vat :
    calculateVatCents misrounded 9997 true = some 149977496624493674055548 := by
  have hround : Decimal.roundHalfUp (149977496624493674055547 + 1 / 2) =
      149977496624493674055548 := by
    rw [Decimal.roundHalfUp_eq_iff (by norm_num)]
    norm_num
  rw [calculateVatCents_quotient (by decide) (by decide) (by decide) (by decide),
    misrounded_quotient, Decimal.quantizeHalfUp, hround]
  decide

theorem contained_vat_off_by_a_cent :
    ¬ ∀ (rate : Int) (net : Cents), 0 < rate → rate ≤ 10000 → 0 ≤ net →
      ModesAgree net rate ∧ ∀ inclusive : Bool,
        calculateVatCents net rate inclusive =
          some (Decimal.roundHalfUp (exactVat net rate inclusive)) := by
  intro h
  have hexact := (h 9997 misrounded (by decide) (by decide) (by decide)).2 true
  rw [misrounded_exact, misrounded_vat] at hexact
  cases hexact

end NextgenBackend.Vat
