import Mathlib

namespace Timetable

-- The opening of one day; it runs past midnight when it closes earlier than it opens.
structure Opening (dayLength : ℤ) where
  opens : ℤ
  closes : ℤ
  opens_nonneg : 0 ≤ opens
  opens_lt : opens < dayLength
  closes_nonneg : 0 ≤ closes
  closes_lt : closes < dayLength
deriving DecidableEq

variable {D : ℤ} {o : Opening D} {n m s : ℤ}

namespace Opening

def isOvernight (o : Opening D) : Prop := o.closes < o.opens

instance : Decidable o.isOvernight := inferInstanceAs (Decidable (_ < _))

def ends (o : Opening D) : ℤ := if o.isOvernight then o.closes + D else o.closes

def span (o : Opening D) (n : ℤ) : Set ℤ := Set.Icc (n * D + o.opens) (n * D + o.ends)

-- The part of the opening on the day it begins.
def onItsDay (o : Opening D) (s : ℤ) : Prop := o.opens ≤ s ∧ (o.isOvernight ∨ s ≤ o.closes)

instance : Decidable (o.onItsDay s) := inferInstanceAs (Decidable (_ ∧ _))

def pastMidnight (o : Opening D) (s : ℤ) : Prop := o.isOvernight ∧ s ≤ o.closes

instance : Decidable (o.pastMidnight s) := inferInstanceAs (Decidable (_ ∧ _))

theorem ends_lt (o : Opening D) : o.ends < D + D := by
  have := o.closes_lt
  have := o.closes_nonneg
  unfold ends
  split <;> linarith

theorem mem_span_own (hlt : s < D) : n * D + s ∈ o.span n ↔ o.onItsDay s := by
  have hclose := o.closes_nonneg
  simp only [span, Set.mem_Icc, add_le_add_iff_left, onItsDay]
  refine and_congr_right fun _ => ?_
  unfold ends
  split
  next h => simp only [h, true_or, iff_true]; linarith
  next h => simp only [h, false_or]

theorem mem_span_next (hnonneg : 0 ≤ s) : n * D + s ∈ o.span (n - 1) ↔ o.pastMidnight s := by
  have hopen := o.opens_lt
  have hclose := o.closes_lt
  have hday : (n - 1) * D = n * D - D := by rw [sub_mul, one_mul]
  simp only [span, Set.mem_Icc, hday, pastMidnight]
  unfold ends
  split
  next h =>
    constructor
    · rintro ⟨-, hs⟩
      exact ⟨h, by linarith⟩
    · rintro ⟨-, hs⟩
      exact ⟨by linarith, by linarith⟩
  next h =>
    constructor
    · rintro ⟨-, hs⟩
      linarith
    · rintro ⟨hovernight, -⟩
      exact absurd hovernight h

-- An opening lasts less than two days.
theorem eq_or_pred_of_mem_span (hnonneg : 0 ≤ s) (hlt : s < D) (h : n * D + s ∈ o.span m) :
    m = n ∨ m = n - 1 := by
  obtain ⟨hopens, hends⟩ := h
  have hopen := o.opens_nonneg
  have hlast := o.ends_lt
  have hD : 0 < D := lt_of_le_of_lt hnonneg hlt
  have hle : m ≤ n := by
    by_contra hgt
    have : (n + 1) * D ≤ m * D := Int.mul_le_mul_of_nonneg_right (by omega) hD.le
    rw [add_mul, one_mul] at this
    linarith
  have hge : n - 1 ≤ m := by
    by_contra hgt
    have : (m + 2) * D ≤ n * D := Int.mul_le_mul_of_nonneg_right (by omega) hD.le
    rw [add_mul] at this
    linarith
  omega

end Opening

-- Some day's opening contains the moment.
def OpenAt (timetable : ℤ → Option (Opening D)) (moment : ℤ) : Prop :=
  ∃ n, ∃ o ∈ timetable n, moment ∈ o.span n

theorem openAt_iff (timetable : ℤ → Option (Opening D)) (hnonneg : 0 ≤ s) (hlt : s < D) :
    OpenAt timetable (n * D + s) ↔
      (∃ o ∈ timetable n, o.onItsDay s) ∨ ∃ o ∈ timetable (n - 1), o.pastMidnight s := by
  constructor
  · rintro ⟨m, o, ho, hmem⟩
    obtain rfl | rfl := Opening.eq_or_pred_of_mem_span hnonneg hlt hmem
    · exact Or.inl ⟨o, ho, (Opening.mem_span_own hlt).mp hmem⟩
    · exact Or.inr ⟨o, ho, (Opening.mem_span_next hnonneg).mp hmem⟩
  · rintro (⟨o, ho, h⟩ | ⟨o, ho, h⟩)
    · exact ⟨n, o, ho, (Opening.mem_span_own hlt).mpr h⟩
    · exact ⟨n - 1, o, ho, (Opening.mem_span_next hnonneg).mpr h⟩

section Daily

variable {slots : Set ℤ} {moment r : ℤ}

-- What has come by a moment of all that comes at the same times every day.
def passed (D : ℤ) (slots : Set ℤ) (moment : ℤ) : Set ℤ :=
  {u | u ≤ moment ∧ ∃ n, ∃ s ∈ slots, u = n * D + s}

variable (hslots : ∀ s ∈ slots, 0 ≤ s ∧ s < D)

include hslots in
theorem day_le (hs : s ∈ slots) (h : n * D + s ≤ moment) : n ≤ moment / D := by
  obtain ⟨hnonneg, hlt⟩ := hslots s hs
  have hD : 0 < D := lt_of_le_of_lt hnonneg hlt
  exact (Int.le_ediv_iff_mul_le hD).mpr (by linarith)

include hslots in
-- A day's times are over before the next day's come.
theorem add_lt_of_lt (hs : s ∈ slots) (hr : r ∈ slots) (h : n < m) : n * D + r < m * D + s := by
  obtain ⟨hnonneg, -⟩ := hslots s hs
  obtain ⟨hnonneg', hlt⟩ := hslots r hr
  have hD : 0 < D := lt_of_le_of_lt hnonneg' hlt
  have hnext : (n + 1) * D ≤ m * D := Int.mul_le_mul_of_nonneg_right (by omega) hD.le
  rw [add_mul, one_mul] at hnext
  linarith

include hslots in
theorem isGreatest_passed_today (hs : s ∈ slots) (hle : moment / D * D + s ≤ moment)
    (hmax : ∀ r ∈ slots, moment / D * D + r ≤ moment → r ≤ s) :
    IsGreatest (passed D slots moment) (moment / D * D + s) := by
  refine ⟨⟨hle, _, s, hs, rfl⟩, ?_⟩
  rintro u ⟨hu, n, r, hr, rfl⟩
  rcases (day_le hslots hr hu).lt_or_eq with hlt | rfl
  · exact (add_lt_of_lt hslots hs hr hlt).le
  · have := hmax r hr hu
    linarith

include hslots in
theorem isGreatest_passed_yesterday_iff (hs : s ∈ slots)
    (hnone : ∀ r ∈ slots, moment < moment / D * D + r) :
    IsGreatest (passed D slots moment) ((moment / D - 1) * D + s) ↔ ∀ r ∈ slots, r ≤ s := by
  have hbefore {r : ℤ} (hr : r ∈ slots) : (moment / D - 1) * D + r ≤ moment := by
    obtain ⟨hnonneg, hlt⟩ := hslots r hr
    have := Int.ediv_mul_le moment (lt_of_le_of_lt hnonneg hlt).ne'
    rw [sub_mul, one_mul]
    linarith
  constructor
  · rintro ⟨-, hmax⟩ r hr
    have := hmax ⟨hbefore hr, _, r, hr, rfl⟩
    linarith
  · intro hmax
    refine ⟨⟨hbefore hs, _, s, hs, rfl⟩, ?_⟩
    rintro u ⟨hu, n, r, hr, rfl⟩
    have hday : n < moment / D := by
      refine lt_of_le_of_ne (day_le hslots hr hu) ?_
      rintro rfl
      exact absurd hu (hnone r hr).not_ge
    rcases (Int.le_sub_one_of_lt hday).lt_or_eq with hlt | rfl
    · exact (add_lt_of_lt hslots hs hr hlt).le
    · have := hmax r hr
      linarith

end Daily

end Timetable
