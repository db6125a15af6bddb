import Mathlib
import NextgenBackend.Bot.Quantities
import NextgenBackend.Library.Fallible
import NextgenBackend.Library.Timetable

namespace NextgenBackend.Inventory.StocktakeSchedule

open Bot.Llm (PyError)
open Bot.Quantities (int isdigit)
open Fallible
open Timetable (passed)

-- Moments and lengths of time are counted in microseconds.
def minute : ℤ := 60 * 1000000

def dayLength : ℤ := 24 * 60 * minute

def sorted (times : List String) : List String :=
  times.insertionSort fun s t => s.toList ≤ t.toList

def inRange (hh mm : ℤ) : Bool := 0 ≤ hh && hh ≤ 23 && 0 ≤ mm && mm ≤ 59

def validTime (t : String) : Except PyError Unit :=
  match t.toList.splitOn ':' with
  | [hhText, mmText] =>
      if isdigit hhText && isdigit mmText then do
        let hh ← int hhText
        let mm ← int mmText
        if inRange hh mm then .ok () else .error .valueError
      else .error .valueError
  | _ => .error .valueError

-- What the settings endpoint stores of a list of times.
def validTimes (v : List String) : Except PyError (List String) :=
  if 12 < v.length then .error .valueError
  else do
    v.forM validTime
    return sorted v

def timeOfDay (hh mm : ℤ) : Except PyError ℤ :=
  if inRange hh mm then .ok ((hh * 60 + mm) * minute) else .error .valueError

def parseHhmm (value : String) : Except PyError ℤ :=
  match value.toList.splitOn ':' with
  | [hhText, mmText] => do
      let hh ← int hhText
      let mm ← int mmText
      timeOfDay hh mm
  | _ => .error .valueError

-- The largest text, the first of them where several are alike.
def maxText : List String → Option String
  | [] => none
  | t :: ts => some (ts.foldl (fun best s => if best.toList < s.toList then s else best) t)

-- The local clock is ahead of the universal one by the offset of the business.
def mostRecentDeadlineUtc (offset : ℤ) (timesJson : Option (List String)) (now : ℤ) :
    Except PyError ℤ :=
  let nowLocal := now + offset
  let today := nowLocal / dayLength
  let times := sorted (timesJson.getD [])
  match maxText times with
  | none => .ok (today * dayLength - offset)
  | some last => do
      let slots ← times.mapM parseHhmm
      match ((slots.map (today * dayLength + ·)).filter (· ≤ nowLocal)).max? with
      | some deadline => .ok (deadline - offset)
      | none => do
          let lastTime ← parseHhmm last
          return (today - 1) * dayLength + lastTime - offset

structure Cadence where
  offset : ℤ
  stocktakeTimes : Option (List String)
  createdAt : Option ℤ

def isStocktakeOverdue (business : Cadence) (lastCompletedStocktakeAt : Option ℤ) (now : ℤ) :
    Except PyError Bool := do
  let deadline ← mostRecentDeadlineUtc business.offset business.stocktakeTimes now
  match lastCompletedStocktakeAt <|> business.createdAt with
  | none => return true
  | some referenceAt => return referenceAt < deadline

-- The times of day at which a count is due; without any, one is due as the day begins.
def scheduled (times : List String) : Set ℤ :=
  {slot | if times = [] then slot = 0 else ∃ t ∈ times, parseHhmm t = .ok slot}

-- The scheduled moments of all local days that have come.
def occurred (offset : ℤ) (times : List String) (now : ℤ) : Set ℤ :=
  {u | u ≤ now ∧ ∃ localDay, ∃ slot ∈ scheduled times, u = localDay * dayLength + slot - offset}

variable {t : String} {times v : List String} {offset now slot : ℤ}

theorem timeOfDay_range {hh mm : ℤ} (h : timeOfDay hh mm = .ok slot) :
    0 ≤ slot ∧ slot < dayLength := by
  unfold timeOfDay inRange at h
  split at h
  next hrange =>
    obtain rfl := Except.ok.inj h
    simp only [Bool.and_eq_true, decide_eq_true_eq] at hrange
    unfold dayLength minute
    omega
  next => cases h

theorem parseHhmm_range (h : parseHhmm t = .ok slot) : 0 ≤ slot ∧ slot < dayLength := by
  unfold parseHhmm at h
  split at h
  next =>
    obtain ⟨hh, -, h⟩ := bind_eq_ok h
    obtain ⟨mm, -, h⟩ := bind_eq_ok h
    exact timeOfDay_range h
  next => cases h

-- A time that is stored is read again.
theorem parseHhmm_of_validTime (h : validTime t = .ok ()) : ∃ slot, parseHhmm t = .ok slot := by
  unfold validTime at h
  unfold parseHhmm
  split at h
  next hhText mmText _ =>
    split at h
    next =>
      obtain ⟨hh, hhh, h⟩ := bind_eq_ok h
      obtain ⟨mm, hmm, h⟩ := bind_eq_ok h
      split at h
      next hrange =>
        refine ⟨(hh * 60 + mm) * minute, ?_⟩
        rw [hhh, hmm]
        exact if_pos hrange
      next => cases h
    next => cases h
  next => cases h

theorem mem_sorted : t ∈ sorted times ↔ t ∈ times := List.mem_insertionSort _

theorem validTime_of_forM (h : v.forM validTime = .ok ()) : ∀ t ∈ v, validTime t = .ok () := by
  induction v with
  | nil => nofun
  | cons s v ih =>
      obtain ⟨_, hs, h⟩ := bind_eq_ok h
      exact List.forall_mem_cons.mpr ⟨hs, ih h⟩

theorem exists_slot (h : validTimes v = .ok times) : ∀ t ∈ times, ∃ slot, parseHhmm t = .ok slot := by
  unfold validTimes at h
  split at h
  next => cases h
  next =>
    obtain ⟨_, hall, h⟩ := bind_eq_ok h
    obtain rfl := Except.ok.inj h
    exact fun t ht => parseHhmm_of_validTime (validTime_of_forM hall t (mem_sorted.mp ht))

theorem maxText_spec {last : String} (h : maxText times = some last) :
    last ∈ times ∧ ∀ s ∈ times, s.toList ≤ last.toList := by
  cases times with
  | nil => cases h
  | cons t ts =>
      obtain rfl := Option.some.inj h
      induction ts generalizing t with
      | nil => exact ⟨List.mem_singleton_self _, by simp⟩
      | cons s ts ih =>
          rw [List.foldl_cons]
          rcases lt_or_ge t.toList s.toList with hlt | hge
          · rw [if_pos hlt]
            obtain ⟨hmem, hmax⟩ := ih (t := s) rfl
            refine ⟨List.mem_cons_of_mem _ hmem, List.forall_mem_cons.mpr ⟨?_, hmax⟩⟩
            exact hlt.le.trans (hmax s List.mem_cons_self)
          · rw [if_neg hge.not_gt]
            obtain ⟨hmem, hmax⟩ := ih (t := t) rfl
            obtain ⟨hhead, htail⟩ := List.forall_mem_cons.mp hmax
            refine ⟨?_, List.forall_mem_cons.mpr ⟨hhead, List.forall_mem_cons.mpr ⟨?_, htail⟩⟩⟩
            · rcases List.mem_cons.mp hmem with hmem | hmem
              · rw [hmem]
                exact List.mem_cons_self
              · exact List.mem_cons_of_mem _ (List.mem_cons_of_mem _ hmem)
            · exact le_trans hge hhead

theorem eq_nil_of_maxText (h : maxText (sorted times) = none) : times = [] := by
  cases hsorted : sorted times with
  | nil =>
      refine List.eq_nil_iff_forall_not_mem.mpr fun t ht => ?_
      have hmem := mem_sorted.mpr ht
      rw [hsorted] at hmem
      cases hmem
  | cons t ts =>
      rw [hsorted] at h
      cases h

theorem scheduled_range : ∀ slot ∈ scheduled times, 0 ≤ slot ∧ slot < dayLength := by
  intro slot hslot
  change if times = [] then slot = 0 else ∃ t ∈ times, parseHhmm t = .ok slot at hslot
  split at hslot
  · subst hslot
    decide
  · obtain ⟨t, -, ht⟩ := hslot
    exact parseHhmm_range ht

theorem mem_scheduled (hne : times ≠ []) :
    slot ∈ scheduled times ↔ ∃ t ∈ times, parseHhmm t = .ok slot := by
  change (if times = [] then slot = 0 else _) ↔ _
  rw [if_neg hne]

-- A deadline is the last of today's that has come, or else yesterday's at the largest text.
inductive Deadline (offset : ℤ) (times : List String) (now : ℤ) : ℤ → Prop
  | today {slot : ℤ} (hmem : slot ∈ scheduled times)
      (hcame : (now + offset) / dayLength * dayLength + slot ≤ now + offset)
      (hlast : ∀ r ∈ scheduled times,
        (now + offset) / dayLength * dayLength + r ≤ now + offset → r ≤ slot) :
      Deadline offset times now ((now + offset) / dayLength * dayLength + slot - offset)
  | yesterday {slot : ℤ} {t : String} (hmem : t ∈ times)
      (hlargest : ∀ s ∈ times, s.toList ≤ t.toList) (hslot : parseHhmm t = .ok slot)
      (hnone : ∀ r ∈ scheduled times,
        now + offset < (now + offset) / dayLength * dayLength + r) :
      Deadline offset times now (((now + offset) / dayLength - 1) * dayLength + slot - offset)

theorem day_started (moment : ℤ) : moment / dayLength * dayLength ≤ moment :=
  Int.ediv_mul_le moment (by decide)

theorem mostRecentDeadlineUtc_spec (h : validTimes v = .ok times) (offset now : ℤ) :
    Gives (mostRecentDeadlineUtc offset (some times) now) (Deadline offset times now) := by
  unfold mostRecentDeadlineUtc
  simp only [Option.getD_some]
  set today := (now + offset) / dayLength
  split
  next hnone =>
    obtain rfl := eq_nil_of_maxText hnone
    have hslot : (0 : ℤ) ∈ scheduled [] := rfl
    have hday := @Deadline.today offset [] now 0 hslot
      (by rw [add_zero]; exact day_started _) (fun r hr _ => le_of_eq hr)
    rw [add_zero] at hday
    exact gives_ok.mpr hday
  next last hlast =>
    obtain ⟨hmem, hlargest⟩ := maxText_spec hlast
    rw [mem_sorted] at hmem
    have hne : times ≠ [] := List.ne_nil_of_mem hmem
    have hall : ∀ t ∈ sorted times, Succeeds (parseHhmm t) := fun t ht => by
      obtain ⟨slot, hslot⟩ := exists_slot h t (mem_sorted.mp ht)
      exact ⟨slot, hslot, trivial⟩
    rw [gives_bind, gives_mapM]
    refine ⟨hall, ?_⟩
    have hslots (r : ℤ) :
        r ∈ (sorted times).filterMap (fun t => (parseHhmm t).toOption) ↔ r ∈ scheduled times := by
      rw [mem_scheduled hne]
      simp only [List.mem_filterMap, mem_sorted, toOption_eq_some]
    split
    next deadline hmax =>
      obtain ⟨hdeadline, hlatest⟩ := List.max?_eq_some_iff.mp hmax
      obtain ⟨hdeadline, hcame⟩ := List.mem_filter.mp hdeadline
      obtain ⟨slot, hslot, rfl⟩ := List.mem_map.mp hdeadline
      refine gives_ok.mpr (.today ((hslots slot).mp hslot) (of_decide_eq_true hcame) ?_)
      intro r hr hle
      have hmem := List.mem_map_of_mem (f := (today * dayLength + ·)) ((hslots r).mpr hr)
      exact le_of_add_le_add_left (hlatest _ (List.mem_filter.mpr ⟨hmem, decide_eq_true hle⟩))
    next hnone =>
      obtain ⟨lastTime, hlastTime⟩ := exists_slot h last hmem
      rw [gives_bind, hlastTime]
      refine gives_ok.mpr (gives_ok.mpr (.yesterday hmem ?_ hlastTime ?_))
      · exact fun s hs => hlargest s (mem_sorted.mpr hs)
      · intro r hr
        have hempty := List.filter_eq_nil_iff.mp (List.max?_eq_none_iff.mp hnone)
        have hnot := hempty _ (List.mem_map_of_mem ((hslots r).mpr hr))
        rw [decide_eq_true_eq] at hnot
        exact not_le.mp hnot

-- A time has come today, or the text that sorts last is the latest time.
def TextsInOrder (offset : ℤ) (times : List String) (now : ℤ) : Prop :=
  (∃ slot ∈ scheduled times, (now + offset) / dayLength * dayLength + slot ≤ now + offset) ∨
    ∃ t ∈ times, (∀ s ∈ times, s.toList ≤ t.toList) ∧
      ∃ last, parseHhmm t = .ok last ∧ ∀ slot ∈ scheduled times, slot ≤ last

theorem isGreatest_occurred_iff {moment : ℤ} :
    IsGreatest (occurred offset times now) (moment - offset) ↔
      IsGreatest (passed dayLength (scheduled times) (now + offset)) moment := by
  have hmem {u : ℤ} : u - offset ∈ occurred offset times now ↔
      u ∈ passed dayLength (scheduled times) (now + offset) := by
    simp only [occurred, passed, Set.mem_ofPred_eq, sub_le_iff_le_add, sub_left_inj]
  constructor
  · rintro ⟨h, hmax⟩
    exact ⟨hmem.mp h, fun u hu => (sub_le_sub_iff_right offset).mp (hmax (hmem.mpr hu))⟩
  · rintro ⟨h, hmax⟩
    refine ⟨hmem.mpr h, fun u hu => ?_⟩
    rw [← add_sub_cancel_right u offset] at hu ⊢
    exact (sub_le_sub_iff_right offset).mpr (hmax (hmem.mp hu))

theorem deadline_isGreatest_iff {deadline : ℤ} (h : Deadline offset times now deadline) :
    IsGreatest (occurred offset times now) deadline ↔ TextsInOrder offset times now := by
  cases h with
  | today hmem hcame hlast =>
      rw [isGreatest_occurred_iff]
      refine iff_of_true ?_ (.inl ⟨_, hmem, hcame⟩)
      exact Timetable.isGreatest_passed_today scheduled_range hmem hcame hlast
  | yesterday hmem hlargest hslot hnone =>
      have hne := List.ne_nil_of_mem hmem
      rw [isGreatest_occurred_iff, Timetable.isGreatest_passed_yesterday_iff scheduled_range
        ((mem_scheduled hne).mpr ⟨_, hmem, hslot⟩) hnone]
      constructor
      · intro hlatest
        exact .inr ⟨_, hmem, hlargest, _, hslot, hlatest⟩
      · rintro (⟨r, hr, hcame⟩ | ⟨t, ht, htlargest, last, hlast, hlatest⟩)
        · exact absurd hcame (hnone r hr).not_ge
        · obtain rfl := String.toList_inj.mp
            (le_antisymm (htlargest _ hmem) (hlargest t ht))
          obtain rfl := Except.ok.inj (hslot.symm.trans hlast)
          exact hlatest

theorem deadline_mem_occurred {deadline : ℤ} (h : Deadline offset times now deadline) :
    deadline ∈ occurred offset times now := by
  cases h with
  | today hmem hcame hlast => exact ⟨sub_le_iff_le_add.mpr hcame, _, _, hmem, rfl⟩
  | yesterday hmem hlargest hslot hnone =>
      have hne := List.ne_nil_of_mem hmem
      refine ⟨?_, _, _, (mem_scheduled hne).mpr ⟨_, hmem, hslot⟩, rfl⟩
      have hstarted := day_started (now + offset)
      have hrange := parseHhmm_range hslot
      rw [sub_mul, one_mul]
      omega

theorem exists_isGreatest {u : ℤ} (h : u ∈ occurred offset times now) :
    ∃ g, IsGreatest (occurred offset times now) g :=
  Int.exists_greatest_of_bdd ⟨now, fun _ hz => hz.1⟩ ⟨u, h⟩

-- Overdue is what was last counted before the scheduled time that passed last.
def OverdueRight (offset : ℤ) (times : List String) (now : ℤ) : Prop :=
  ∀ createdAt lastCompletedStocktakeAt referenceAt,
    (lastCompletedStocktakeAt <|> createdAt) = some referenceAt →
      Gives (isStocktakeOverdue ⟨offset, some times, createdAt⟩ lastCompletedStocktakeAt now)
        fun overdue => overdue = true ↔
          ∃ deadline, IsGreatest (occurred offset times now) deadline ∧ referenceAt < deadline

theorem isStocktakeOverdue_eq {business : Cadence} {last : Option ℤ} {deadline referenceAt : ℤ}
    (h : mostRecentDeadlineUtc business.offset business.stocktakeTimes now = .ok deadline)
    (href : (last <|> business.createdAt) = some referenceAt) :
    isStocktakeOverdue business last now = .ok (decide (referenceAt < deadline)) := by
  unfold isStocktakeOverdue
  rw [h, href]
  rfl

theorem overdueRight_iff {deadline : ℤ}
    (h : mostRecentDeadlineUtc offset (some times) now = .ok deadline)
    (hspec : Deadline offset times now deadline) :
    OverdueRight offset times now ↔ IsGreatest (occurred offset times now) deadline := by
  have hmem := deadline_mem_occurred hspec
  constructor
  · intro hright
    obtain ⟨g, hg⟩ := exists_isGreatest hmem
    have hgives := hright none (some deadline) deadline rfl
    rw [isStocktakeOverdue_eq h rfl, gives_ok, decide_eq_true_eq] at hgives
    have hnot : ¬ deadline < g := fun hlt => (lt_irrefl deadline) (hgives.mpr ⟨g, hg, hlt⟩)
    obtain rfl := le_antisymm (hg.2 hmem) (not_lt.mp hnot)
    exact hg
  · intro hgreatest createdAt last referenceAt href
    rw [isStocktakeOverdue_eq h href, gives_ok, decide_eq_true_eq]
    constructor
    · intro hlt
      exact ⟨deadline, hgreatest, hlt⟩
    · rintro ⟨g, hg, hlt⟩
      rwa [hgreatest.unique hg]

theorem deadline_right_iff (h : validTimes v = .ok times) (offset now : ℤ) :
    (Gives (mostRecentDeadlineUtc offset (some times) now)
        (IsGreatest (occurred offset times now)) ↔ TextsInOrder offset times now) ∧
      (OverdueRight offset times now ↔ TextsInOrder offset times now) := by
  obtain ⟨deadline, hdeadline, hspec⟩ := mostRecentDeadlineUtc_spec h offset now
  rw [overdueRight_iff hdeadline hspec, hdeadline, gives_ok, deadline_isGreatest_iff hspec]
  exact ⟨.rfl, .rfl⟩

theorem morning_times_stored : validTimes ["10:00", "9:00"] = .ok ["10:00", "9:00"] := by
  decide +kernel

theorem deadline_right_iff_morning :
    (Gives (mostRecentDeadlineUtc 0 (some ["10:00", "9:00"]) (11 * 60 * minute))
        (IsGreatest (occurred 0 ["10:00", "9:00"] (11 * 60 * minute))) ↔
      TextsInOrder 0 ["10:00", "9:00"] (11 * 60 * minute)) ∧
      (OverdueRight 0 ["10:00", "9:00"] (11 * 60 * minute) ↔
        TextsInOrder 0 ["10:00", "9:00"] (11 * 60 * minute)) :=
  deadline_right_iff morning_times_stored 0 (11 * 60 * minute)

-- At eight in the morning the deadline is yesterday's at nine, although ten has come since.
theorem deadline_before_last_time :
    validTimes ["10:00", "9:00"] = .ok ["10:00", "9:00"] ∧
      ¬ (Gives (mostRecentDeadlineUtc 0 (some ["10:00", "9:00"]) (8 * 60 * minute))
          (IsGreatest (occurred 0 ["10:00", "9:00"] (8 * 60 * minute))) ∧
        OverdueRight 0 ["10:00", "9:00"] (8 * 60 * minute)) := by
  refine ⟨by decide +kernel, ?_⟩
  rintro ⟨⟨deadline, hdeadline, -, hmax⟩, -⟩
  have hcode : mostRecentDeadlineUtc 0 (some ["10:00", "9:00"]) (8 * 60 * minute) =
      .ok (-15 * 60 * minute) := by decide +kernel
  obtain rfl := Except.ok.inj (hcode.symm.trans hdeadline)
  have hlater : -14 * 60 * minute ∈ occurred 0 ["10:00", "9:00"] (8 * 60 * minute) := by
    refine ⟨by decide, -1, 10 * 60 * minute, ?_, by decide⟩
    exact (mem_scheduled (by simp)).mpr ⟨"10:00", List.mem_cons_self, by decide +kernel⟩
  exact absurd (hmax hlater) (by decide)

end NextgenBackend.Inventory.StocktakeSchedule
