import NextgenBackend.Library.Dict
import NextgenBackend.Library.Timetable
import NextgenBackend.Utils.Time

namespace NextgenBackend.OpeningHours

open Timetable

-- A naive time of day, in microseconds after midnight.
structure ClockTime where
  microseconds : Nat
  lt : microseconds < Time.day
deriving DecidableEq

structure LocalDatetime where
  ordinal : Int
  time : ClockTime
deriving DecidableEq

def LocalDatetime.moment (local_ : LocalDatetime) : Int :=
  local_.ordinal * (Time.day : Nat) + local_.time.microseconds

def digit (c : Char) : Option Nat :=
  if c.isDigit then some (c.toNat - '0'.toNat) else none

def twoDigits : List Char → Option (Nat × List Char)
  | tens :: units :: rest => do
      let tens ← digit tens
      let units ← digit units
      return (10 * tens + units, rest)
  | _ => none

-- Digits beyond the sixth are dropped.
def fraction : List Char → Option Nat
  | [] => some 0
  | point :: digits => do
      guard ((point = '.' ∨ point = ',') ∧ digits ≠ [])
      let values ← digits.mapM digit
      return ((values ++ List.replicate 6 0).take 6).foldl (fun n d => 10 * n + d) 0

def clockTime (hour minute second microsecond : Nat) : Option ClockTime := do
  guard (hour < 24 ∧ minute < 60 ∧ second < 60)
  let microseconds := hour * 60 * Time.minute + minute * Time.minute + second * Time.second +
    microsecond
  if h : microseconds < Time.day then return ⟨microseconds, h⟩ else none

def basicFormat (hour : Nat) (rest : List Char) : Option ClockTime := do
  let (minute, rest) ← twoDigits rest
  if rest = [] then clockTime hour minute 0 0
  else do
    let (second, rest) ← twoDigits rest
    clockTime hour minute second (← fraction rest)

def extendedFormat (hour : Nat) (rest : List Char) : Option ClockTime := do
  let (minute, rest) ← twoDigits rest
  match rest with
  | [] => clockTime hour minute 0 0
  | ':' :: rest => do
      let (second, rest) ← twoDigits rest
      clockTime hour minute second (← fraction rest)
  | _ => none

-- A text with an offset is read to an aware time, which raises where it is first compared
-- with the naive time of the day; such a text is no time here.
def fromisoformat (text : String) : Option ClockTime := do
  let text := text.toList
  let (hour, rest) ← twoDigits (if text.head? = some 'T' then text.tail else text)
  match rest with
  | [] => clockTime hour 0 0 0
  | ':' :: rest => extendedFormat hour rest
  | _ => basicFormat hour rest

example : (fromisoformat "18:30").map (·.microseconds) = some (1110 * Time.minute) := by
  decide +kernel

-- The first day of the calendar is a Monday.
def dayKey (ordinal : Int) : String :=
  match ((ordinal - 1) % 7).toNat with
  | 0 => "mon"
  | 1 => "tue"
  | 2 => "wed"
  | 3 => "thu"
  | 4 => "fri"
  | 5 => "sat"
  | _ => "sun"

abbrev DayHours := Dict String String

-- A closed day is null, empty or absent.
abbrev BusinessHours := Dict String (Option DayHours)

def dayHours (businessHours : BusinessHours) (ordinal : Int) : Option DayHours :=
  ((businessHours.lookup (dayKey ordinal)).join).filter (·.entries ≠ [])

def openingTimes (dayHours : DayHours) : Option (ClockTime × ClockTime) := do
  let openTime ← fromisoformat (← dayHours.lookup "open")
  let closeTime ← fromisoformat (← dayHours.lookup "close")
  return (openTime, closeTime)

def openNow (openTime closeTime currentTime : ClockTime) : Bool :=
  if closeTime.microseconds < openTime.microseconds then
    openTime.microseconds ≤ currentTime.microseconds ∨
      currentTime.microseconds ≤ closeTime.microseconds
  else
    openTime.microseconds ≤ currentTime.microseconds ∧
      currentTime.microseconds ≤ closeTime.microseconds

-- `none` is a raised KeyError or ValueError.
def isBusinessOpen (toBusinessTz : Instant → String → LocalDatetime) (utcNow : Instant)
    (businessHours : Option BusinessHours) (tzName : String) : Option Bool :=
  match businessHours.filter (·.entries ≠ []) with
  | none => some true
  | some businessHours =>
      let nowLocal := toBusinessTz utcNow tzName
      match dayHours businessHours nowLocal.ordinal with
      | none => some false
      | some dayHours =>
          (openingTimes dayHours).map fun (openTime, closeTime) =>
            openNow openTime closeTime nowLocal.time

-- The same times on the timeline of local instants.
def opening (openTime closeTime : ClockTime) : Opening Time.day where
  opens := openTime.microseconds
  closes := closeTime.microseconds
  opens_nonneg := Int.natCast_nonneg _
  opens_lt := Int.ofNat_lt.mpr openTime.lt
  closes_nonneg := Int.natCast_nonneg _
  closes_lt := Int.ofNat_lt.mpr closeTime.lt

def openingOf (businessHours : BusinessHours) (ordinal : Int) : Option (Opening Time.day) :=
  ((dayHours businessHours ordinal).bind openingTimes).map fun (openTime, closeTime) =>
    opening openTime closeTime

-- A business without hours is open around the clock.
inductive IsOpen (businessHours : Option BusinessHours) (nowLocal : LocalDatetime) : Prop
  | unconfigured (h : businessHours.filter (·.entries ≠ []) = none)
  | withinHours (configured : BusinessHours)
      (h : businessHours.filter (·.entries ≠ []) = some configured)
      (hopen : OpenAt (openingOf configured) nowLocal.moment)

variable {businessHours : Option BusinessHours} {configured : BusinessHours}
  {nowLocal : LocalDatetime} {toBusinessTz : Instant → String → LocalDatetime}
  {utcNow : Instant} {tzName : String}

def ownDay (configured : BusinessHours) (nowLocal : LocalDatetime) : Prop :=
  ∃ o ∈ openingOf configured nowLocal.ordinal, o.onItsDay nowLocal.time.microseconds

def smallHours (configured : BusinessHours) (ordinal : Int) (time : ClockTime) : Prop :=
  ∃ o ∈ openingOf configured ordinal, o.pastMidnight time.microseconds

theorem openNow_iff {openTime closeTime currentTime : ClockTime} :
    openNow openTime closeTime currentTime = true ↔
      (opening openTime closeTime).onItsDay currentTime.microseconds ∨
        (opening openTime closeTime).pastMidnight currentTime.microseconds := by
  unfold openNow Opening.onItsDay Opening.pastMidnight Opening.isOvernight opening
  split
  next h => simp only [decide_eq_true_eq]; omega
  next h => simp only [decide_eq_true_eq]; omega

theorem isOpen_iff (hconfigured : businessHours.filter (·.entries ≠ []) = some configured) :
    IsOpen businessHours nowLocal ↔
      ownDay configured nowLocal ∨ smallHours configured (nowLocal.ordinal - 1) nowLocal.time := by
  have hiff := openAt_iff (openingOf configured) (n := nowLocal.ordinal)
    (Int.natCast_nonneg nowLocal.time.microseconds) (Int.ofNat_lt.mpr nowLocal.time.lt)
  constructor
  · rintro (h | ⟨configured', h, hopen⟩)
    · rw [hconfigured] at h
      cases h
    · obtain rfl : configured = configured' := Option.some.inj (hconfigured.symm.trans h)
      exact hiff.mp hopen
  · intro h
    exact .withinHours configured hconfigured (hiff.mpr h)

theorem isBusinessOpen_iff (hconfigured : businessHours.filter (·.entries ≠ []) = some configured) :
    isBusinessOpen toBusinessTz utcNow businessHours tzName = some true ↔
      ownDay configured (toBusinessTz utcNow tzName) ∨
        smallHours configured (toBusinessTz utcNow tzName).ordinal
          (toBusinessTz utcNow tzName).time := by
  generalize hlocal : toBusinessTz utcNow tzName = nowLocal
  unfold isBusinessOpen ownDay smallHours openingOf
  rw [hconfigured]
  dsimp only
  rw [hlocal]
  cases hday : dayHours configured nowLocal.ordinal with
  | none => simp
  | some dayHours =>
      cases htimes : openingTimes dayHours with
      | none => simp [htimes]
      | some times => simp [htimes, openNow_iff]

-- The small hours of one and the same day count only where the day before runs into them.
def SmallHoursAgree (businessHours : Option BusinessHours) (nowLocal : LocalDatetime) : Prop :=
  ∀ configured, businessHours.filter (·.entries ≠ []) = some configured →
    ownDay configured nowLocal ∨
      (smallHours configured nowLocal.ordinal nowLocal.time ↔
        smallHours configured (nowLocal.ordinal - 1) nowLocal.time)

theorem is_business_open_exact_iff (toBusinessTz : Instant → String → LocalDatetime)
    (utcNow : Instant) (businessHours : Option BusinessHours) (tzName : String) :
    (isBusinessOpen toBusinessTz utcNow businessHours tzName = some true ↔
      IsOpen businessHours (toBusinessTz utcNow tzName)) ↔
    SmallHoursAgree businessHours (toBusinessTz utcNow tzName) := by
  cases hconfigured : businessHours.filter (·.entries ≠ []) with
  | none =>
      have hopen : isBusinessOpen toBusinessTz utcNow businessHours tzName = some true := by
        unfold isBusinessOpen
        rw [hconfigured]
      refine iff_of_true (iff_of_true hopen (.unconfigured hconfigured)) ?_
      intro configured h
      rw [hconfigured] at h
      cases h
  | some configured =>
      have hagree : SmallHoursAgree businessHours (toBusinessTz utcNow tzName) ↔ _ :=
        ⟨fun h => h configured hconfigured, fun h configured' hconfigured' => by
          obtain rfl := Option.some.inj (hconfigured.symm.trans hconfigured')
          exact h⟩
      rw [isBusinessOpen_iff hconfigured, isOpen_iff hconfigured, hagree]
      tauto

def fridayNight : BusinessHours :=
  (Dict.empty.set "fri" (some ((Dict.empty.set "open" "18:00").set "close" "02:00"))).set "sat" none

-- Saturday the 26th of September 2026, half past one at night.
def saturdayMorning (_ : Instant) (_ : String) : LocalDatetime where
  ordinal := 739885
  time := ⟨90 * Time.minute, by decide⟩

theorem friday_night_closed_on_saturday :
    ¬ ∀ (toBusinessTz : Instant → String → LocalDatetime) (utcNow : Instant)
      (businessHours : Option BusinessHours) (tzName : String),
      isBusinessOpen toBusinessTz utcNow businessHours tzName = some true ↔
        IsOpen businessHours (toBusinessTz utcNow tzName) := by
  intro h
  have hclosed : isBusinessOpen saturdayMorning 0 (some fridayNight) "Africa/Johannesburg" =
      some false := by decide +kernel
  have hfriday : openingOf fridayNight (739885 - 1) = some (opening
      ⟨1080 * Time.minute, by decide⟩ ⟨120 * Time.minute, by decide⟩) := by
    decide +kernel
  have hopen : IsOpen (some fridayNight) (saturdayMorning 0 "Africa/Johannesburg") :=
    (isOpen_iff rfl).mpr (Or.inr ⟨_, hfriday, by decide⟩)
  have htrue := (h saturdayMorning 0 (some fridayNight) "Africa/Johannesburg").mpr hopen
  rw [hclosed] at htrue
  cases htrue

end NextgenBackend.OpeningHours
