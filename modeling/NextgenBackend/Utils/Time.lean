import NextgenBackend.Shared.Pricing

namespace NextgenBackend.Time

def second : Instant := 1000000

def minute : Instant := 60 * second

def day : Instant := 24 * 60 * minute

structure Date where
  year : Nat
  month : Nat
  day : Nat
deriving DecidableEq, Repr

-- Days are counted from the first of March, so that a leap day ends its year.
def dateOf (daysSinceEpoch : Nat) : Date :=
  let days := daysSinceEpoch + 719468
  let dayOfEra := days % 146097
  let yearOfEra := (dayOfEra - dayOfEra / 1460 + dayOfEra / 36524 - dayOfEra / 146096) / 365
  let dayOfYear := dayOfEra - (365 * yearOfEra + yearOfEra / 4 - yearOfEra / 100)
  let monthIndex := (5 * dayOfYear + 2) / 153
  let month := if monthIndex < 10 then monthIndex + 3 else monthIndex - 9
  { year := yearOfEra + days / 146097 * 400 + if month ≤ 2 then 1 else 0
    month := month
    day := dayOfYear - (153 * monthIndex + 2) / 5 + 1 }

def minuteText (now : Instant) : String :=
  let date := dateOf (now / day)
  let minutes := now % day / minute
  s!"{date.year}-" ++ Pricing.twoDigits date.month ++ "-" ++ Pricing.twoDigits date.day ++ " " ++
    Pricing.twoDigits (minutes / 60) ++ ":" ++ Pricing.twoDigits (minutes % 60)

def microsecondsText (microseconds : Nat) : String :=
  if microseconds = 0 then ""
  else "." ++ String.ofList ((toString (second + microseconds)).toList.drop 1)

def isoText (moment : Instant) : String :=
  let date := dateOf (moment / day)
  let seconds := moment % day / second
  s!"{date.year}-" ++ Pricing.twoDigits date.month ++ "-" ++ Pricing.twoDigits date.day ++ "T" ++
    Pricing.twoDigits (seconds / 3600) ++ ":" ++ Pricing.twoDigits (seconds / 60 % 60) ++ ":" ++
    Pricing.twoDigits (seconds % 60) ++ microsecondsText (moment % second) ++ "+00:00"

example : minuteText (1709251199 * second) = "2024-02-29 23:59" := by decide +kernel

end NextgenBackend.Time
