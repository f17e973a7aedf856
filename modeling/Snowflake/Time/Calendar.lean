/-!
The Gregorian calendar, extended to all years. Days are counted from the first of January 1970.
-/

namespace Snowflake.Calendar

def isLeap (year : Int) : Bool :=
  year % 4 == 0 && (year % 100 != 0 || year % 400 == 0)

def monthLengths (leap : Bool) : List Nat :=
  [31, if leap then 29 else 28, 31, 30, 31, 30, 31, 31, 30, 31, 30, 31]

def daysInMonth (year : Int) (month : Nat) : Nat :=
  (monthLengths (isLeap year)).getD (month - 1) 0

structure Date where
  year : Int
  month : Nat
  day : Nat
  deriving DecidableEq

def Date.IsValid (d : Date) : Prop :=
  1 ≤ d.month ∧ d.month ≤ 12 ∧ 1 ≤ d.day ∧ d.day ≤ daysInMonth d.year d.month

instance (d : Date) : Decidable d.IsValid :=
  inferInstanceAs
    (Decidable (1 ≤ d.month ∧ d.month ≤ 12 ∧ 1 ≤ d.day ∧ d.day ≤ daysInMonth d.year d.month))

/-- Days from the first of January of the year 1 to that of `year`. -/
def daysBeforeYear (year : Int) : Int :=
  365 * (year - 1) + (year - 1) / 4 - (year - 1) / 100 + (year - 1) / 400

/-- Days from the first of January of the year 1 to that of 1970. -/
def daysBefore1970 : Int :=
  719162

def daysBeforeMonth (leap : Bool) (month : Nat) : Nat :=
  ((monthLengths leap).take (month - 1)).foldr (· + ·) 0

def Date.toDays (d : Date) : Int :=
  daysBeforeYear d.year - daysBefore1970 + daysBeforeMonth (isLeap d.year) d.month +
    (d.day - 1 : Nat)

/-- The month, counted from `month`, and the day of the month on which the day `rest`, counted from
zero, falls if the months have these lengths. -/
def monthAndDay : List Nat → (month rest : Nat) → Nat × Nat
  | [], month, rest => (month, rest + 1)
  | length :: lengths, month, rest =>
      if rest < length then (month, rest + 1) else monthAndDay lengths (month + 1) (rest - length)

/-- The year of the day `days`, counted from the first of January of the year 1. Of the cycles of
400, 100 and 4 years and of the years in them, the last century of 400 years and the last year of
four are a day longer, so their number is cut off at three. -/
def yearOf (days : Int) : Int :=
  let inEra := days % 146097
  let century := min 3 (inEra / 36524)
  let inCentury := inEra - century * 36524
  let inFour := inCentury % 1461
  1 + 400 * (days / 146097) + 100 * century + 4 * (inCentury / 1461) + min 3 (inFour / 365)

def Date.ofDays (days : Int) : Date :=
  let year := yearOf (days + daysBefore1970)
  let (month, day) :=
    monthAndDay (monthLengths (isLeap year)) 1
      (days + daysBefore1970 - daysBeforeYear year).toNat
  ⟨year, month, day⟩

end Snowflake.Calendar
