/-! The proleptic Gregorian calendar. Days are counted from the first of January
of year one, which is day one; a date and its count determine each other. -/
namespace ClaimLedger

structure Date where
  year : Int
  month : Nat
  day : Nat
  deriving DecidableEq

namespace Date

def isLeap (year : Int) : Bool :=
  year % 4 = 0 ∧ (year % 100 ≠ 0 ∨ year % 400 = 0)

/-- Days in the years before a year, counted from year one; negative for years
before it. -/
def daysBeforeYear (year : Int) : Int :=
  let past := year - 1
  365 * past + past / 4 - past / 100 + past / 400

/-- Lengths of the months of a year. -/
def monthLengths (leap : Bool) : List Nat :=
  [31, if leap then 29 else 28, 31, 30, 31, 30, 31, 31, 30, 31, 30, 31]

/-- Days in the months of a year before a month. -/
def daysBeforeMonth (leap : Bool) (month : Nat) : Nat :=
  ((monthLengths leap).take (month - 1)).foldr (· + ·) 0

/-- The day count of a date. -/
def ordinal (date : Date) : Int :=
  daysBeforeYear date.year + daysBeforeMonth (isLeap date.year) date.month + date.day

/-- Month and day of a day of the year, counted from zero, given the lengths of
the months from `month` on. -/
def splitYearDay : (lengths : List Nat) → (month yearDay : Nat) → Nat × Nat
  | [], month, yearDay => (month, yearDay + 1)
  | length :: lengths, month, yearDay =>
    if yearDay < length then (month, yearDay + 1)
    else splitYearDay lengths (month + 1) (yearDay - length)

/-- The year of a day count. The first guess, by the mean length of years, is
off by one at most. -/
def yearOfOrdinal (count : Int) : Int :=
  let guess := (count - 1) * 400 / 146097 + 1
  if count ≤ daysBeforeYear guess then guess - 1
  else if daysBeforeYear (guess + 1) < count then guess + 1
  else guess

/-- The date with a day count. -/
def ofOrdinal (count : Int) : Date :=
  let year := yearOfOrdinal count
  let yearDay := (count - 1 - daysBeforeYear year).toNat
  let (month, day) := splitYearDay (monthLengths (isLeap year)) 1 yearDay
  ⟨year, month, day⟩

/-- The day count of 1970-01-01. -/
def epochOrdinal : Int := 719163

/-- The date of a moment given in seconds since the start of 1970, if its year
has at most four digits. -/
def ofTimestamp? (seconds : Int) : Option Date :=
  if -377705116800 ≤ seconds ∧ seconds ≤ 253402300799 then
    some (ofOrdinal (seconds / 86400 + epochOrdinal))
  else none

end Date

end ClaimLedger
