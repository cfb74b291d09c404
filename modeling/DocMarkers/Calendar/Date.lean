import DocMarkers.Text.Basic

set_option autoImplicit false

namespace DocMarkers

structure Date where
  year : Nat
  month : Nat
  day : Nat
deriving DecidableEq, Repr

namespace Date

def isLeapYear (year : Nat) : Bool :=
  year % 4 == 0 && (year % 100 != 0 || year % 400 == 0)

def daysInMonth (year month : Nat) : Nat :=
  if month = 2 then (if isLeapYear year then 29 else 28)
  else if month = 4 ∨ month = 6 ∨ month = 9 ∨ month = 11 then 30
  else 31

def isValid (date : Date) : Bool :=
  1 ≤ date.year && date.year ≤ 9999 && 1 ≤ date.month && date.month ≤ 12 &&
    1 ≤ date.day && date.day ≤ daysInMonth date.year date.month

def daysBeforeYear (year : Nat) : Nat :=
  let past := year - 1
  365 * past + past / 4 - past / 100 + past / 400

def newYearsWeekday (year : Nat) : Nat := daysBeforeYear year % 7

-- Day number of the Monday that starts week 1: of the week with the first Thursday. The day number
-- of 1 January of year 1, a Monday, is zero.
def firstMonday (year : Nat) : Int :=
  let start : Int := daysBeforeYear year
  let weekday : Int := newYearsWeekday year
  if weekday ≤ 3 then start - weekday else start - weekday + 7

def hasWeek53 (year : Nat) : Bool :=
  newYearsWeekday year == 3 || (newYearsWeekday year == 2 && isLeapYear year)

def monthFrom (year : Nat) : Nat → Nat → Nat → Nat × Nat
  | 0, month, offset => (month, offset + 1)
  | fuel + 1, month, offset =>
    if offset < daysInMonth year month then (month, offset + 1)
    else monthFrom year fuel (month + 1) (offset - daysInMonth year month)

def ofDayNumber (number : Int) (year : Nat) : Date :=
  let near : Nat :=
    if number < daysBeforeYear year then year - 1
    else if number < daysBeforeYear (year + 1) then year
    else year + 1
  let (month, day) := monthFrom near 11 1 (number - daysBeforeYear near).toNat
  ⟨near, month, day⟩

def ofWeek? (year week weekday : Nat) : Option Date :=
  if 1 ≤ year ∧ year ≤ 9999 ∧ 1 ≤ week ∧ (week ≤ 52 ∨ week = 53 ∧ hasWeek53 year) ∧
      1 ≤ weekday ∧ weekday ≤ 7 then
    some (ofDayNumber (firstMonday year + 7 * (week - 1 : Int) + (weekday - 1 : Int)) year)
  else none

def slashed (date : Date) : Text :=
  Text.ofNat date.month ++ '/' :: (Text.ofNat date.day ++ '/' :: Text.ofNat date.year)

end Date

end DocMarkers
