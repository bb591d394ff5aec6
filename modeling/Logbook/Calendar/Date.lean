import Logbook.Text.Basic

/-! Days of the proleptic Gregorian calendar, numbered from the first day of 1970. -/

namespace Logbook.Calendar

def isLeap (year : Int) : Bool := year % 4 = 0 && (year % 100 ≠ 0 || year % 400 = 0)

def daysInMonth (year : Int) : Nat → Nat
  | 2 => if isLeap year then 29 else 28
  | 4 | 6 | 9 | 11 => 30
  | _ => 31

def minYear : Int := -262143

def maxYear : Int := 262142

structure Date where
  year : Int
  month : Nat
  day : Nat
  year_ge : minYear ≤ year
  year_le : year ≤ maxYear
  month_pos : 1 ≤ month
  month_le : month ≤ 12
  day_pos : 1 ≤ day
  day_le : day ≤ daysInMonth year month
deriving DecidableEq, Repr

namespace Date

def ofParts? (year : Int) (month day : Nat) : Option Date :=
  if h : (minYear ≤ year ∧ year ≤ maxYear) ∧ (1 ≤ month ∧ month ≤ 12) ∧
      (1 ≤ day ∧ day ≤ daysInMonth year month) then
    some ⟨year, month, day, h.1.1, h.1.2, h.2.1.1, h.2.1.2, h.2.2.1, h.2.2.2⟩
  else none

def epoch : Date := ⟨1970, 1, 1, by decide, by decide, by decide, by decide, by decide, by decide⟩

/-- Days from the first day of year 1 to the first day of `year`. -/
def daysBeforeYear (year : Int) : Int :=
  365 * (year - 1) + (year - 1) / 4 - (year - 1) / 100 + (year - 1) / 400

def daysBeforeMonth (year : Int) : Nat → Nat
  | 0 | 1 => 0
  | m + 2 => daysBeforeMonth year (m + 1) + daysInMonth year (m + 1)

def absoluteDay (d : Date) : Int :=
  daysBeforeYear d.year + daysBeforeMonth d.year d.month + (d.day - 1 : Int)

def epochDay (d : Date) : Int := d.absoluteDay - epoch.absoluteDay

def yearText (year : Int) : Text :=
  if year < 0 then '-' :: Text.padded 4 year.natAbs
  else if year ≤ 9999 then Text.padded 4 year.natAbs
  else '+' :: Text.padded 4 year.natAbs

def text (d : Date) : Text :=
  yearText d.year ++ ['-'] ++ Text.padded 2 d.month ++ ['-'] ++ Text.padded 2 d.day

end Date
end Logbook.Calendar
