import Logbook.Text.Basic

/-! Times of day to the millisecond. -/

namespace Logbook.Calendar

structure Clock where
  hour : Nat
  minute : Nat
  second : Nat
  milli : Nat
  hour_lt : hour < 24
  minute_lt : minute < 60
  second_lt : second < 60
  milli_lt : milli < 1000
deriving DecidableEq, Repr

namespace Clock

def ofParts? (hour minute second milli : Nat) : Option Clock :=
  if h : (hour < 24 ∧ minute < 60) ∧ (second < 60 ∧ milli < 1000) then
    some ⟨hour, minute, second, milli, h.1.1, h.1.2, h.2.1, h.2.2⟩
  else none

def midnight : Clock := ⟨0, 0, 0, 0, by decide, by decide, by decide, by decide⟩

def endOfDay : Clock := ⟨23, 59, 59, 999, by decide, by decide, by decide, by decide⟩

def millis (c : Clock) : Nat := ((c.hour * 60 + c.minute) * 60 + c.second) * 1000 + c.milli

def text (c : Clock) : Text :=
  Text.padded 2 c.hour ++ [':'] ++ Text.padded 2 c.minute ++ [':'] ++ Text.padded 2 c.second ++
    ['.'] ++ Text.padded 3 c.milli

end Clock
end Logbook.Calendar
