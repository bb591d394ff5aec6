import Logbook.Filter.Basic
import Logbook.Stamp.Instant

/-! Dates as bounds: a day, possibly with a time. As a last bound a day lasts to its end, and a time
without a fraction to the end of its second. -/

namespace Logbook

open Calendar Stamp

inductive Side where
  | first
  | last
deriving DecidableEq, Repr

namespace DateBound

structure Written where
  day : Text
  time : Option (Text × Option Text)

def scanFraction : Scan (Option Text) :=
  Scan.perhaps (Scan.first
    [Pattern.scan (Pattern.fraction ':' 3 3), Pattern.scan (Pattern.fraction '.' 3 3)])

def scanTime : Scan (Text × Option Text) := do
  Scan.blanks1
  let time ← Pattern.scan Pattern.clock
  let fraction ← scanFraction
  return (time, fraction)

def scanWritten : Scan Written := do
  let day ← Pattern.scan Pattern.date
  let time ← Scan.perhaps scanTime
  return ⟨day, time⟩

def written? (t : Text) : Option Written := do
  let (w, rest) ← scanWritten.run t
  guard rest.isEmpty
  return w

def endOfSecond (millis : Int) : Int := millis + 999

def ofWritten? (side : Side) (w : Written) : Option DateBound := do
  let d ← Stamp.date? w.day
  match w.time with
  | none =>
    let c := match side with
      | .first => Clock.midnight
      | .last => Clock.endOfDay
    return ⟨w.day, Instant.millisOf d c⟩
  | some (time, fraction) =>
    let stamp := time ++ fraction.getD []
    let c ← Stamp.clock? stamp
    let millis := Instant.millisOf d c
    return ⟨w.day ++ [' '] ++ stamp,
      if side = .last ∧ fraction = none then endOfSecond millis else millis⟩

/-- The bound that a text stands for. Its canonical text has one space before the time. -/
def read? (side : Side) (t : Text) : Option DateBound := do
  let w ← written? t
  ofWritten? side w

def millis? (side : Side) (t : Text) : Option Int := (read? side (Text.trim t)).map DateBound.millis

end DateBound
end Logbook
