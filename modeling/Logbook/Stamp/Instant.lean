import Logbook.Calendar.Date
import Logbook.Calendar.Clock
import Logbook.Text.Numeral
import Logbook.Stamp.Basic

/-! The instant that a stamp names. Stamps are wall-clock times without a zone; their milliseconds
only serve to sort and compare. A stamp without a date borrows the one it is given. -/

namespace Logbook

open Calendar

structure Instant where
  millis : Int
  date : Option Date
  clock : Clock
deriving DecidableEq, Repr

namespace Instant

def millisOf (d : Date) (c : Clock) : Int := d.epochDay * 86400000 + c.millis

/-- Without any day the milliseconds are those of the first day of 1970. -/
def of (date : Option Date) (c : Clock) : Instant := ⟨millisOf (date.getD Date.epoch) c, date, c⟩

def dateText (i : Instant) : Option Text := i.date.map Date.text

def clockText (i : Instant) : Text := i.clock.text

end Instant

namespace Stamp

def threeParts? (c : Char) (t : Text) : Option (Text × Text × Text) := do
  let (a, rest) ← Text.cut? c t
  let (b, d) ← Text.cut? c rest
  return (a, b, d)

def date? (t : Text) : Option Date := do
  let (y, m, d) ← threeParts? '-' t
  let year ← Numeral.readInt? Numeral.maxSigned32 y
  let month ← Numeral.read? Numeral.max32 m
  let day ← Numeral.read? Numeral.max32 d
  Date.ofParts? year month day

def slashDate? (t : Text) : Option Date := do
  let (d, m, y) ← threeParts? '/' t
  let day ← Numeral.read? Numeral.max32 d
  let month ← Numeral.read? Numeral.max32 m
  let year ← Numeral.readInt? Numeral.maxSigned32 y
  Date.ofParts? (if y.length = 2 then year + 2000 else year) month day

/-- The first three digits after a colon or a point, short ones filled up with zeros. -/
def milli? : Text → Option Nat
  | [] => some 0
  | c :: ds =>
    if (c = ':' ∨ c = '.') ∧ ds ≠ [] ∧ ds.all Char.isDigit then
      Numeral.read? Numeral.max32 ((ds.take 3).rightpad 3 '0')
    else none

def clock? (t : Text) : Option Clock := do
  guard (8 ≤ t.length)
  let (h, m, s) ← threeParts? ':' (t.take 8)
  let hour ← Numeral.read? Numeral.max32 h
  let minute ← Numeral.read? Numeral.max32 m
  let second ← Numeral.read? Numeral.max32 s
  let milli ← milli? (t.drop 8)
  Clock.ofParts? hour minute second milli

def Kind.separator : Kind → Char
  | .isoMillis | .isoSeconds => 'T'
  | _ => ' '

def Kind.date? : Kind → Text → Option Date
  | .slashShortYear, t | .slashLongYear, t => slashDate? t
  | _, t => Stamp.date? t

def instant? (k : Kind) (anchor : Option Date) (t : Text) : Option Instant :=
  if k.isTimeOnly then do
    let c ← clock? t
    return .of anchor c
  else do
    let (day, time) ← Text.cut? k.separator t
    let d ← k.date? day
    let c ← clock? time
    return .of (some d) c

end Stamp
end Logbook
