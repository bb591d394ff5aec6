import Logbook.Line.Fields
import Logbook.Stamp.Basic

/-! The layout of browsers, `[process:thread:MMDD/HHMMSS.f:LEVEL:file(line)] message [STAMP]`: one
box with ids, time, level and source, then the message, and after it possibly a stamp in a box of
its own. -/

namespace Logbook.Line

open Scan Stamp

def browserClock : Pattern := [.digits 4 4, .mark '/', .digits 6 6]

def browserTime : Scan Text := do
  let stamp ← browserClock.scan
  let fraction ← perhaps do
    char '.'
    let ds ← digits
    return '.' :: ds
  return stamp ++ fraction.getD []

def inToken (c : Char) : Bool := c.isAlphanum || c = '_'

def inFile (c : Char) : Bool := c ≠ ']' && c ≠ '('

def enclosedDigits : Scan Text := do
  char '('
  let n ← digits
  char ')'
  return n

def browserBox : Scan (Text × Text × Text × Text × Text × Option Text) := do
  let process ← digits
  char ':'
  let thread ← digits
  char ':'
  let time ← browserTime
  char ':'
  let token ← many1 inToken
  char ':'
  let file ← many1 inFile
  let number ← perhaps enclosedDigits
  return (process, thread, time, token, file, number)

/-- The text before its last bracket and the content of a box that ends the text. -/
def lastBox? (t : Text) : Option (Text × Text) :=
  match t.reverse with
  | ']' :: r => (Text.cut? '[' r).map fun p => (p.2.reverse, p.1.reverse)
  | _ => none

def messageAndStamp (t : Text) : Text × Option Text :=
  let body := Text.trimEnd t
  match lastBox? body with
  | some (before, content) =>
    if isStamp content then (Text.trimEnd before, some content) else (body, none)
  | none => (body, none)

def browser : Scan Fields := do
  let (process, thread, time, token, file, number) ← box browserBox
  let rest ← many fun _ => true
  let (text, stamp) := messageAndStamp rest
  guard (text.all (· ≠ '\n'))
  return .ofParts .browser (Level.ofToken? token) text
    { process := some process, thread := some thread,
      sourceFile := some file, sourceLine := number }
    (("browser_time".toList, time) :: (stamp.map fun s => ("trailing_timestamp".toList, s)).toList)

end Logbook.Line
