import Logbook.Line.Fields
import Logbook.Stamp.Pattern

/-! The column layout of device logs: `MM-DD HH:MM:SS.mmm process thread L tag: message`, with a
year before the month if there is one. -/

namespace Logbook.Line

open Scan Stamp

def logcatLetters : Text := "VDIWEFA".toList

def yearPattern : Pattern := [.digits 4 4, .mark '-']

def monthDayPattern : Pattern := [.digits 2 2, .mark '-', .digits 2 2]

def blankAtMost1 : Scan Unit := do
  let _ ← perhaps (satisfy Text.isBlank)

/-- The message keeps the blanks in front of it, less one. -/
def logcat : Scan Fields := do
  let _ ← perhaps (Pattern.scan yearPattern)
  let _ ← Pattern.scan monthDayPattern
  blanks1
  let _ ← Pattern.scan (Pattern.clock ++ Pattern.fraction '.' 3 6)
  blanks1
  let process ← digits
  blanks1
  let thread ← digits
  blanks1
  let letter ← satisfy logcatLetters.elem
  blanks1
  let tag ← many (· ≠ ':')
  char ':'
  blankAtMost1
  let rest ← restOfLine
  return .ofParts .logcat (Level.ofLetter? letter) (Text.trimEnd rest)
    { moduleName := some tag, process := some process, thread := some thread } []

end Logbook.Line
