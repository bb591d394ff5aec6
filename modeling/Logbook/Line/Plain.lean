import Logbook.Line.Fields
import Logbook.Text.Scan
import Logbook.Text.Word

/-! Lines of no known layout. The whole line is the message; level and module are guessed from a
word for a level and from the first box. -/

namespace Logbook.Line

open Scan

def levelWords : List Text :=
  ["error".toList, "err".toList, "fatal".toList, "critical".toList, "severe".toList,
   "warn".toList, "warning".toList, "info".toList, "notice".toList,
   "debug".toList, "trace".toList, "verbose".toList]

def wordThen (close : Scan Unit) (w : Text) : Scan Text := fun t =>
  (do keyword w; close : Scan Unit).run t |>.map fun p => (t.take w.length, p.2)

def enclosedWord : Scan Text := do
  let _ ← satisfy fun c => c = '[' || c = '<'
  let close : Scan Unit := do
    let _ ← satisfy fun c => c = ']' || c = '>'
  first (levelWords.map (wordThen close))

def wordBeforeColon : Scan Text :=
  let close : Scan Unit := do
    blanks
    char ':'
  first (levelWords.map (wordThen close))

/-- The leftmost announced level word. `inWord` tells whether a word character stands before the
text; a word with a colon counts only where a word begins. -/
def levelWord? (inWord : Bool) : Text → Option Text
  | [] => none
  | c :: r =>
    match result? enclosedWord (c :: r), inWord, result? wordBeforeColon (c :: r) with
    | some w, _, _ => some w
    | none, false, some w => some w
    | _, _, _ => levelWord? (Text.isWord c) r

def guessLevel (line : Text) : Option Level := (levelWord? false line).bind Level.ofToken?

def firstBox? (line : Text) : Option Text := do
  let (_, rest) ← Text.cut? '[' line
  let (content, _) ← Text.cut? ']' rest
  return content

def guessModule (line : Text) : Option Text := do
  let name ← (firstBox? line).bind Text.nonblank?
  guard (!name.elem ':' && !name.all Char.isDigit && (Level.ofToken? name).isNone)
  return name

def plain (line : Text) : Fields :=
  .ofParts .plain (guessLevel line) line { moduleName := guessModule line } []

end Logbook.Line
