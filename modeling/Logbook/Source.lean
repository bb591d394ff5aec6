import Logbook.Text.Basic

/-! The physical lines of a text and their classes: blank lines are dropped, header lines near the
top are set apart, and all others are the content. Lines keep their number in the text. -/

namespace Logbook

namespace Text

def dropReturn (t : Text) : Text := if t.getLast? = some '\r' then t.dropLast else t

/-- The lines of a text. Each ends at a line feed, with or without a carriage return before it; what
follows the last line feed is a line unless it is empty. -/
def lines (t : Text) : List Text :=
  let pieces := t.splitOn '\n'
  pieces.dropLast.map dropReturn ++ (pieces.getLast?.filter (· ≠ [])).toList

end Text

structure SourceLine where
  number : Nat
  text : Text
deriving DecidableEq, Repr

abbrev Headers := List (Text × Text)

def Headers.get? (hs : Headers) (name : Text) : Option Text := hs.lookup name

structure Source where
  headers : Headers
  lines : List SourceLine
deriving DecidableEq, Repr

namespace Source

def headerNames : List Text :=
  ["User".toList, "Account".toList, "Client version".toList, "OS version".toList]

def headerLimit : Nat := 10

def header? (t : Text) : Option (Text × Text) :=
  headerNames.findSome? fun name =>
    ((name ++ [':']).isPrefixOf? (Text.trim t)).map fun value => (name, Text.trim value)

inductive Class where
  | blank
  | header (name value : Text)
  | content
deriving DecidableEq, Repr

def classify (l : SourceLine) : Class :=
  if Text.trim l.text = [] then .blank
  else if l.number ≤ headerLimit then
    match header? l.text with
    | some (name, value) => .header name value
    | none => .content
  else .content

def numbered (lines : List Text) : List SourceLine :=
  (lines.zipIdx 1).map fun p => ⟨p.2, p.1⟩

def ofLines (lines : List Text) : Source where
  headers := (numbered lines).filterMap fun l =>
    match classify l with
    | .header name value => some (name, value)
    | _ => none
  lines := (numbered lines).filter fun l => classify l = .content

def ofText (t : Text) : Source := ofLines (Text.lines t)

end Source
end Logbook
