import Logbook.Entry.Basic
import Logbook.Line.Detect
import Logbook.Source

/-! Entries from lines. A line with a stamp opens an entry and every other line continues the one
before it, so lines can be fed one at a time or in batches of any size. -/

namespace Logbook

open Calendar

def Entry.ofLine (id : Nat) (l : SourceLine) (stamp : Option Text) (instant : Option Instant) :
    Entry where
  id := id
  raw := l.text
  fields := Line.detect l.text
  stamp := stamp
  instant := instant
  lineNumbers := [l.number]
  lineNumber := l.number

structure Draft where
  opened : Entry
  more : List SourceLine := []

namespace Draft

def continueWith (d : Draft) (l : SourceLine) : Draft := { d with more := l :: d.more }

def appendLines (t : Text) (ls : List SourceLine) : Text := t ++ ls.flatMap fun l => '\n' :: l.text

def toEntry (d : Draft) : Entry :=
  let more := d.more.reverse
  { d.opened with
    raw := appendLines d.opened.raw more
    fields := { d.opened.fields with message := appendLines d.opened.fields.message more }
    lineNumbers := d.opened.lineNumbers ++ more.map SourceLine.number }

end Draft

structure Assembler where
  closed : Array Entry := #[]
  draft : Option Draft := none
  /-- The day of the latest stamp that had one, for stamps that have none. -/
  anchor : Option Date := none
  linesSeen : Nat := 0

namespace Assembler

def close (a : Assembler) : Assembler :=
  match a.draft with
  | none => a
  | some d => { a with closed := a.closed.push d.toEntry, draft := none }

def resolve (anchor : Option Date) (s : Stamp) : Option Instant × Option Date :=
  match Stamp.instant? s.kind anchor s.text with
  | some i => (some i, if s.kind.isTimeOnly then anchor else i.date)
  | none => (none, anchor)

def openDraft (a : Assembler) (l : SourceLine) (stamp : Option Stamp) : Assembler :=
  let (instant, anchor) := (stamp.map (resolve a.anchor)).getD (none, a.anchor)
  let entry := Entry.ofLine a.closed.size l (stamp.map Stamp.text) instant
  { a with draft := some { opened := entry }, anchor := anchor }

def push (a : Assembler) (l : SourceLine) : Assembler :=
  if Text.trim l.text = [] then a
  else
    let a := { a with linesSeen := a.linesSeen + 1 }
    match Stamp.find? l.text, a.draft with
    | some stamp, _ => a.close.openDraft l (some stamp)
    | none, some d => { a with draft := some (d.continueWith l) }
    | none, none => a.openDraft l none

def feed (a : Assembler) (ls : List SourceLine) : Assembler := ls.foldl push a

def finish (a : Assembler) : List Entry := a.close.closed.toList

end Assembler

def assemble (ls : List SourceLine) : List Entry := (Assembler.feed {} ls).finish

/-- Pieces of `size` elements, the last one possibly shorter. A size of 0 counts as 1. -/
def batches (size : Nat) : List α → List (List α)
  | [] => []
  | a :: r => (a :: r.take (size - 1)) :: batches size (r.drop (size - 1))
termination_by l => l.length
decreasing_by
  simp only [List.length_drop, List.length_cons]
  omega

/-- The assembler after all batches, and the number of lines seen after each. -/
def Assembler.feedBatches (a : Assembler) : List (List SourceLine) → Assembler × List Nat
  | [] => (a, [])
  | b :: bs =>
    let a := a.feed b
    let seen := a.linesSeen
    let (last, more) := feedBatches a bs
    (last, seen :: more)

def assembleInBatches (size : Nat) (ls : List SourceLine) : List Entry × List Nat :=
  let (a, seen) := ({} : Assembler).feedBatches (batches size ls)
  (a.finish, seen)

end Logbook
