import Logbook.Filter.DateBound

/-! Reading filters. Every text is a filter: its segments are read one by one, and what is neither
an exclusion nor a gap nor a range is a term to include. -/

namespace Logbook.Filter

inductive Segment where
  | exclude (t : Term)
  | void
  | gap (seconds : Binary64)
  | rows (r : RowRange)
  | dates (r : DateRange)
  | include (t : Term)
deriving DecidableEq, Repr

section

open Scan

def scanGap : Scan Text := do
  keyword "#gap".toList
  blanks
  char '='
  blanks
  many1 fun c => !Text.isBlank c

end

def gap? (t : Text) : Option Binary64 := do
  let (token, rest) ← scanGap.run t
  guard rest.isEmpty
  let seconds ← Binary64.read? token
  guard (seconds.isFinite && seconds.isNonNegative)
  return seconds

def bound? (side : Side) : Text → Option Bound
  | '#' :: r =>
    if r ≠ [] ∧ r.all Text.isDigit then (Numeral.read? Numeral.max64 r).map .row
    else (DateBound.read? side r).map .date
  | _ => none

def side? (side : Side) (t : Text) : Option (Option Bound) :=
  if t = [] then some none else (bound? side t).map some

/-- A range `#a::#b` with at least one side. It is a range of dates if one of its sides is. -/
def range? (t : Text) : Option Segment := do
  let (l, r) ← Text.cutPair? ':' ':' t
  let left := Text.trim l
  let right := Text.trim r
  guard (left ≠ [] ∨ right ≠ [])
  let first ← side? .first left
  let last ← side? .last right
  if first.any Bound.isDate || last.any Bound.isDate then return .dates ⟨first, last⟩
  else return .rows ⟨first.bind Bound.row?, last.bind Bound.row?⟩

def Segment.of (t : Text) : Segment :=
  match t with
  | '!' :: r => if Text.trim r = [] then .void else .exclude ⟨Text.trim r⟩
  | _ =>
    match gap? t with
    | some g => .gap g
    | none => (range? t).getD (.include ⟨t⟩)

namespace Segment

def include? : Segment → Option Term
  | .include t => some t
  | _ => none

def exclude? : Segment → Option Term
  | .exclude t => some t
  | _ => none

def rows? : Segment → Option RowRange
  | .rows r => some r
  | _ => none

def dates? : Segment → Option DateRange
  | .dates r => some r
  | _ => none

def gap? : Segment → Option Binary64
  | .gap g => some g
  | _ => none

end Segment

/-- Terms add up. A later range overrides the sides that it has, and a later gap the gap. -/
def ofSegments (ss : List Segment) : Filter where
  includes := ss.filterMap Segment.include?
  excludes := ss.filterMap Segment.exclude?
  rows := Range.merge (ss.filterMap Segment.rows?)
  dates := Range.merge (ss.filterMap Segment.dates?)
  gap := (ss.filterMap Segment.gap?).getLast?

def read (t : Text) : Filter := ofSegments ((Text.segments t).map Segment.of)

end Logbook.Filter
