import Logbook.Binary64.Decimal
import Logbook.Filter.Term

/-! Filters: terms to include and to exclude, ranges of rows and of dates, and a gap that is only
marked. A filter has one canonical text. -/

namespace Logbook

/-- A date as written, and the first or last millisecond that it allows. -/
structure DateBound where
  text : Text
  millis : Int
deriving DecidableEq, Repr

inductive Bound where
  | row (n : Nat)
  | date (d : DateBound)
deriving DecidableEq, Repr

namespace Bound

def isDate : Bound → Bool
  | .row _ => false
  | .date _ => true

def row? : Bound → Option Nat
  | .row n => some n
  | .date _ => none

def text : Bound → Text
  | .row n => '#' :: Text.ofNat n
  | .date d => '#' :: d.text

end Bound

/-- Both sides are inclusive, and an absent side does not restrict. -/
structure Range (α : Type) where
  first : Option α
  last : Option α
deriving DecidableEq, Repr

namespace Range

variable {α : Type}

def isOpen (r : Range α) : Bool := r.first.isNone && r.last.isNone

def override (old new : Range α) : Range α := ⟨new.first <|> old.first, new.last <|> old.last⟩

def merge : List (Range α) → Option (Range α)
  | [] => none
  | r :: rs => some (rs.foldl override r)

end Range

abbrev RowRange := Range Nat

abbrev DateRange := Range Bound

def RowRange.contains (r : RowRange) (row : Nat) : Bool :=
  r.first.all (· ≤ row) && r.last.all (row ≤ ·)

def DateRange.contains (r : DateRange) (row : Nat) (millis : Option Int) : Bool :=
  (match r.first with
    | none => true
    | some (.row n) => n ≤ row
    | some (.date d) => millis.any (d.millis ≤ ·)) &&
  (match r.last with
    | none => true
    | some (.row n) => row ≤ n
    | some (.date d) => millis.any (· ≤ d.millis))

def DateRange.text (r : DateRange) : Text :=
  (r.first.map Bound.text).getD [] ++ "::".toList ++ (r.last.map Bound.text).getD []

def RowRange.text (r : RowRange) : Text := DateRange.text ⟨r.first.map .row, r.last.map .row⟩

structure Filter where
  includes : List Term := []
  excludes : List Term := []
  rows : Option RowRange := none
  dates : Option DateRange := none
  gap : Option Binary64 := none
deriving DecidableEq, Repr

namespace Filter

def isEmpty (f : Filter) : Bool :=
  f.includes.isEmpty && f.excludes.isEmpty && f.rows.isNone && f.dates.isNone && f.gap.isNone

def same (f g : Filter) : Bool :=
  f.includes = g.includes && f.excludes = g.excludes && f.rows = g.rows && f.dates = g.dates &&
  (match f.gap, g.gap with
    | none, none => true
    | some x, some y => x.same y
    | _, _ => false)

/-- The segments of the canonical text. Ranges without sides are not written. -/
def segments (f : Filter) : List Text :=
  f.includes.map Term.text ++
  f.excludes.map (fun t => '!' :: t.text) ++
  ((f.rows.filter (!·.isOpen)).map RowRange.text).toList ++
  ((f.dates.filter (!·.isOpen)).map DateRange.text).toList ++
  (f.gap.map fun g => "#gap=".toList ++ g.text).toList

def text (f : Filter) : Text := List.intercalate "||".toList f.segments

end Filter
end Logbook
