import Logbook.Stamp.Pattern

/-! Time stamps inside a line. The kinds are tried in a fixed order over the whole line, so a kind
that comes first wins even where a later one occurs further left. -/

namespace Logbook.Stamp

inductive Kind where
  | dateColonMillis
  | dateFraction
  | dateSeconds
  | slashShortYear
  | slashLongYear
  | timeColonMillis
  | timeDotMillis
  | isoMillis
  | isoSeconds
deriving DecidableEq, Repr

namespace Kind

open Pattern

def all : List Kind :=
  [.dateColonMillis, .dateFraction, .dateSeconds, .slashShortYear, .slashLongYear,
   .timeColonMillis, .timeDotMillis, .isoMillis, .isoSeconds]

def pattern : Kind → Pattern
  | .dateColonMillis => date ++ [.mark ' '] ++ clock ++ fraction ':' 3 3
  | .dateFraction => date ++ [.mark ' '] ++ clock ++ fraction '.' 3 6
  | .dateSeconds => date ++ [.mark ' '] ++ clock
  | .slashShortYear => slashDate 2 ++ [.mark ' '] ++ clock ++ fraction '.' 3 3
  | .slashLongYear => slashDate 4 ++ [.mark ' '] ++ clock ++ fraction '.' 3 3
  | .timeColonMillis => clock ++ fraction ':' 3 3
  | .timeDotMillis => clock ++ fraction '.' 3 3
  | .isoMillis => date ++ [.mark 'T'] ++ clock ++ fraction '.' 3 3
  | .isoSeconds => date ++ [.mark 'T'] ++ clock

def isTimeOnly : Kind → Bool
  | .timeColonMillis | .timeDotMillis => true
  | _ => false

end Kind

end Stamp

structure Stamp where
  kind : Stamp.Kind
  before : Text
  text : Text
deriving DecidableEq, Repr

namespace Stamp

def start (s : Stamp) : Nat := Text.utf8Length s.before

def findKind? (line : Text) (k : Kind) : Option Stamp :=
  (k.pattern.locate line).map fun m => ⟨k, m.1, m.2⟩

def find? (line : Text) : Option Stamp := Kind.all.findSome? (findKind? line)

/-- The shapes of a stamp at the front of a line, or alone in a box. The fraction of a dated stamp
is optional, so the shapes with one come first. -/
def shapes : List Pattern :=
  let dated := fun (sep : Char) (rest : Pattern) =>
    Pattern.date ++ [.mark sep] ++ Pattern.clock ++ rest
  let slashed := fun (year : Nat) =>
    Pattern.slashDate year ++ [.mark ' '] ++ Pattern.clock ++ Pattern.fraction '.' 3 3
  [dated ' ' (Pattern.fraction ':' 3 6), dated ' ' (Pattern.fraction '.' 3 6), dated ' ' [],
   dated 'T' (Pattern.fraction ':' 3 6), dated 'T' (Pattern.fraction '.' 3 6), dated 'T' [],
   slashed 4, slashed 2,
   Pattern.clock ++ Pattern.fraction ':' 3 3, Pattern.clock ++ Pattern.fraction '.' 3 3]

def scan : Scan Text := Scan.first (shapes.map Pattern.scan)

def isStamp (t : Text) : Bool := shapes.any fun p => (p.scan t).any (·.2.isEmpty)

end Stamp
end Logbook
