import Logbook.Text.Scan

/-! The shapes that time stamps are written in: runs of digits with marks between them. A pattern is
matched at the front of a text or located inside it. -/

namespace Logbook.Stamp

inductive Piece where
  | digits (least most : Nat)
  | mark (c : Char)
deriving DecidableEq, Repr

abbrev Pattern := List Piece

namespace Pattern

def date : Pattern := [.digits 4 4, .mark '-', .digits 2 2, .mark '-', .digits 2 2]

def slashDate (year : Nat) : Pattern :=
  [.digits 2 2, .mark '/', .digits 2 2, .mark '/', .digits year year]

def clock : Pattern := [.digits 2 2, .mark ':', .digits 2 2, .mark ':', .digits 2 2]

def fraction (c : Char) (least most : Nat) : Pattern := [.mark c, .digits least most]

end Pattern

def Piece.scan : Piece → Scan Text
  | .digits least most => fun t =>
    let run := (t.take most).takeWhile Text.isDigit
    if least ≤ run.length then some (run, t.drop run.length) else none
  | .mark c => do
    Scan.char c
    return [c]

def Pattern.scan : Pattern → Scan Text
  | [] => return []
  | p :: ps => do
    let a ← p.scan
    let b ← scan ps
    return a ++ b

/-- The first place in a text where a pattern fits: what precedes it and what it covers. -/
def Pattern.locate (p : Pattern) : Text → Option (Text × Text)
  | [] => (p.scan []).map fun m => ([], m.1)
  | c :: r =>
    match p.scan (c :: r) with
    | some (covered, _) => some ([], covered)
    | none => (locate p r).map fun m => (c :: m.1, m.2)

end Logbook.Stamp
