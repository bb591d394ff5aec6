import Logbook.Text.Class

/-! Texts are lists of characters. This module trims them, cuts them at marks, looks for one inside
another and writes numbers. -/

namespace Logbook

abbrev Text := List Char

namespace Text

def trimStart (t : Text) : Text := t.dropWhile isBlank

def trimEnd (t : Text) : Text := (t.reverse.dropWhile isBlank).reverse

def trim (t : Text) : Text := trimEnd (trimStart t)

def nonblank? (t : Text) : Option Text :=
  match trim t with
  | [] => none
  | kept => some kept

def cut? (c : Char) : Text → Option (Text × Text)
  | [] => none
  | d :: r => if d = c then some ([], r) else (cut? c r).map fun p => (d :: p.1, p.2)

def cutPair? (a b : Char) : Text → Option (Text × Text)
  | c :: d :: r =>
    if c = a ∧ d = b then some ([], r)
    else (cutPair? a b (d :: r)).map fun p => (c :: p.1, p.2)
  | _ => none

def splitPair (a b : Char) : Text → List Text
  | [] => [[]]
  | [c] => [[c]]
  | c :: d :: r =>
    if c = a ∧ d = b then [] :: splitPair a b r
    else (splitPair a b (d :: r)).modifyHead (c :: ·)

def contains (part : Text) : Text → Bool
  | [] => part.isEmpty
  | c :: r => part.isPrefixOf (c :: r) || contains part r

theorem contains_iff {part t : Text} : contains part t = true ↔ part <:+: t := by
  induction t with
  | nil => simp [contains]
  | cons c r ih => simp [contains, ih, List.infix_cons_iff]

def asciiLower (t : Text) : Text := t.map Char.toLower

def segments (t : Text) : List Text := ((splitPair '|' '|' t).map trim).filter (· ≠ [])

def utf8Length : Text → Nat
  | [] => 0
  | c :: r => c.utf8Size + utf8Length r

def ofNat (n : Nat) : Text := Nat.toDigits 10 n

def padded (width n : Nat) : Text := (ofNat n).leftpad width '0'

end Text
end Logbook
