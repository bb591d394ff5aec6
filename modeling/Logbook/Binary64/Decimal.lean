import Logbook.Binary64.Basic
import Logbook.Text.Numeral
import Logbook.Text.Scan

/-! Numbers in decimal. A number is written with the fewest digits that read back as the same
number, never with an exponent; if none did, its exact expansion would be written. -/

namespace Logbook.Binary64

def tenTo (n : Nat) : Nat := Nat.pow 10 n

/-- The rank nearest to the digits as a whole number, times ten to the power `e`. The bounds keep
powers of ten that are out of range from being computed. -/
def ofDigits (digits : Text) (e : Int) : Nat :=
  let significant := digits.dropWhile (· = '0')
  let size := significant.length + e
  let n := significant.foldl (fun n c => 10 * n + Numeral.digitValue c) 0
  if significant = [] ∨ size < -330 then 0
  else if 310 < size then infinityRank
  else if 0 ≤ e then nearest (n * tenTo e.toNat) 1
  else nearest n (tenTo (-e).toNat)

section Reading

open Scan

def scanSign : Scan Bool := do
  let sign ← perhaps (satisfy fun c => c = '-' || c = '+')
  return sign = some '-'

def scanExponent : Scan Int := do
  let _ ← satisfy fun c => c = 'e' || c = 'E'
  let negative ← scanSign
  let digits ← many1 Char.isDigit
  let n : Nat := digits.foldl (fun n c => 10 * n + Numeral.digitValue c) 0
  return if negative then -n else n

def scanDecimal : Scan Nat := do
  let whole ← many Char.isDigit
  let fraction ← perhaps do
    char '.'
    many Char.isDigit
  let fraction := fraction.getD []
  guard (whole ++ fraction ≠ [])
  let e ← perhaps scanExponent
  return ofDigits (whole ++ fraction) (e.getD 0 - fraction.length)

def read? (t : Text) : Option Binary64 := do
  let (negative, body) ← scanSign.run t
  let name := Text.asciiLower body
  if name = "nan".toList then return nan
  else if name = "inf".toList ∨ name = "infinity".toList then return number negative infinityRank
  else
    let (rank, rest) ← scanDecimal.run body
    guard rest.isEmpty
    return number negative rank

end Reading

def positional (n : Nat) (e : Int) : Text :=
  if 0 ≤ e then Text.ofNat (n * tenTo e.toNat)
  else
    let places := (-e).toNat
    let digits := Text.padded (places + 1) n
    digits.take (digits.length - places) ++ ['.'] ++ digits.drop (digits.length - places)

def readsBack (rank : Nat) (d : Nat × Int) : Bool := ofDigits (Text.ofNat d.1) d.2 = rank

def decimalShift : Nat := 400

/-- The decimals of `n` digits next to a magnitude below ten to the power `e`, nearer one first. Of
two equally near ones the larger comes first. -/
def neighbours (rank : Nat) (e : Int) (n : Nat) : List (Nat × Int) :=
  let num := units rank * tenTo decimalShift
  let den := unit * tenTo (e - n + decimalShift).toNat
  let q := num / den
  let below := (q, e - n)
  let above := if q + 1 = tenTo n then (tenTo (n - 1), e - n + 1) else (q + 1, e - n)
  if 2 * (num % den) < den then [below, above] else [above, below]

def shortest (rank : Nat) : Nat × Int :=
  let e := (Text.ofNat (units rank * tenTo decimalShift / unit)).length - (decimalShift : Int)
  let tried := (List.range' 1 17).flatMap (neighbours rank e)
  (tried.find? (readsBack rank)).getD (units rank * Nat.pow 5 1074, -1074)

def text : Binary64 → Text
  | nan => "NaN".toList
  | number negative rank =>
    let magnitude :=
      if rank = 0 then ['0']
      else if rank < infinityRank then positional (shortest rank).1 (shortest rank).2
      else "inf".toList
    if negative then '-' :: magnitude else magnitude

end Logbook.Binary64
