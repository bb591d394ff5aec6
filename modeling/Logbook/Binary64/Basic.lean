/-! Numbers in the 64-bit binary interchange format. Magnitudes are numbered from zero upwards, so
comparing two numbers compares their ranks, and rounding gives the rank of the nearest magnitude. -/

namespace Logbook

/-- A number is given by its sign and the rank of its magnitude. -/
inductive Binary64 where
  | nan
  | number (negative : Bool) (rank : Nat)
deriving DecidableEq, Repr

namespace Binary64

def groupSize : Nat := 1 <<< 52

def infinityRank : Nat := 2047 * groupSize

def unit : Nat := 1 <<< 1074

/-- The magnitude of a rank, as a multiple of the smallest positive one. -/
def units (rank : Nat) : Nat :=
  if rank < groupSize then rank
  else (groupSize + rank % groupSize) <<< (rank / groupSize - 1)

def roundHalfEven (num den : Nat) : Nat :=
  let q := num / den
  let r := num % den
  if 2 * r < den then q else if den < 2 * r then q + 1 else q + q % 2

/-- The rank of the magnitude nearest to a fraction. The step doubles with each binary digit that
the fraction has beyond the 53 that fit. -/
def nearest (num den : Nat) : Nat :=
  let u := num * unit
  let k := (u / den).log2 - 52
  min infinityRank (k * groupSize + roundHalfEven u (den <<< k))

def isFinite : Binary64 → Bool
  | nan => false
  | number _ rank => rank < infinityRank

def order : Binary64 → Option Int
  | nan => none
  | number negative rank => some (if negative then -rank else rank)

def gt (a b : Binary64) : Bool :=
  match a.order, b.order with
  | some x, some y => y < x
  | _, _ => false

def same (a b : Binary64) : Bool :=
  match a.order, b.order with
  | some x, some y => x = y
  | _, _ => false

def isNonNegative (a : Binary64) : Bool := a.order.any (0 ≤ ·)

def ofInt (i : Int) : Binary64 := number (i < 0) (nearest i.natAbs 1)

def scale (a : Binary64) (n : Nat) : Binary64 :=
  match a with
  | nan => nan
  | number negative rank =>
    if rank < infinityRank then number negative (nearest (units rank * n) unit)
    else a

end Binary64
end Logbook
