import Logbook.Text.Basic

/-! Decoding of bytes. What is no valid character becomes the replacement character, one for each
longest start of a valid sequence and one for each byte that starts none. -/

namespace Logbook.Text

def replacement : Char := '\uFFFD'

structure Lead where
  payload : Nat
  more : Nat
  lo : Nat
  hi : Nat

def lead? (b : Nat) : Option Lead :=
  if b < 0x80 then some ⟨b, 0, 0x80, 0xBF⟩
  else if b < 0xC2 then none
  else if b < 0xE0 then some ⟨b - 0xC0, 1, 0x80, 0xBF⟩
  else if b = 0xE0 then some ⟨0, 2, 0xA0, 0xBF⟩
  else if b = 0xED then some ⟨b - 0xE0, 2, 0x80, 0x9F⟩
  else if b < 0xF0 then some ⟨b - 0xE0, 2, 0x80, 0xBF⟩
  else if b = 0xF0 then some ⟨0, 3, 0x90, 0xBF⟩
  else if b < 0xF4 then some ⟨b - 0xF0, 3, 0x80, 0xBF⟩
  else if b = 0xF4 then some ⟨4, 3, 0x80, 0x8F⟩
  else none

/-- Reads the bytes that a first byte announced. A byte out of bounds is left to be read anew. -/
def decodeMore (payload lo hi : Nat) : Nat → List UInt8 → Char × List UInt8
  | 0, r => (Char.ofNat payload, r)
  | _ + 1, [] => (replacement, [])
  | n + 1, b :: r =>
    if lo ≤ b.toNat ∧ b.toNat ≤ hi then
      decodeMore (payload * 64 + b.toNat % 64) 0x80 0xBF n r
    else (replacement, b :: r)

def decodeOne (b : UInt8) (r : List UInt8) : Char × List UInt8 :=
  match lead? b.toNat with
  | some l => decodeMore l.payload l.lo l.hi l.more r
  | none => (replacement, r)

theorem decodeMore_length_le (payload lo hi n : Nat) (r : List UInt8) :
    (decodeMore payload lo hi n r).2.length ≤ r.length := by
  fun_induction decodeMore payload lo hi n r with
  | case1 => exact Nat.le_refl _
  | case2 => exact Nat.le_refl _
  | case3 _ _ _ _ _ _ _ ih => exact Nat.le_succ_of_le ih
  | case4 => exact Nat.le_refl _

theorem decodeOne_length_le (b : UInt8) (r : List UInt8) :
    (decodeOne b r).2.length ≤ r.length := by
  rw [decodeOne]
  split
  · exact decodeMore_length_le ..
  · exact Nat.le_refl _

def decodeOnto (before : Text) : List UInt8 → Text
  | [] => before
  | b :: r => decodeOnto ((decodeOne b r).1 :: before) (decodeOne b r).2
termination_by bytes => bytes.length
decreasing_by
  have := decodeOne_length_le b r
  simp only [List.length_cons]
  omega

def decode (bytes : List UInt8) : Text := (decodeOnto [] bytes).reverse

end Logbook.Text
