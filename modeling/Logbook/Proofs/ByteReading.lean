import Logbook.Proofs.Digits
import Logbook.Proofs.Text
import Logbook.Stamp.Instant

/-! Stamps read where texts are bytes. There a text is cut at a number of bytes, and to cut inside
a character or to add beyond 32 bits would put an end to the program. Digits of other scripts take
more than one byte, so a cut may well fall inside one; but a stamp with such a digit is refused
before, and what is read is the same as character by character. -/

namespace Logbook

open Calendar

namespace Text

def cutAt? : Nat → Text → Option (Text × Text)
  | 0, t => some ([], t)
  | _ + 1, [] => none
  | n + 1, c :: r =>
    if c.utf8Size ≤ n + 1 then (cutAt? (n + 1 - c.utf8Size) r).map fun p => (c :: p.1, p.2)
    else none

theorem cutAt?_eq_some_iff {n : Nat} {t u r : Text} :
    cutAt? n t = some (u, r) ↔ t = u ++ r ∧ utf8Length u = n := by
  fun_induction cutAt? n t generalizing u r with
  | case1 t =>
    constructor
    · rintro ⟨⟩
      exact ⟨rfl, rfl⟩
    · rintro ⟨rfl, nothing⟩
      obtain rfl : u = [] := by
        by_contra nonempty
        exact (utf8Length_pos nonempty).ne' nothing
      rfl
  | case2 n =>
    refine iff_of_false (by simp) ?_
    rintro ⟨whole, bytes⟩
    obtain ⟨rfl, rfl⟩ := List.append_eq_nil_iff.1 whole.symm
    contradiction
  | case3 n c t fits ih =>
    simp only [Option.map_eq_some_iff, Prod.exists, Prod.mk.injEq, ih]
    constructor
    · rintro ⟨u, r, ⟨rfl, bytes⟩, rfl, rfl⟩
      refine ⟨rfl, ?_⟩
      rw [utf8Length]
      omega
    · rintro ⟨whole, bytes⟩
      rcases u with _ | ⟨d, u⟩
      · contradiction
      · obtain ⟨rfl, rfl⟩ := List.cons.inj whole
        rw [utf8Length] at bytes
        exact ⟨u, r, ⟨rfl, by omega⟩, rfl, rfl⟩
  | case4 n c t wide =>
    refine iff_of_false (by simp) ?_
    rintro ⟨whole, bytes⟩
    rcases u with _ | ⟨d, u⟩
    · contradiction
    · obtain ⟨rfl, rfl⟩ := List.cons.inj whole
      rw [utf8Length] at bytes
      omega

def IsNarrow (t : Text) : Prop := ∀ c ∈ t, c.utf8Size = 1

theorem IsNarrow.utf8Length_eq {t : Text} (h : IsNarrow t) : utf8Length t = t.length := by
  induction t with
  | nil => rfl
  | cons c t ih =>
    rw [IsNarrow, List.forall_mem_cons] at h
    rw [utf8Length, h.1, ih h.2, List.length_cons, Nat.add_comm]

theorem narrow_of_isDigit {c : Char} (h : c.isDigit = true) : c.utf8Size = 1 := by
  rw [ascii_isDigit_iff] at h
  rw [Char.utf8Size_eq_one_iff, UInt32.le_iff_toNat_le]
  exact h.2.trans (by decide)

end Text

namespace Numeral

open Text

theorem narrow_of_read? {limit n : Nat} {t : Text} (h : read? limit t = some n) : IsNarrow t := by
  have digits : ∀ {r : Text}, readDigits limit 0 r = .ok n → IsNarrow r := fun ok c hc =>
    narrow_of_isDigit ((ofDigitChars_of_readDigits ok).1 c hc)
  have ok := read_of_read? h
  unfold read at ok
  split at ok
  · contradiction
  · contradiction
  · exact List.forall_mem_cons.2 ⟨rfl, digits ok⟩
  · exact digits ok

theorem readInt?_bounds {limit : Nat} {n : Int} {t : Text} (h : readInt? limit t = some n) :
    IsNarrow t ∧ -10 ^ t.length < n ∧ n < 10 ^ t.length := by
  unfold readInt? at h
  split at h
  · contradiction
  · next r _ =>
    cases ok : readDigits (limit + 1) 0 r with
    | error fault =>
      rw [ok] at h
      contradiction
    | ok m =>
      rw [ok] at h
      cases h
      have narrow : IsNarrow r := fun c hc =>
        narrow_of_isDigit ((ofDigitChars_of_readDigits ok).1 c hc)
      have small : (m : Int) < 10 ^ r.length := by
        have small := lt_of_readDigits ok
        rw [Nat.zero_add, Nat.one_mul] at small
        exact_mod_cast small
      refine ⟨List.forall_mem_cons.2 ⟨rfl, narrow⟩, ?_⟩
      rw [List.length_cons, pow_succ]
      dsimp only
      omega
  · cases number : read? limit t with
    | none =>
      rw [number] at h
      contradiction
    | some m =>
      rw [number] at h
      cases h
      have small : (m : Int) < 10 ^ t.length := by exact_mod_cast lt_of_read? number
      exact ⟨narrow_of_read? number, by dsimp only; omega, small⟩

end Numeral

namespace Stamp

open Text Numeral

inductive Fault where
  | insideCharacter
  | overflow
deriving DecidableEq, Repr

/-- A reading that may refuse a text, or fail for good. -/
abbrev Faulty := OptionT (Except Fault)

namespace Faulty

variable {α β : Type}

def lift (o : Option α) : Faulty α := OptionT.mk (.ok o)

theorem lift_bind (o : Option α) (f : α → Option β) :
    lift (o >>= f) = lift o >>= fun a => lift (f a) := by
  cases o <;> rfl

theorem lift_some_bind (a : α) (f : α → Faulty β) : (lift (some a) >>= f) = f a := rfl

theorem lift_bind_congr {o : Option α} {f g : α → Faulty β} (h : ∀ a, o = some a → f a = g a) :
    (lift o >>= f) = (lift o >>= g) := by
  cases o with
  | none => rfl
  | some a => exact h a rfl

def after (n : Nat) (t : Text) : Faulty Text :=
  OptionT.mk (match cutAt? n t with
    | some (_, r) => .ok (some r)
    | none => .error .insideCharacter)

def add (m n : Int) : Faulty Int :=
  OptionT.mk (if -(maxSigned32 + 1) ≤ m + n ∧ m + n ≤ maxSigned32 then .ok (some (m + n))
    else .error .overflow)

end Faulty

open Faulty (lift)

def clockNumbers? (t : Text) : Option (Nat × Nat × Nat) := do
  let (h, m, s) ← threeParts? ':' t
  let hour ← read? max32 h
  let minute ← read? max32 m
  let second ← read? max32 s
  return (hour, minute, second)

def clockInBytes (t : Text) : Faulty Clock := do
  let front := (cutAt? 8 t).map Prod.fst
  let (hour, minute, second) ← lift (front.bind clockNumbers?)
  let fraction ← Faulty.after 8 t
  let milli ← lift (milli? fraction)
  lift (Clock.ofParts? hour minute second milli)

def yearInBytes (y : Text) (number : Int) : Faulty Int :=
  if utf8Length y = 2 then Faulty.add number 2000 else lift (some number)

def slashDateInBytes (t : Text) : Faulty Date := do
  let (d, m, y) ← lift (threeParts? '/' t)
  let day ← lift (read? max32 d)
  let month ← lift (read? max32 m)
  let number ← lift (readInt? maxSigned32 y)
  let year ← yearInBytes y number
  lift (Date.ofParts? year month day)

def Kind.dateInBytes : Kind → Text → Faulty Date
  | .slashShortYear, t | .slashLongYear, t => slashDateInBytes t
  | _, t => lift (Stamp.date? t)

def instantInBytes (k : Kind) (anchor : Option Date) (t : Text) : Faulty Instant :=
  if k.isTimeOnly then do
    let c ← clockInBytes t
    lift (some (.of anchor c))
  else do
    let (day, time) ← lift (cut? k.separator t)
    let d ← k.dateInBytes day
    let c ← clockInBytes time
    lift (some (.of (some d) c))

theorem eq_of_threeParts? {c : Char} {t x y z : Text} (h : threeParts? c t = some (x, y, z)) :
    t = x ++ c :: (y ++ c :: z) := by
  obtain ⟨⟨a, rest⟩, first, h⟩ := Option.bind_eq_some_iff.1 h
  obtain ⟨⟨b, d⟩, second, same⟩ := Option.bind_eq_some_iff.1 h
  cases same
  rw [eq_of_cut? first, eq_of_cut? second]

theorem narrow_of_clockNumbers? {t : Text} {x : Nat × Nat × Nat}
    (h : clockNumbers? t = some x) : IsNarrow t := by
  obtain ⟨⟨h', m, s⟩, parts, h⟩ := Option.bind_eq_some_iff.1 h
  obtain ⟨hour, read_hour, h⟩ := Option.bind_eq_some_iff.1 h
  obtain ⟨minute, read_minute, h⟩ := Option.bind_eq_some_iff.1 h
  obtain ⟨second, read_second, -⟩ := Option.bind_eq_some_iff.1 h
  have colon : ':'.utf8Size = 1 := rfl
  rw [eq_of_threeParts? parts]
  simp only [IsNarrow, List.forall_mem_append, List.forall_mem_cons]
  exact ⟨narrow_of_read? read_hour, colon, narrow_of_read? read_minute, colon,
    narrow_of_read? read_second⟩

/-- The first eight characters are no time of day unless they are the first eight bytes. -/
theorem cutAt?_of_clockNumbers? {t : Text} {x : Nat × Nat × Nat} (long : 8 ≤ t.length)
    (h : clockNumbers? (t.take 8) = some x) : cutAt? 8 t = some (t.take 8, t.drop 8) := by
  refine cutAt?_eq_some_iff.2 ⟨(List.take_append_drop 8 t).symm, ?_⟩
  rw [(narrow_of_clockNumbers? h).utf8Length_eq, List.length_take, min_eq_left long]

theorem clockNumbers?_front (t : Text) :
    ((cutAt? 8 t).map Prod.fst).bind clockNumbers? =
      if 8 ≤ t.length then clockNumbers? (t.take 8) else none := by
  ext x
  rw [Option.ite_none_right_eq_some, Option.bind_eq_some_iff]
  constructor
  · rintro ⟨u, front, numbers⟩
    obtain ⟨⟨u, r⟩, bytes, rfl⟩ := Option.map_eq_some_iff.1 front
    obtain ⟨rfl, length⟩ := cutAt?_eq_some_iff.1 bytes
    rw [(narrow_of_clockNumbers? numbers).utf8Length_eq] at length
    rw [List.take_left' length, List.length_append, length]
    exact ⟨Nat.le_add_right .., numbers⟩
  · rintro ⟨long, numbers⟩
    exact ⟨_, by rw [cutAt?_of_clockNumbers? long numbers]; rfl, numbers⟩

theorem clockInBytes_eq (t : Text) : clockInBytes t = lift (clock? t) := by
  have parts : clock? t = (if 8 ≤ t.length then clockNumbers? (t.take 8) else none) >>= fun x =>
      milli? (t.drop 8) >>= fun milli => Clock.ofParts? x.1 x.2.1 x.2.2 milli := by
    unfold clock? clockNumbers? guard
    split
    · simp [Option.bind_assoc]
    · rfl
  rw [parts, Faulty.lift_bind, clockInBytes, clockNumbers?_front]
  cases numbers : if 8 ≤ t.length then clockNumbers? (t.take 8) else none with
  | none => rfl
  | some x =>
    obtain ⟨long, read⟩ := Option.ite_none_right_eq_some.1 numbers
    have rest : Faulty.after 8 t = lift (some (t.drop 8)) := by
      rw [Faulty.after, cutAt?_of_clockNumbers? long read]
      rfl
    simp only [Faulty.lift_some_bind, rest, Faulty.lift_bind]

theorem yearInBytes_eq {y : Text} {number : Int} (h : readInt? maxSigned32 y = some number) :
    yearInBytes y number = lift (some (if y.length = 2 then number + 2000 else number)) := by
  obtain ⟨narrow, low, high⟩ := readInt?_bounds h
  rw [yearInBytes, narrow.utf8Length_eq]
  split
  · next short =>
    rw [short] at low high
    have limit : maxSigned32 = 2147483647 := rfl
    rw [Faulty.add, if_pos (by omega)]
    rfl
  · rfl

theorem slashDateInBytes_eq (t : Text) : slashDateInBytes t = lift (slashDate? t) := by
  simp only [slashDateInBytes, slashDate?, Faulty.lift_bind]
  refine Faulty.lift_bind_congr fun p _ => ?_
  refine Faulty.lift_bind_congr fun day _ => ?_
  refine Faulty.lift_bind_congr fun month _ => ?_
  refine Faulty.lift_bind_congr fun number read => ?_
  rw [yearInBytes_eq read]
  rfl

theorem Kind.dateInBytes_eq (k : Kind) (t : Text) : k.dateInBytes t = lift (k.date? t) := by
  cases k <;> first | rfl | exact slashDateInBytes_eq t

theorem instantInBytes_eq (k : Kind) (anchor : Option Date) (t : Text) :
    instantInBytes k anchor t = lift (instant? k anchor t) := by
  rw [instantInBytes, instant?]
  split
  · rw [clockInBytes_eq, Faulty.lift_bind]
    rfl
  · simp only [Faulty.lift_bind, Kind.dateInBytes_eq, clockInBytes_eq]
    rfl

end Stamp
end Logbook
