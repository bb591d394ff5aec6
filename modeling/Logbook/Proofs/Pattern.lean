import Mathlib.Algebra.GroupWithZero.Nat
import Logbook.Proofs.Cutting
import Logbook.Proofs.Scan
import Logbook.Stamp.Pattern

/-! What a pattern covers, said without the scanner. Where every run of digits has a fixed length,
the scanner takes just that from any text that begins with it. -/

namespace Logbook.Stamp

open Scan

def Piece.Fits : Piece → Text → Prop
  | .digits least most, a => least ≤ a.length ∧ a.length ≤ most ∧ ∀ c ∈ a, Text.isDigit c = true
  | .mark c, a => a = [c]

def Piece.width : Piece → Nat
  | .digits least _ => least
  | .mark _ => 1

def Piece.IsFixed : Piece → Prop
  | .digits least most => least = most
  | .mark _ => True

instance : (p : Piece) → Decidable p.IsFixed
  | .digits least most => inferInstanceAs (Decidable (least = most))
  | .mark _ => inferInstanceAs (Decidable True)

theorem Piece.run_digits (least most : Nat) (t : Text) :
    (Piece.digits least most).scan.run t =
      if least ≤ ((t.take most).takeWhile Text.isDigit).length then
        some ((t.take most).takeWhile Text.isDigit,
          t.drop ((t.take most).takeWhile Text.isDigit).length)
      else none := rfl

theorem Piece.fits_of_run {p : Piece} {t a r : Text} (h : p.scan.run t = some (a, r)) :
    t = a ++ r ∧ p.Fits a := by
  cases p with
  | digits least most =>
    rw [run_digits] at h
    split at h
    · next long =>
      cases h
      have front : (t.take most).takeWhile Text.isDigit <+: t :=
        (List.takeWhile_prefix _).trans (List.take_prefix most t)
      have short : ((t.take most).takeWhile Text.isDigit).length ≤ most :=
        (List.takeWhile_prefix _).length_le.trans (List.length_take_le most t)
      refine ⟨?_, long, short, fun c hc => List.mem_takeWhile_imp hc⟩
      exact (List.prefix_iff_eq_append.1 front).symm
    · contradiction
  | mark c =>
    obtain ⟨u, t', char, same⟩ := run_bind_eq_some.1 h
    cases same
    exact ⟨run_char_eq_some.1 char, rfl⟩

theorem Piece.run_of_fits {p : Piece} {a : Text} (fixed : p.IsFixed) (fits : p.Fits a) (r : Text) :
    p.scan.run (a ++ r) = some (a, r) := by
  cases p with
  | digits least most =>
    obtain rfl : least = most := fixed
    obtain ⟨long, short, digits⟩ := fits
    have length : a.length = least := by omega
    have run : ((a ++ r).take least).takeWhile Text.isDigit = a := by
      rw [← length, List.take_left, List.takeWhile_eq_self_iff]
      exact digits
    rw [run_digits, run, if_pos long, List.drop_left]
  | mark c =>
    obtain rfl : a = [c] := fits
    simp [Piece.scan, run_char_cons]

theorem Piece.Fits.notMem {least most : Nat} {a : Text} (h : (Piece.digits least most).Fits a)
    {c : Char} (mark : Text.isDigit c = false) : c ∉ a := by
  intro hc
  have digit := h.2.2 c hc
  rw [mark] at digit
  contradiction

theorem Piece.Fits.length_eq {width : Nat} {a : Text} (h : (Piece.digits width width).Fits a) :
    a.length = width := le_antisymm h.2.1 h.1

theorem takeWhile_take_append {a r : Text} (digits : ∀ c ∈ a, Text.isDigit c = true)
    (stops : Stops Text.isDigit r) (n : Nat) :
    ((a ++ r).take n).takeWhile Text.isDigit = a.take n := by
  rw [List.take_append, List.takeWhile_append_of_pos fun c hc => digits c (List.mem_of_mem_take hc),
    (stops.take _).takeWhile, List.append_nil]

theorem Piece.run_of_stops {p : Piece} {a r : Text} (fits : p.Fits a)
    (stops : Stops Text.isDigit r) : p.scan.run (a ++ r) = some (a, r) := by
  cases p with
  | digits least most =>
    obtain ⟨long, short, digits⟩ := fits
    have run : ((a ++ r).take most).takeWhile Text.isDigit = a := by
      rw [takeWhile_take_append digits stops, List.take_of_length_le short]
    rw [run_digits, run, if_pos long, List.drop_left]
  | mark c =>
    obtain rfl : a = [c] := fits
    simp [Piece.scan, run_char_cons]

namespace Pattern

def Fits : Pattern → Text → Prop
  | [], a => a = []
  | p :: ps, a => ∃ b d, a = b ++ d ∧ p.Fits b ∧ Fits ps d

def width (p : Pattern) : Nat := (p.map Piece.width).sum

def IsFixed (p : Pattern) : Prop := ∀ q ∈ p, q.IsFixed

instance (p : Pattern) : Decidable p.IsFixed := inferInstanceAs (Decidable (∀ q ∈ p, q.IsFixed))

theorem fits_of_run {p : Pattern} {t a r : Text} (h : (scan p).run t = some (a, r)) :
    t = a ++ r ∧ p.Fits a := by
  induction p generalizing t a r with
  | nil =>
    cases h
    exact ⟨rfl, rfl⟩
  | cons q ps ih =>
    obtain ⟨b, t', first, h⟩ := run_bind_eq_some.1 h
    obtain ⟨d, r', rest, same⟩ := run_bind_eq_some.1 h
    cases same
    obtain ⟨rfl, fits⟩ := Piece.fits_of_run first
    obtain ⟨rfl, fits'⟩ := ih rest
    exact ⟨by rw [List.append_assoc], b, d, rfl, fits, fits'⟩

theorem fits_append {p q : Pattern} {a : Text} :
    Fits (p ++ q) a ↔ ∃ b d, a = b ++ d ∧ p.Fits b ∧ q.Fits d := by
  induction p generalizing a with
  | nil =>
    constructor
    · exact fun h => ⟨[], a, rfl, rfl, h⟩
    · rintro ⟨b, d, rfl, rfl, h⟩
      exact h
  | cons piece ps ih =>
    simp only [List.cons_append, Fits, ih]
    constructor
    · rintro ⟨b, d, rfl, first, b', d', rfl, rest, last⟩
      exact ⟨b ++ b', d', by rw [List.append_assoc], ⟨b, b', rfl, first, rest⟩, last⟩
    · rintro ⟨b, d, rfl, ⟨b', d', rfl, first, rest⟩, last⟩
      exact ⟨b', d' ++ d, by rw [List.append_assoc], first, d', d, rfl, rest, last⟩

theorem run_append {p q : Pattern} {a b t r : Text} (fixed : p.IsFixed) (fits : p.Fits a)
    (rest : (scan q).run t = some (b, r)) : (scan (p ++ q)).run (a ++ t) = some (a ++ b, r) := by
  induction p generalizing a with
  | nil =>
    obtain rfl : a = [] := fits
    exact rest
  | cons piece ps ih =>
    obtain ⟨c, d, rfl, first, others⟩ := fits
    have run := Piece.run_of_fits (fixed piece (by simp)) first (d ++ t)
    have tail := ih (fun p hp => fixed p (by simp [hp])) others
    simp [scan, run, tail]

theorem run_of_fits {p : Pattern} {a : Text} (fixed : p.IsFixed) (fits : p.Fits a) (r : Text) :
    (scan p).run (a ++ r) = some (a, r) := by
  have nothing : (scan []).run r = some ([], r) := rfl
  have run := run_append fixed fits nothing
  rwa [List.append_nil, List.append_nil] at run

/-- Only the last piece may vary in length. -/
theorem run_of_stops {p : Pattern} {q : Piece} {a r : Text} (fixed : p.IsFixed)
    (fits : Fits (p ++ [q]) a) (stops : Stops Text.isDigit r) :
    (scan (p ++ [q])).run (a ++ r) = some (a, r) := by
  obtain ⟨b, _, rfl, front, d, _, rfl, last, rfl⟩ := fits_append.1 fits
  have run : (scan [q]).run (d ++ r) = some (d, r) := by
    simp [scan, Piece.run_of_stops last stops]
  rw [List.append_nil, List.append_assoc]
  exact run_append fixed front run

theorem Fits.length_eq {p : Pattern} {a : Text} (fixed : p.IsFixed) (h : p.Fits a) :
    a.length = p.width := by
  induction p generalizing a with
  | nil =>
    obtain rfl : a = [] := h
    rfl
  | cons q ps ih =>
    obtain ⟨b, d, rfl, first, rest⟩ := h
    have front : b.length = q.width := by
      cases q with
      | digits least most =>
        obtain rfl : least = most := fixed (.digits least most) (by simp)
        exact first.length_eq
      | mark c =>
        obtain rfl : b = [c] := first
        rfl
    rw [List.length_append, front, ih (fun q hq => fixed q (by simp [hq])) rest, width, width,
      List.map_cons, List.sum_cons]

theorem Fits.char {p : Pattern} {a : Text} (h : p.Fits a) {c : Char} (hc : c ∈ a) :
    Text.isDigit c = true ∨ .mark c ∈ p := by
  induction p generalizing a with
  | nil =>
    obtain rfl : a = [] := h
    contradiction
  | cons q ps ih =>
    obtain ⟨b, d, rfl, first, rest⟩ := h
    rcases List.mem_append.1 hc with hc | hc
    · cases q with
      | digits least most => exact .inl (first.2.2 c hc)
      | mark e =>
        obtain rfl : b = [e] := first
        obtain rfl := List.mem_singleton.1 hc
        exact .inr (by simp)
    · exact (ih rest hc).imp_right (List.mem_cons_of_mem q)

theorem Fits.notMem {p : Pattern} {a : Text} (h : p.Fits a) {c : Char}
    (digit : Text.isDigit c = false) (mark : .mark c ∉ p) : c ∉ a := by
  intro hc
  rcases h.char hc with digit' | mark'
  · simp [digit] at digit'
  · exact mark mark'

theorem Fits.mark {p : Pattern} {a : Text} (h : p.Fits a) {c : Char} (hc : .mark c ∈ p) :
    c ∈ a := by
  induction p generalizing a with
  | nil => contradiction
  | cons q ps ih =>
    obtain ⟨b, d, rfl, first, rest⟩ := h
    rcases List.mem_cons.1 hc with rfl | hc
    · obtain rfl : b = [c] := first
      simp
    · exact List.mem_append_right b (ih rest hc)

theorem Fits.count {p : Pattern} {a : Text} (h : p.Fits a) {c : Char}
    (mark : Text.isDigit c = false) : a.count c = p.count (.mark c) := by
  induction p generalizing a with
  | nil =>
    obtain rfl : a = [] := h
    rfl
  | cons q ps ih =>
    obtain ⟨b, d, rfl, first, rest⟩ := h
    rw [List.count_append, ih rest, List.count_cons, Nat.add_comm]
    congr 1
    cases q with
    | digits least most =>
      simpa using List.count_eq_zero.2 (first.notMem mark)
    | mark e =>
      obtain rfl : b = [e] := first
      simp [List.count_singleton]

theorem Fits.head {least most : Nat} {ps : Pattern} {a : Text}
    (h : Fits (.digits least most :: ps) a) (positive : 0 < least) :
    ∃ c r, a = c :: r ∧ Text.isDigit c = true := by
  obtain ⟨b, d, rfl, ⟨long, -, digits⟩, -⟩ := h
  obtain ⟨c, b, rfl⟩ := List.exists_cons_of_length_pos (positive.trans_le long)
  exact ⟨c, b ++ d, rfl, digits c (by simp)⟩

theorem Fits.getLast {least most : Nat} {p : Pattern} {a : Text}
    (h : Fits (p ++ [.digits least most]) a) (positive : 0 < least) :
    ∃ c, a.getLast? = some c ∧ Text.isDigit c = true := by
  obtain ⟨b, -, rfl, -, d, -, rfl, ⟨long, -, digits⟩, rfl⟩ := fits_append.1 h
  have nonempty : d ≠ [] := List.ne_nil_of_length_pos (positive.trans_le long)
  refine ⟨d.getLast nonempty, ?_, digits _ (List.getLast_mem nonempty)⟩
  rw [List.append_nil, List.getLast?_append, List.getLast?_eq_some_getLast nonempty, Option.some_or]

def Separates (c : Char) : Piece → Prop
  | .digits least _ => 0 < least
  | .mark d => d ≠ c

instance (c : Char) : (p : Piece) → Decidable (Separates c p)
  | .digits least _ => inferInstanceAs (Decidable (0 < least))
  | .mark d => inferInstanceAs (Decidable (d ≠ c))

def Apart (c : Char) (p : Pattern) : Prop := p.IsChain fun q q' => q = .mark c → Separates c q'

instance (c : Char) (p : Pattern) : Decidable (p.Apart c) :=
  inferInstanceAs (Decidable (p.IsChain fun q q' => q = .mark c → Separates c q'))

theorem Fits.noPair {c : Char} {p : Pattern} {a : Text} (h : p.Fits a) (apart : p.Apart c)
    (mark : Text.isDigit c = false) : Text.NoPair c a := by
  induction p generalizing a with
  | nil =>
    obtain rfl : a = [] := h
    exact List.isChain_nil
  | cons q ps ih =>
    obtain ⟨b, d, rfl, first, rest⟩ := h
    have tail := ih rest apart.tail
    cases q with
    | digits least most =>
      have absent : c ∉ b := first.notMem mark
      exact (Text.noPair_of_notMem absent).append tail
        (.inl fun last => absent (List.mem_of_getLast? last))
    | mark e =>
      obtain rfl : b = [e] := first
      refine (Text.noPair_singleton c e).append tail ?_
      -- Only a mark `c` can begin a pair, and then the next piece does not begin with `c`.
      by_cases same : e = c
      · subst same
        right
        rcases ps with _ | ⟨q', ps⟩
        · obtain rfl : d = [] := rest
          simp
        · have separates : Separates e q' := (List.isChain_cons_cons.1 apart).1 rfl
          cases q' with
          | digits least most =>
            obtain ⟨c', r, rfl, digit⟩ := Fits.head rest separates
            rintro ⟨⟩
            simp [digit] at mark
          | mark e' =>
            obtain ⟨b', d', rfl, rfl, -⟩ := rest
            have different : e' ≠ e := separates
            simpa using different
      · left
        simpa using same

end Pattern
end Logbook.Stamp
