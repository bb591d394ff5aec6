import Logbook.Proofs.Overlap

/-! What the scanners of a line do where its front is a stamp or a box with known content. A stamp
is found whole in front of a space, and a box gives what the scanner of its content reads. -/

namespace Logbook

open Scan

namespace Stamp

namespace Pattern

def stopsDigits : Pattern → Bool
  | [] => true
  | .mark c :: _ => !Text.isDigit c
  | .digits _ _ :: _ => false

/-- The first pattern fails on every text that begins with what the second one covers and a space:
the two begin alike, and then another mark stands there or digits are missing. -/
def clashes : Pattern → Pattern → Bool
  | .mark c :: _, [] => c ≠ ' '
  | .mark c :: ps, .mark d :: qs => c ≠ d || clashes ps qs
  | .digits least most :: ps, .digits least' most' :: qs =>
    (least = most && least' = most' && least = least' && clashes ps qs) ||
      (most' < least && stopsDigits qs)
  | _, _ => false

theorem stops_of_fits {q : Pattern} {s : Text} (h : q.stopsDigits = true) (fits : q.Fits s)
    (r : Text) : Stops Text.isDigit (s ++ ' ' :: r) := by
  cases q with
  | nil =>
    obtain rfl : s = [] := fits
    exact stops_cons (by decide) r
  | cons piece qs =>
    cases piece with
    | digits => contradiction
    | mark c =>
      obtain ⟨_, d, rfl, rfl, -⟩ := fits
      exact stops_cons (by simpa [stopsDigits] using h) _

theorem run_eq_none_of_clashes {p q : Pattern} {s : Text} (h : p.clashes q = true)
    (fits : q.Fits s) (r : Text) : (scan p).run (s ++ ' ' :: r) = none := by
  fun_induction clashes p q generalizing s with
  | case1 c ps =>
    obtain rfl : s = [] := fits
    have other : ' ' ≠ c := by simpa using Ne.symm (of_decide_eq_true h)
    exact run_bind_of_none (run_bind_of_none (run_char_of_ne other r))
  | case2 c ps d qs ih =>
    obtain ⟨_, u, rfl, rfl, fits⟩ := fits
    by_cases same : c = d
    · subst same
      have rest := ih (by simpa using h) fits
      have mark : (Piece.mark c).scan.run (c :: (u ++ ' ' :: r)) = some ([c], u ++ ' ' :: r) :=
        Piece.run_of_fits (p := .mark c) trivial rfl (u ++ ' ' :: r)
      exact (run_bind_of_some mark).trans (run_bind_of_none rest)
    · exact run_bind_of_none (run_bind_of_none (run_char_of_ne (Ne.symm same) _))
  | case3 least most ps least' most' qs ih =>
    obtain ⟨b, u, rfl, piece, fits⟩ := fits
    rw [List.append_assoc]
    simp only [Bool.or_eq_true, Bool.and_eq_true, decide_eq_true_eq] at h
    rcases h with ⟨⟨⟨fixed, rfl⟩, rfl⟩, clash⟩ | ⟨fewer, stops⟩
    · have front : (Piece.digits least most).scan.run (b ++ (u ++ ' ' :: r)) =
          some (b, u ++ ' ' :: r) := by
        subst fixed
        exact Piece.run_of_fits (p := .digits least least) rfl piece _
      exact (run_bind_of_some front).trans (run_bind_of_none (ih clash fits))
    · have front : (Piece.digits least most).scan.run (b ++ (u ++ ' ' :: r)) = none := by
        rw [Piece.run_digits, takeWhile_take_append piece.2.2 (stops_of_fits stops fits r), if_neg]
        have length := List.length_take_le' most b
        have short := piece.2.1
        omega
      exact run_bind_of_none front
  | case4 => contradiction

end Pattern

theorem shapes_clash : shapes.Pairwise fun p q => p.clashes q = true := by decide

theorem fits_of_isStamp {s : Text} (h : isStamp s = true) : ∃ p ∈ shapes, p.Fits s := by
  obtain ⟨p, hp, whole⟩ := List.any_eq_true.1 h
  obtain ⟨⟨a, rest⟩, run, nothing⟩ := (Option.any_eq_true _ _).1 whole
  obtain ⟨covered, fits⟩ := Pattern.fits_of_run run
  obtain rfl : rest = [] := List.isEmpty_iff.1 nothing
  exact ⟨p, hp, by rwa [covered, List.append_nil]⟩

theorem run_scan {s : Text} (h : isStamp s = true) (r : Text) :
    scan.run (s ++ ' ' :: r) = some (s, ' ' :: r) := by
  obtain ⟨p, hp, fits⟩ := fits_of_isStamp h
  obtain ⟨before, after, split⟩ := List.append_of_mem hp
  have fails : ∀ q ∈ before.map Pattern.scan, q.run (s ++ ' ' :: r) = none := by
    intro q hq
    obtain ⟨q, early, rfl⟩ := List.mem_map.1 hq
    have pairs := split ▸ shapes_clash
    exact Pattern.run_eq_none_of_clashes
      ((List.pairwise_append.1 pairs).2.2 q early p (by simp)) fits r
  have found : p.scan.run (s ++ ' ' :: r) = some (s, ' ' :: r) := by
    have ends : ∀ p ∈ shapes, ∃ front piece, p = front ++ [piece] ∧ Pattern.IsFixed front := by
      intro p hp
      have fixed : ∀ p ∈ shapes, p ≠ [] ∧ Pattern.IsFixed p.dropLast := by decide
      obtain ⟨nonempty, fixed⟩ := fixed p hp
      exact ⟨_, _, (List.dropLast_append_getLast nonempty).symm, fixed⟩
    obtain ⟨front, piece, rfl, fixed⟩ := ends p hp
    exact Pattern.run_of_stops fixed fits (stops_cons (by decide) r)
  rw [scan, split, List.map_append, run_first_append fails, List.map_cons, run_first_cons, found]
  rfl

end Stamp

namespace Line

open Text

def IsDecimal (n : Text) : Prop := n ≠ [] ∧ Only Char.isDigit n

def IsNumeral (n : Text) : Prop := n ≠ [] ∧ Only isDigit n

def IsId (t : Text) : Prop :=
  ∃ number, number ≠ [] ∧ Only isHexDigit number ∧ (t = number ∨ t = "0x".toList ++ number)

def IsContent (w : Text) : Prop := ']' ∉ w

def IsName (w : Text) : Prop := w ≠ [] ∧ ']' ∉ w ∧ ':' ∉ w

def boxes : List Text → Text → Text
  | [], rest => rest
  | b :: bs, rest => '[' :: (b ++ ']' :: ' ' :: boxes bs rest)

def stampedLine (stamp : Text) (bs : List Text) (rest : Text) : Text :=
  stamp ++ ' ' :: boxes bs rest

def sourceLine? (n : Text) : Option Nat :=
  if Nat.ofDigitChars 10 n 0 ≤ Numeral.max32 then some (Nat.ofDigitChars 10 n 0) else none

variable {α : Type} {sc : Scan α} {b w r rest : Text} {bs : List Text} {a : α}

def Reads (sc : Scan α) (b : Text) (a : α) : Prop :=
  ∀ r, sc.run (b ++ ']' :: r) = some (a, ']' :: r)

theorem run_boxed_of_reads (h : Reads sc b a) (r : Text) :
    (boxed sc).run ('[' :: (b ++ ']' :: r)) = some (a, r) := run_boxed_eq_some.2 ⟨_, rfl, h r⟩

theorem run_box_of_reads (h : Reads sc b a) (r : Text) :
    (box sc).run ('[' :: (b ++ ']' :: ' ' :: r)) = some (a, r.dropWhile isBlank) := by
  have space : (' ' :: r).dropWhile isBlank = r.dropWhile isBlank :=
    List.dropWhile_cons_of_pos (by decide)
  rw [box, run_bind_of_some (run_boxed_of_reads h (' ' :: r)), ← space]
  rfl

theorem run_box_cons (h : Reads sc b a) (b' : Text) (bs : List Text) (rest : Text) :
    (box sc).run (boxes (b :: b' :: bs) rest) = some (a, boxes (b' :: bs) rest) :=
  run_box_of_reads h (boxes (b' :: bs) rest)

theorem run_box_last (h : Reads sc b a) (rest : Text) :
    (box sc).run (boxes [b] rest) = some (a, rest.dropWhile isBlank) :=
  run_box_of_reads h rest

theorem run_stampHead {s : Text} (h : Stamp.isStamp s = true) (b : Text) (bs : List Text)
    (rest : Text) :
    stampHead.run (stampedLine s (b :: bs) rest) = some ((), boxes (b :: bs) rest) :=
  run_bind_of_some (Stamp.run_scan h _)

theorem opens_stampedLine {s : Text} (h : Stamp.isStamp s = true) (bs : List Text) (rest : Text) :
    Opens isDigit (stampedLine s bs rest) := by
  obtain ⟨w, split, opens, -⟩ := takes_stamp (Stamp.run_scan h (boxes bs rest))
  rw [stampedLine, split]
  exact opens.append _

theorem reads_many (h : IsContent b) : Reads (many inBox) b b :=
  fun r => run_many (inBox_iff.2 h) (stops_cons (by decide) r)

theorem reads_many1 {p : Char → Bool} (nonempty : b ≠ []) (only : Only p b)
    (stops : p ']' = false) : Reads (many1 p) b b :=
  fun r => run_many1 nonempty only (stops_cons stops r)

theorem reads_blanks : Reads blanks [] () := fun r => by
  show some ((), (']' :: r).dropWhile isBlank) = _
  rw [List.dropWhile_cons_of_neg (by decide)]

theorem reads_satisfy {p : Char → Bool} {c : Char} (h : p c = true) : Reads (satisfy p) [c] c :=
  fun r => run_satisfy_of_pos h (']' :: r)

theorem run_digits {n : Text} (h : IsNumeral n) (stops : Stops isDigit r) :
    digits.run (n ++ r) = some (n, r) := run_many1 h.1 h.2 stops

theorem IsDecimal.isNumeral {n : Text} (h : IsDecimal n) : IsNumeral n :=
  ⟨h.1, h.2.imp fun _ => isDigit_of_ascii⟩

theorem nonblank?_of_isNumeral {n : Text} (h : IsNumeral n) : nonblank? n = some n :=
  nonblank?_of_trimmed h.1 (trimmed_of_sharp fun c hc => not_isBlank_of_isDigit (h.2 c hc))

theorem nonblank?_ofNat (n : Nat) : nonblank? (ofNat n) = some (ofNat n) :=
  nonblank?_of_isNumeral ⟨ofNat_ne_nil n, fun _ hd => isDigit_of_ascii (isDigit_of_mem_ofNat hd)⟩

theorem IsName.only {w : Text} (h : IsName w) : Only inName w := by
  intro c hc
  have close : c ≠ ']' := ne_of_mem_of_not_mem hc h.2.1
  have colon : c ≠ ':' := ne_of_mem_of_not_mem hc h.2.2
  simp [inName, close, colon]

theorem reads_nameAndDigits {f n : Text} (name : IsName f) (number : IsDecimal n) :
    Reads nameAndDigits (f ++ ':' :: n) (f, n) := by
  intro r
  rw [List.append_assoc, List.cons_append, nameAndDigits,
    run_bind_of_some (run_many1 name.1 name.only (stops_cons (by decide) _)),
    run_bind_of_some (run_char_cons ':' _),
    run_bind_of_some (run_digits number.isNumeral (stops_cons (by decide) r))]
  rfl

theorem reads_marked {c : Char} {tails : List Text} {v : Text}
    (no_tail : ∀ w ∈ tails, ∃ d t, w = d :: t ∧ d ≠ ':') (nonempty : v ≠ []) (value : IsContent v) :
    Reads (do initial c tails; let _ ← satisfy (fun c => c = ':' || c = '='); many1 inBox)
      (c :: ':' :: v) v := by
  intro r
  have tail : (first (tails.map word)).run (':' :: (v ++ ']' :: r)) = none := by
    cases run : (first (tails.map word)).run (':' :: (v ++ ']' :: r)) with
    | none => rfl
    | some found =>
      obtain ⟨s, hs, run⟩ := run_first_eq_some run
      obtain ⟨w, hw, rfl⟩ := List.mem_map.1 hs
      obtain ⟨d, t, rfl, ne⟩ := no_tail w hw
      obtain ⟨_, split, rfl⟩ := takes_word _ run
      exact absurd (List.cons.inj split).1.symm ne
  have mark : (initial c tails).run (c :: ':' :: (v ++ ']' :: r)) =
      some ((), ':' :: (v ++ ']' :: r)) := by
    rw [initial, run_bind_of_some (run_char_cons c _), run_bind_of_some (run_perhaps_of_none tail)]
    rfl
  have colon : (satisfy fun c => c = ':' || c = '=').run (':' :: (v ++ ']' :: r)) =
      some (':', v ++ ']' :: r) := rfl
  rw [List.cons_append, List.cons_append, run_bind_of_some mark, run_bind_of_some colon]
  exact reads_many1 nonempty (inBox_iff.2 value) (by decide) r

theorem run_hexId {t : Text} {c : Char} (h : IsId t) (stops : isHexDigit c = false)
    (other : c ≠ 'x') (r : Text) : hexId.run (t ++ c :: r) = some (t, c :: r) := by
  obtain ⟨number, nonempty, only, same | rfl⟩ := h
  · subst same
    have no_mark : (word "0x".toList).run (t ++ c :: r) = none := by
      cases run : (word "0x".toList).run (t ++ c :: r) with
      | none => rfl
      | some found =>
        obtain ⟨_, split, rfl⟩ := takes_word _ run
        obtain ⟨d, u, rfl⟩ := List.exists_cons_of_ne_nil nonempty
        obtain ⟨-, split⟩ := List.cons.inj split
        rcases u with _ | ⟨e, u⟩
        · exact absurd (List.cons.inj split).1 other
        · have mark : e = 'x' := (List.cons.inj split).1
          exact absurd (only e (by simp)) (by rw [mark]; decide)
    rw [hexId, run_bind_of_some (run_perhaps_of_none no_mark),
      run_bind_of_some (run_many1 nonempty only (stops_cons stops r))]
    rfl
  · have mark : (word "0x".toList).run ("0x".toList ++ number ++ c :: r) =
        some ((), number ++ c :: r) := rfl
    rw [hexId, run_bind_of_some (run_perhaps_of_some mark),
      run_bind_of_some (run_many1 nonempty only (stops_cons stops r))]
    rfl

theorem reads_idPair {sep : Char → Bool} {p t : Text} {c : Char} (process : IsId p)
    (thread : IsId t) (separates : sep c = true) (stops : isHexDigit c = false)
    (other : c ≠ 'x') : Reads (idPair sep) (p ++ c :: t) (p, t) := by
  intro r
  rw [List.append_assoc, List.cons_append, idPair,
    run_bind_of_some (run_hexId process stops other _),
    run_bind_of_some (run_satisfy_of_pos separates _),
    run_bind_of_some (run_hexId thread (by decide) (by decide) r)]
  rfl

theorem reads_numerals {p t : Text} (process : IsNumeral p) (thread : IsNumeral t) :
    Reads (do let p ← digits; char ':'; let t ← digits; return (p, t)) (p ++ ':' :: t) (p, t) := by
  intro r
  rw [List.append_assoc, List.cons_append,
    run_bind_of_some (run_digits process (stops_cons (by decide) _)),
    run_bind_of_some (run_char_cons ':' _),
    run_bind_of_some (run_digits thread (stops_cons (by decide) r))]
  rfl

theorem trim_dropWhile (t : Text) : trim (t.dropWhile isBlank) = trim t := by
  rw [trim, trimStart, List.dropWhile_idempotent]
  rfl

theorem run_blanks (t : Text) : blanks.run t = some ((), t.dropWhile isBlank) := rfl

theorem run_blanks_append {u w : Text} (only : Only isBlank u) (stops : Stops isBlank w) :
    blanks.run (u ++ w) = some ((), w) := by
  rw [run_blanks, List.dropWhile_append_of_pos only, stops.dropWhile]

theorem run_restOfLine {t : Text} (h : '\n' ∉ t) : restOfLine.run t = some (t, []) := by
  simp [restOfLine, StateT.run, h]

theorem run_message {t : Text} (h : '\n' ∉ t) : message.run t = some (trim t, []) := by
  have absent : '\n' ∉ t.dropWhile isBlank := fun hc => h ((List.dropWhile_suffix _).subset hc)
  rw [message, run_bind_of_some (run_blanks t), run_bind_of_some (run_restOfLine absent),
    trim_dropWhile]
  rfl

theorem run_message_dropWhile {t : Text} (h : '\n' ∉ t) :
    message.run (t.dropWhile isBlank) = some (trim t, []) := by
  rw [run_message fun hc => h ((List.dropWhile_suffix _).subset hc), trim_dropWhile]

end Line
end Logbook
