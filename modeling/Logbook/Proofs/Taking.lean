import Logbook.Line.Structured
import Logbook.Proofs.Digits
import Logbook.Proofs.Pattern

/-! What scanners take off the front of a text. A scanner takes what its steps take, one after the
other, and a box holds what the scanner of its content takes. -/

namespace Logbook

namespace Text

theorem not_isDigit_of_isAlpha {c : Char} (h : c.isAlpha = true) : isDigit c = false := by
  by_contra digit
  rw [Bool.not_eq_false] at digit
  rcases isDigit_block digit with ascii | ⟨large, -⟩
  · simp [not_isAlpha_of_isDigit ascii] at h
  · simp [Char.isAlpha, Char.isUpper, Char.isLower, UInt32.le_iff_toNat_le] at h
    omega

theorem not_isBlank_of_isAlpha {c : Char} (h : c.isAlpha = true) : isBlank c = false := by
  have apart : ∀ r ∈ blankRanges, r.2 < 65 ∨ 122 < r.1 := by decide
  simp [Char.isAlpha, Char.isUpper, Char.isLower, UInt32.le_iff_toNat_le] at h
  rw [isBlank, CodeRanges.has, List.any_eq_false]
  intro r hr inside
  have := apart r hr
  simp only [Bool.and_eq_true, decide_eq_true_eq] at inside
  omega

def Opens (p : Char → Bool) (w : Text) : Prop := ∃ c r, w = c :: r ∧ p c = true

def Only (p : Char → Bool) (w : Text) : Prop := ∀ c ∈ w, p c = true

variable {p q : Char → Bool} {v w : Text} {c : Char}

theorem Only.notMem (h : Only p w) (other : p c = false) : c ∉ w :=
  fun hc => by simp [h c hc] at other

theorem Only.append (hv : Only p v) (hw : Only p w) : Only p (v ++ w) := by
  intro c hc
  exact (List.mem_append.1 hc).elim (hv c) (hw c)

theorem Only.imp (h : Only p w) (imp : ∀ c, p c = true → q c = true) : Only q w :=
  fun c hc => imp c (h c hc)

theorem Only.opens (h : Only p w) (nonempty : w ≠ []) : Opens p w := by
  obtain ⟨c, r, rfl⟩ := List.exists_cons_of_ne_nil nonempty
  exact ⟨c, r, rfl, h c (by simp)⟩

theorem Opens.append (h : Opens p v) (w : Text) : Opens p (v ++ w) := by
  obtain ⟨c, r, rfl, first⟩ := h
  exact ⟨c, r ++ w, rfl, first⟩

theorem Opens.clash (hp : Opens p w) (hq : Opens q w) (apart : ∀ c, p c = true → q c = false) :
    False := by
  obtain ⟨c, r, rfl, first⟩ := hp
  obtain ⟨c', r', same, first'⟩ := hq
  cases same
  simp [apart c first] at first'

theorem Opens.clash_only (hp : Opens p w) (hq : Only q w)
    (apart : ∀ c, p c = true → q c = false) : False := by
  obtain ⟨c, r, rfl, first⟩ := hp
  have other := hq c (by simp)
  simp [apart c first] at other

end Text

namespace Stamp.Pattern

def marks : Pattern → List Char
  | [] => []
  | .mark c :: ps => c :: marks ps
  | .digits _ _ :: ps => marks ps

theorem mem_marks {p : Pattern} {c : Char} (h : .mark c ∈ p) : c ∈ p.marks := by
  induction p with
  | nil => contradiction
  | cons q ps ih =>
    cases q with
    | mark d => simpa [marks] using (List.mem_cons.1 h).imp (by simp) ih
    | digits least most => exact ih ((List.mem_cons.1 h).resolve_left (by simp))

theorem Fits.only {p : Pattern} {a : Text} (h : p.Fits a) {q : Char → Bool}
    (digits : ∀ c, Text.isDigit c = true → q c = true) (marks : ∀ c ∈ p.marks, q c = true) :
    Text.Only q a :=
  fun c hc => (h.char hc).elim (digits c) fun mark => marks c (mem_marks mark)

end Stamp.Pattern

namespace Scan

open Text

/-- What the scanner reads is a front of the text with `P`. -/
def Takes {α : Type} (s : Scan α) (P : Text → Prop) : Prop :=
  ∀ ⦃t a r⦄, s.run t = some (a, r) → ∃ w, t = w ++ r ∧ P w

section Takes

variable {α β : Type} {s : Scan α} {P Q : Text → Prop} {p : Char → Bool}

theorem Takes.imp (h : Takes s P) (imp : ∀ w, P w → Q w) : Takes s Q := by
  intro t a r run
  obtain ⟨w, rfl, hw⟩ := h run
  exact ⟨w, rfl, imp w hw⟩

theorem Takes.bind {f : α → Scan β} (hs : Takes s P) (hf : ∀ a, Takes (f a) Q) :
    Takes (s >>= f) fun w => ∃ u v, w = u ++ v ∧ P u ∧ Q v := by
  intro t b r run
  obtain ⟨a, t', first, rest⟩ := run_bind_eq_some.1 run
  obtain ⟨u, rfl, hu⟩ := hs first
  obtain ⟨v, rfl, hv⟩ := hf a rest
  exact ⟨u ++ v, by rw [List.append_assoc], u, v, rfl, hu, hv⟩

theorem takes_pure (a : α) : Takes (pure a : Scan α) (· = []) := by
  intro t b r run
  cases run
  exact ⟨[], rfl, rfl⟩

theorem Takes.perhaps (h : Takes s P) : Takes (perhaps s) fun w => w = [] ∨ P w := by
  intro t found r run
  rcases run_perhaps_eq_some run with ⟨-, rfl⟩ | ⟨a, -, run⟩
  · exact ⟨[], rfl, .inl rfl⟩
  · obtain ⟨w, rfl, hw⟩ := h run
    exact ⟨w, rfl, .inr hw⟩

theorem Takes.only_perhaps (h : Takes s (Only p)) : Takes (Scan.perhaps s) (Only p) :=
  h.perhaps.imp fun _ hw => hw.elim (fun nothing => by simp [nothing, Only]) id

theorem takes_first {ss : List (Scan α)} (h : ∀ s ∈ ss, Takes s P) : Takes (first ss) P := by
  intro t a r run
  obtain ⟨s, hs, run⟩ := run_first_eq_some run
  exact h s hs run

theorem takes_satisfy (p : Char → Bool) : Takes (satisfy p) fun w => w ≠ [] ∧ Only p w := by
  intro t c r run
  rcases t with _ | ⟨d, t⟩
  · contradiction
  · rw [run_satisfy_cons] at run
    split at run
    · next hd =>
      cases run
      exact ⟨[c], rfl, by simp, by simpa [Only] using hd⟩
    · contradiction

theorem takes_char (c : Char) : Takes (char c) (· = [c]) := by
  intro t u r run
  exact ⟨[c], run_char_eq_some.1 run, rfl⟩

theorem takes_many (p : Char → Bool) : Takes (many p) (Only p) := by
  intro t w r run
  cases run
  exact ⟨t.takeWhile p, (List.takeWhile_append_dropWhile ..).symm, fun c => List.mem_takeWhile_imp⟩

theorem takes_many1 (p : Char → Bool) : Takes (many1 p) fun w => w ≠ [] ∧ Only p w := by
  intro t w r run
  obtain ⟨rfl, nonempty, all, -⟩ := run_many1_eq_some.1 run
  exact ⟨w, rfl, nonempty, all⟩

theorem takes_blanks : Takes blanks (Only isBlank) := by
  intro t u r run
  cases run
  exact takes_many isBlank rfl

theorem takes_blanks1 : Takes blanks1 fun w => w ≠ [] ∧ Only isBlank w := by
  refine ((takes_many1 isBlank).bind fun _ => takes_pure ()).imp ?_
  rintro _ ⟨u, _, rfl, blank, rfl⟩
  rwa [List.append_nil]

theorem takes_word (w : Text) : Takes (word w) (· = w) := by
  intro t u r run
  obtain ⟨rest, front, same⟩ := Option.map_eq_some_iff.1 run
  cases same
  exact ⟨w, (List.isPrefixOf?_eq_some_iff_append_eq.1 front).symm, rfl⟩

theorem takes_pattern (p : Stamp.Pattern) : Takes p.scan p.Fits :=
  fun _ a _ run => ⟨a, Stamp.Pattern.fits_of_run run⟩

end Takes

theorem inBox_iff {w : Text} : Only inBox w ↔ ']' ∉ w := by
  simp [Only, inBox, List.forall_mem_ne']

section Boxed

variable {α : Type} {s : Scan α} {t r : Text} {a : α}

theorem run_boxed_eq_some :
    (boxed s).run t = some (a, r) ↔ ∃ t', t = '[' :: t' ∧ s.run t' = some (a, ']' :: r) := by
  constructor
  · intro h
    obtain ⟨_, t', opening, h⟩ := run_bind_eq_some.1 h
    obtain ⟨_, _, content, h⟩ := run_bind_eq_some.1 h
    obtain ⟨_, _, closing, h⟩ := run_bind_eq_some.1 h
    cases h
    obtain rfl := run_char_eq_some.1 opening
    obtain rfl := run_char_eq_some.1 closing
    exact ⟨t', rfl, content⟩
  · rintro ⟨t', rfl, content⟩
    simp [boxed, run_char_cons, content]

theorem run_box {P : Text → Prop} (takes : Takes s P) (inside : ∀ w, P w → ']' ∉ w)
    (h : (box s).run t = some (a, r)) : ∃ w, P w ∧ (box (many inBox)).run t = some (w, r) := by
  obtain ⟨_, t₁, bracketed, h⟩ := run_bind_eq_some.1 h
  obtain ⟨_, _, blank, h⟩ := run_bind_eq_some.1 h
  cases h
  obtain ⟨_, rfl, content⟩ := run_boxed_eq_some.1 bracketed
  obtain ⟨w, rfl, hw⟩ := takes content
  have stops : Stops inBox (']' :: t₁) := stops_cons (by decide) t₁
  have whole := run_boxed_eq_some.2 ⟨_, rfl, run_many (inBox_iff.2 (inside w hw)) stops⟩
  exact ⟨w, hw, (run_bind_of_some whole).trans (run_bind_of_some blank)⟩

end Boxed

end Scan

namespace Line

open Scan

theorem leadingBoxes_blanks (n : Nat) (t : Text) :
    (leadingBoxes n (t.dropWhile Text.isBlank)).1 = (leadingBoxes n t).1 := by
  have same : (do blanks; boxed (many inBox) : Scan Text).run (t.dropWhile Text.isBlank) =
      (do blanks; boxed (many inBox) : Scan Text).run t := by
    show (boxed (many inBox)).run ((t.dropWhile Text.isBlank).dropWhile Text.isBlank) = _
    rw [List.dropWhile_idempotent]
    rfl
  cases n with
  | zero => rfl
  | succ n =>
    rw [leadingBoxes, leadingBoxes, same]
    split <;> rfl

theorem opening_of_box {α : Type} {s : Scan α} {t r : Text} {a : α}
    (h : (box s).run t = some (a, r)) : ∃ t', t = '[' :: t' := by
  obtain ⟨_, _, bracketed, -⟩ := run_bind_eq_some.1 h
  obtain ⟨t', rfl, -⟩ := run_boxed_eq_some.1 bracketed
  exact ⟨t', rfl⟩

theorem leadingBoxes_of_box {n : Nat} {t w r : Text}
    (h : (box (many inBox)).run t = some (w, r)) :
    (leadingBoxes (n + 1) t).1 = w :: (leadingBoxes n r).1 := by
  obtain ⟨t₀, rfl⟩ := opening_of_box h
  obtain ⟨w', t', content, h⟩ := run_bind_eq_some.1 h
  obtain ⟨u, r', blank, h⟩ := run_bind_eq_some.1 h
  cases h
  cases blank
  have run : (do blanks; boxed (many inBox) : Scan Text).run ('[' :: t₀) = some (w, t') :=
    content
  rw [leadingBoxes, run, leadingBoxes_blanks]

end Line
end Logbook
