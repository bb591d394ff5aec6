import Logbook.Proofs.Annotations
import Logbook.Proofs.BrowserLine
import Logbook.Proofs.Finding

/-! Where the fields of a line come from. Each is a trimmed piece of the line, and the message is a
piece with its blanks where the layout keeps them; only bare ids are written anew from their
numbers. -/

namespace Logbook

namespace Text

structure CutFrom (line w : Text) : Prop where
  nonempty : w ≠ []
  trimmed : Trimmed w
  part : w <:+: line

variable {line line' t w : Text}

theorem CutFrom.mono (h : CutFrom line w) (part : line <:+: line') : CutFrom line' w :=
  ⟨h.nonempty, h.trimmed, h.part.trans part⟩

theorem cutFrom_trim (given : trim t ≠ []) (part : t <:+: line) : CutFrom line (trim t) :=
  ⟨given, trimmed_trim t, (trim_part t).trans part⟩

theorem cutFrom_nonblank? (h : w ∈ nonblank? t) (part : t <:+: line) : CutFrom line w := by
  rw [nonblank?] at h
  split at h
  · contradiction
  · next given =>
    cases h
    exact cutFrom_trim given part

end Text

namespace Line

open Scan Text

section Times

variable {time t r : Text}

theorem cutFrom_of_digits (opens : Opens isDigit t)
    (closes : ∃ c, t.getLast? = some c ∧ isDigit c = true) : CutFrom t t := by
  obtain ⟨c, r, rfl, digit⟩ := opens
  obtain ⟨d, last, digit'⟩ := closes
  refine ⟨by simp, ⟨?_, ?_⟩, List.infix_rfl⟩
  · rintro _ ⟨⟩
    exact not_isBlank_of_isDigit digit
  · intro e he
    rw [last] at he
    cases he
    exact not_isBlank_of_isDigit digit'

theorem cutFrom_of_isStamp (h : Stamp.isStamp t = true) : CutFrom t t := by
  have ends : ∀ p ∈ Stamp.shapes, ∃ least most,
      p.getLast? = some (.digits least most) ∧ 0 < least := by
    simp [Stamp.shapes, Stamp.Pattern.date, Stamp.Pattern.slashDate, Stamp.Pattern.clock,
      Stamp.Pattern.fraction]
  obtain ⟨p, hp, fits⟩ := Stamp.fits_of_isStamp h
  obtain ⟨least, most, last, positive⟩ := ends p hp
  obtain ⟨front, rfl⟩ := List.getLast?_eq_some_iff.1 last
  exact cutFrom_of_digits (chars_of_isStamp h).1 (Stamp.Pattern.Fits.getLast fits positive)

theorem cutFrom_of_isBrowserTime (h : IsBrowserTime t) : CutFrom t t := by
  obtain ⟨clock, fits, same⟩ := h
  have opens : Opens isDigit clock := fits.head (by decide)
  rcases same with rfl | ⟨ds, ⟨nonempty, only⟩, rfl⟩
  · exact cutFrom_of_digits opens
      (Stamp.Pattern.Fits.getLast (p := [.digits 4 4, .mark '/']) fits (by decide))
  · refine cutFrom_of_digits (opens.append _) ⟨ds.getLast nonempty, ?_, only _ (List.getLast_mem _)⟩
    simp [List.getLast?_cons, List.getLast?_eq_some_getLast nonempty]

theorem isBrowserTime_of_run (h : browserTime.run t = some (time, r)) :
    t = time ++ r ∧ IsBrowserTime time := by
  obtain ⟨clock, t₁, first, h⟩ := run_bind_eq_some.1 h
  obtain ⟨fraction, t₂, second, h⟩ := run_bind_eq_some.1 h
  cases h
  obtain ⟨rfl, fits⟩ := Stamp.Pattern.fits_of_run first
  rcases run_perhaps_eq_some second with ⟨rfl, rfl⟩ | ⟨_, rfl, read⟩
  · exact ⟨by simp, clock, fits, .inl (by simp)⟩
  · obtain ⟨_, t₃, point, read⟩ := run_bind_eq_some.1 read
    obtain ⟨ds, t₄, number, read⟩ := run_bind_eq_some.1 read
    cases read
    obtain rfl := run_char_eq_some.1 point
    obtain ⟨rfl, nonempty, only, -⟩ := run_many1_eq_some.1 number
    exact ⟨by simp, clock, fits, .inr ⟨ds, ⟨nonempty, only⟩, by simp⟩⟩

end Times

section Yields

/-- Run on any rest of the line, the scanner leaves one of its rests and gives a result with `P`. -/
def Yields {α : Type} (line : Text) (s : Scan α) (P : α → Prop) : Prop :=
  ∀ ⦃t a r⦄, t <:+ line → s.run t = some (a, r) → r <:+ line ∧ P a

variable {α β : Type} {line : Text} {s : Scan α} {f : α → Scan β} {P : α → Prop} {Q : β → Prop}

theorem Yields.bind (hs : Yields line s P) (hf : ∀ a, P a → Yields line (f a) Q) :
    Yields line (s >>= f) Q := by
  intro t b r suffix run
  obtain ⟨a, t', first, rest⟩ := run_bind_eq_some.1 run
  obtain ⟨suffix', found⟩ := hs suffix first
  exact hf a found suffix' rest

theorem yields_pure {a : α} (h : P a) : Yields line (pure a) P := by
  intro t b r suffix run
  cases run
  exact ⟨suffix, h⟩

theorem yields_of_takes {R : Text → Prop} (takes : Takes s R) : Yields line s fun _ => True :=
  fun _ _ _ suffix run => ⟨(suffix_of_run takes run).trans suffix, trivial⟩

theorem yields_lift (o : Option α) : Yields line (liftM o : Scan α) (· ∈ o) := by
  intro t a r suffix run
  cases o with
  | none => contradiction
  | some b =>
    cases run
    exact ⟨suffix, rfl⟩

theorem yields_guard (p : Prop) [Decidable p] :
    Yields line (guard p : Scan Unit) fun _ => True := by
  unfold guard
  split
  · exact yields_pure trivial
  · intro t a r suffix run
    contradiction

theorem yields_many1 (p : Char → Bool) : Yields line (many1 p) (· <:+: line) := by
  intro t w r suffix run
  obtain ⟨rfl, -⟩ := run_many1_eq_some.1 run
  exact ⟨(List.suffix_append w r).trans suffix,
    (List.prefix_append w r).isInfix.trans suffix.isInfix⟩

theorem yields_many (p : Char → Bool) : Yields line (many p) (· <:+: line) := by
  intro t w r suffix run
  cases run
  exact ⟨(List.dropWhile_suffix p).trans suffix,
    (List.takeWhile_prefix p).isInfix.trans suffix.isInfix⟩

theorem yields_first {ss : List (Scan α)} (h : ∀ s ∈ ss, Yields line s P) :
    Yields line (first ss) P := by
  intro t a r suffix run
  obtain ⟨s, hs, run⟩ := run_first_eq_some run
  exact h s hs suffix run

theorem yields_char (c : Char) : Yields line (char c) fun _ => True :=
  yields_of_takes (takes_char c)

theorem yields_blanks : Yields line blanks fun _ => True := yields_of_takes takes_blanks

theorem Yields.boxed (h : Yields line s P) : Yields line (boxed s) P :=
  (yields_char '[').bind fun _ _ => h.bind fun _ found =>
    (yields_char ']').bind fun _ _ => yields_pure found

theorem Yields.box (h : Yields line s P) : Yields line (box s) P :=
  h.boxed.bind fun _ found => yields_blanks.bind fun _ _ => yields_pure found

theorem yields_nameAndDigits : Yields line nameAndDigits (·.1 <:+: line) :=
  (yields_many1 inName).bind fun _ part => (yields_char ':').bind fun _ _ =>
    (yields_many1 isDigit).bind fun _ _ => yields_pure part

theorem yields_nameWithDigits : Yields line nameWithDigits (·.1 <:+: line) := by
  intro t a r suffix run
  refine ⟨(suffix_of_run takes_nameWithDigits run).trans suffix, ?_⟩
  obtain ⟨c, t', first, run⟩ := run_bind_eq_some.1 run
  obtain ⟨tail, _, more, run⟩ := run_bind_eq_some.1 run
  obtain ⟨number, _, -, run⟩ := run_bind_eq_some.1 run
  cases run
  cases more
  rcases t with _ | ⟨d, t⟩
  · contradiction
  · rw [run_satisfy_cons] at first
    split at first
    · cases first
      have front : c :: t'.takeWhile inName <+: c :: t' :=
        List.cons_prefix_cons.2 ⟨rfl, List.takeWhile_prefix _⟩
      exact front.isInfix.trans suffix.isInfix
    · contradiction

theorem yields_hexId : Yields line hexId (· <:+: line) := by
  intro t a r suffix run
  refine ⟨(suffix_of_run takes_hexId run).trans suffix, ?_⟩
  obtain ⟨mark, t', first, run⟩ := run_bind_eq_some.1 run
  obtain ⟨number, _, second, run⟩ := run_bind_eq_some.1 run
  cases run
  obtain ⟨rfl, -⟩ := run_many1_eq_some.1 second
  have front : (if mark.isSome then '0' :: 'x' :: number else number) ++ r = t := by
    rcases run_perhaps_eq_some first with ⟨rfl, rfl⟩ | ⟨_, rfl, marked⟩
    · rfl
    · obtain ⟨_, rfl, rfl⟩ := takes_word _ marked
      rfl
  rw [← front] at suffix
  exact (List.prefix_append _ r).isInfix.trans suffix.isInfix

theorem yields_idPair (sep : Char → Bool) :
    Yields line (idPair sep) fun p => p.1 <:+: line ∧ p.2 <:+: line :=
  yields_hexId.bind fun _ part => (yields_of_takes (takes_satisfy sep)).bind fun _ _ =>
    yields_hexId.bind fun _ part' => yields_pure ⟨part, part'⟩

theorem yields_idBoxes : Yields line idBoxes fun p => p.1 <:+: line ∧ p.2 <:+: line := by
  apply yields_first
  intro s hs
  rw [List.mem_pair] at hs
  rcases hs with rfl | rfl
  · exact (yields_idPair _).box
  · exact yields_hexId.box.bind fun _ part => yields_hexId.box.bind fun _ part' =>
      yields_pure ⟨part, part'⟩

theorem yields_initial (c : Char) (tails : List Text) :
    Yields line (initial c tails) fun _ => True := by
  have tail : Takes (first (tails.map word)) fun _ => True := by
    apply takes_first
    intro s hs
    obtain ⟨w, -, rfl⟩ := List.mem_map.1 hs
    exact (takes_word w).imp fun _ _ => trivial
  exact (yields_char c).bind fun _ _ => (yields_of_takes tail.perhaps).bind fun _ _ =>
    yields_pure trivial

theorem yields_markedBox {mark : Scan Unit} (h : Yields line mark fun _ => True) :
    Yields line (markedBox mark) (· <:+: line) :=
  (h.bind fun _ _ => (yields_of_takes (takes_satisfy _)).bind fun _ _ => yields_many1 inBox).box

theorem yields_restOfLine : Yields line restOfLine (· <:+ line) := by
  intro t w r suffix run
  have run : (if t.elem '\n' then none else some (t, [])) = some (w, r) := run
  split at run
  · contradiction
  · cases run
    exact ⟨List.nil_suffix, suffix⟩

theorem yields_message : Yields line message fun m => m <:+: line ∧ Trimmed m :=
  yields_blanks.bind fun _ _ => yields_restOfLine.bind fun _ rest =>
    yields_pure ⟨(trim_part _).trans rest.isInfix, trimmed_trim _⟩

end Yields

namespace Annotation

variable {content t rest name back : Text} {keys : List Text} {a : Annotation}

theorem Under.suffix (h : Under keys t rest) : rest <:+ t := by
  obtain ⟨v, mark, rfl, -⟩ := h
  exact ⟨v ++ [mark], by simp⟩

theorem Names.suffix (h : Names t name back) : back <:+ t := by
  obtain ⟨gap, gap', rfl, -⟩ := h
  exact ⟨gap ++ (name ++ (gap' ++ ['/'])), by simp⟩

theorem Names.cutFrom (h : Names t name back) : CutFrom t name := by
  obtain ⟨gap, gap', rfl, -, -, nonempty, only⟩ := h
  refine ⟨nonempty, trimmed_of_sharp fun c hc => ?_, gap, gap' ++ '/' :: back, by simp⟩
  have first := only c hc
  simp only [inAccount, Bool.and_eq_true, Bool.not_eq_true'] at first
  exact first.2

theorem cutFrom_of_marks (h : Marks t a) : ∀ x ∈ a.extras, CutFrom t x.2 := by
  cases h with
  | account whole names user given =>
    have inside := names.cutFrom.mono whole.suffix.isInfix
    have rest := user.suffix.trans ((List.dropWhile_suffix _).trans names.suffix)
    have outside := cutFrom_trim given (rest.trans whole.suffix).isInfix
    simp [extras, inside, outside]
  | project whole given =>
    simpa [extras] using cutFrom_trim given whole.suffix.isInfix
  | userId whole given =>
    simpa [extras] using cutFrom_trim given whole.suffix.isInfix

theorem cutFrom_of_means (h : Means content a) : ∀ x ∈ a.extras, CutFrom content x.2 := by
  cases h with
  | placeholder => simp [extras]
  | marker present marks => exact fun x hx => (cutFrom_of_marks marks x hx).mono (trim_part content)
  | literal => simp [extras]

theorem eq_of_literal? (h : Means content a) : ∀ w ∈ a.literal?, w = trim content := by
  cases h with
  | placeholder => simp [literal?]
  | marker present marks => cases marks <;> simp [literal?]
  | literal => simp [literal?, eq_comm]

end Annotation

theorem leadingBoxes_parts (n : Nat) (t : Text) :
    (∀ w ∈ (leadingBoxes n t).1, w <:+: t) ∧ (leadingBoxes n t).2 <:+ t := by
  induction n generalizing t with
  | zero => simp [leadingBoxes]
  | succ n ih =>
    have box : Yields t (do blanks; boxed (many inBox)) (· <:+: t) :=
      yields_blanks.bind fun _ _ => (yields_many inBox).boxed
    rw [leadingBoxes]
    split
    · next content r run =>
      obtain ⟨suffix, part⟩ := box List.suffix_rfl run
      obtain ⟨more, rest⟩ := ih r
      exact ⟨List.forall_mem_cons.2 ⟨part, fun w hw => (more w hw).trans suffix.isInfix⟩,
        rest.trans suffix⟩
    · simp

section Grounded

def BoxedNumbers (line : Text) (a b : Nat) : Prop :=
  ∃ u x gap y w, line = u ++ '[' :: (x ++ ']' :: (gap ++ '[' :: (y ++ ']' :: w))) ∧
    Only isBlank gap ∧ IsDecimal x ∧ IsDecimal y ∧
    Nat.ofDigitChars 10 x 0 = a ∧ Nat.ofDigitChars 10 y 0 = b

/-- No field is made up. The ids of the positional layout are numbers of the line, written anew;
only the plain layout keeps all blanks around the message, and logcat those in front. -/
structure Grounded (line : Text) (f : Fields) : Prop where
  moduleName : ∀ w ∈ f.moduleName, CutFrom line w
  thread : f.layout ≠ .positional → ∀ w ∈ f.thread, CutFrom line w
  process : f.layout ≠ .positional → ∀ w ∈ f.process, CutFrom line w
  numbers : f.layout = .positional → ∃ a b, BoxedNumbers line a b ∧
    (f.thread = some (ofNat a) ∧ f.process = some (ofNat b) ∨
      f.thread = some (ofNat b) ∧ f.process = some (ofNat a))
  sourceFile : ∀ w ∈ f.sourceFile, CutFrom line w
  extras : ∀ x ∈ f.extras, CutFrom line x.2
  message : f.message <:+: line
  closes : f.layout ≠ .plain → ∀ c, f.message.getLast? = some c → isBlank c = false
  opens : f.layout ≠ .plain → f.layout ≠ .logcat →
    ∀ c, f.message.head? = some c → isBlank c = false

def Parts.Within (line : Text) (p : Parts) : Prop :=
  ∀ piece ∈ [p.moduleName, p.thread, p.process, p.sourceFile], ∀ w ∈ piece, w <:+: line

variable {line line' m : Text} {f : Fields} {layout : Layout} {level : Option Level} {p : Parts}
  {xs : Extras}

theorem BoxedNumbers.mono {a b : Nat} (h : BoxedNumbers line a b) (part : line <:+: line') :
    BoxedNumbers line' a b := by
  obtain ⟨u, x, gap, y, w, rfl, numbers⟩ := h
  obtain ⟨before, after, rfl⟩ := part
  exact ⟨before ++ u, x, gap, y, w ++ after, by simp, numbers⟩

theorem Grounded.mono (h : Grounded line f) (part : line <:+: line') : Grounded line' f where
  moduleName := fun w hw => (h.moduleName w hw).mono part
  thread := fun other w hw => (h.thread other w hw).mono part
  process := fun other w hw => (h.process other w hw).mono part
  numbers := fun positional => by
    obtain ⟨a, b, boxed, ids⟩ := h.numbers positional
    exact ⟨a, b, boxed.mono part, ids⟩
  sourceFile := fun w hw => (h.sourceFile w hw).mono part
  extras := fun x hx => (h.extras x hx).mono part
  message := h.message.trans part
  closes := h.closes
  opens := h.opens

theorem cutFrom_piece {piece : Option Text} (within : ∀ w ∈ piece, w <:+: line) :
    ∀ w ∈ piece.bind nonblank?, CutFrom line w := by
  intro w hw
  obtain ⟨t, ht, hw⟩ := Option.bind_eq_some_iff.1 hw
  exact cutFrom_nonblank? hw (within t ht)

theorem grounded_ofParts (other : layout ≠ .positional) (within : p.Within line)
    (extras : ∀ x ∈ xs, CutFrom line x.2) (part : m <:+: line)
    (closes : ∀ c, m.getLast? = some c → isBlank c = false)
    (opens : layout ≠ .logcat → ∀ c, m.head? = some c → isBlank c = false) :
    Grounded line (.ofParts layout level m p xs) where
  moduleName := cutFrom_piece (within _ (by simp))
  thread := fun _ => cutFrom_piece (within _ (by simp))
  process := fun _ => cutFrom_piece (within _ (by simp))
  numbers := fun positional => absurd positional other
  sourceFile := cutFrom_piece (within _ (by simp))
  extras := extras
  message := part
  closes := fun _ => closes
  opens := fun _ => opens

theorem grounded_tagged : Yields line tagged (Grounded line) := by
  refine (yields_of_takes takes_stampHead).bind fun _ _ => ?_
  refine yields_nameAndDigits.box.bind fun ⟨_, _⟩ name => ?_
  refine (yields_of_takes (takes_satisfy _)).box.bind fun _ _ => ?_
  refine (yields_markedBox (yields_initial ..)).bind fun _ thread => ?_
  refine (yields_markedBox (yields_initial ..)).bind fun _ process => ?_
  refine yields_message.bind fun _ ⟨message, trimmed⟩ => ?_
  refine (yields_lift _).bind fun _ _ => yields_pure ?_
  have parts := And.intro name (And.intro thread process)
  exact grounded_ofParts (by simp) (by simpa [Parts.Within] using parts) (by simp) message
    trimmed.2 fun _ => trimmed.1

theorem grounded_minimal : Yields line minimal (Grounded line) := by
  refine (yields_of_takes takes_stampHead).bind fun _ _ => ?_
  refine yields_blanks.box.bind fun _ _ => ?_
  refine yields_blanks.box.bind fun _ _ => ?_
  refine (yields_idPair _).box.bind fun ⟨_, _⟩ ids => ?_
  refine yields_message.bind fun _ ⟨message, trimmed⟩ => yields_pure ?_
  exact grounded_ofParts (by simp) (by simpa [Parts.Within, and_comm] using ids) (by simp) message
    trimmed.2 fun _ => trimmed.1

theorem grounded_linux : Yields line linux (Grounded line) := by
  refine (yields_of_takes takes_stampHead).bind fun _ _ => ?_
  refine (yields_of_takes (takes_satisfy _)).box.bind fun _ _ => ?_
  refine (yields_many _).box.bind fun _ name => ?_
  refine yields_nameAndDigits.box.bind fun ⟨_, _⟩ function => ?_
  refine (yields_many _).box.bind fun _ _ => ?_
  refine (yields_many _).box.bind fun _ _ => ?_
  refine (yields_many _).box.bind fun _ thread => ?_
  refine yields_message.bind fun _ ⟨message, trimmed⟩ => ?_
  refine (yields_lift _).bind fun _ _ => yields_pure ?_
  have parts := And.intro name (And.intro thread function)
  exact grounded_ofParts (by simp) (by simpa [Parts.Within] using parts) (by simp) message
    trimmed.2 fun _ => trimmed.1

theorem grounded_android : Yields line android (Grounded line) := by
  have ids : Yields line (do let p ← digits; char ':'; let t ← digits; return (p, t))
      fun p => p.1 <:+: line ∧ p.2 <:+: line :=
    (yields_many1 isDigit).bind fun _ part => (yields_char ':').bind fun _ _ =>
      (yields_many1 isDigit).bind fun _ part' => yields_pure ⟨part, part'⟩
  refine (yields_of_takes takes_stampHead).bind fun _ _ => ?_
  refine ids.box.bind fun ⟨_, _⟩ ⟨process, thread⟩ => ?_
  refine (yields_many _).box.bind fun _ name => ?_
  refine (yields_char '-').bind fun _ _ => yields_blanks.bind fun _ _ => ?_
  refine (yields_many1 _).box.bind fun _ _ => ?_
  refine (yields_char '-').bind fun _ _ => ?_
  refine yields_message.bind fun _ ⟨message, trimmed⟩ => ?_
  refine (yields_lift _).bind fun _ _ => yields_pure ?_
  have parts := And.intro name (And.intro thread process)
  exact grounded_ofParts (by simp) (by simpa [Parts.Within] using parts) (by simp) message
    trimmed.2 fun _ => trimmed.1

theorem part_of_means {as : List Annotation} {tail : Text}
    (said : ∀ a ∈ as, ∃ content, content <:+: line ∧ Annotation.Means content a)
    (part : tail <:+: line) :
    (as.findSome? Annotation.literal?).getD (trim tail) <:+: line ∧
      Trimmed ((as.findSome? Annotation.literal?).getD (trim tail)) := by
  cases found : as.findSome? Annotation.literal? with
  | none => exact ⟨(trim_part tail).trans part, trimmed_trim tail⟩
  | some w =>
    obtain ⟨a, ha, literal⟩ := List.exists_of_findSome?_eq_some found
    obtain ⟨content, inside, means⟩ := said a ha
    obtain rfl := Annotation.eq_of_literal? means w literal
    exact ⟨(trim_part content).trans inside, trimmed_trim content⟩

theorem grounded_structured : Yields line structured (Grounded line) := by
  refine (yields_of_takes takes_stampHead).bind fun _ _ => ?_
  refine (yields_many1 _).box.bind fun _ _ => ?_
  refine (yields_many _).box.bind fun _ name => ?_
  refine yields_idBoxes.bind fun ⟨_, _⟩ ⟨process, thread⟩ => ?_
  refine yields_nameAndDigits.boxed.bind fun ⟨_, _⟩ function => ?_
  refine yields_restOfLine.bind fun rest suffix => ?_
  refine (yields_lift _).bind fun _ _ => ?_
  refine (yields_guard _).bind fun _ _ => yields_pure ?_
  obtain ⟨inside, tail⟩ := leadingBoxes_parts 4 rest
  have said : ∀ a ∈ (leadingBoxes 4 rest).1.map Annotation.of, ∃ content, content <:+: line ∧
      Annotation.Means content a := by
    intro a ha
    obtain ⟨content, hc, same⟩ := List.mem_map.1 ha
    exact ⟨content, (inside content hc).trans suffix.isInfix, Annotation.means_iff.2 same⟩
  have extras : ∀ x ∈ ((leadingBoxes 4 rest).1.map Annotation.of).flatMap Annotation.extras,
      CutFrom line x.2 := by
    intro x hx
    obtain ⟨a, ha, hx⟩ := List.mem_flatMap.1 hx
    obtain ⟨content, part, means⟩ := said a ha
    have cut := Annotation.cutFrom_of_means means x hx
    exact cut.mono part
  obtain ⟨message, trimmed⟩ := part_of_means said (tail.trans suffix).isInfix
  have parts := And.intro name (And.intro thread (And.intro process function))
  exact grounded_ofParts (by simp) (by simpa [Parts.Within] using parts) extras message
    trimmed.2 fun _ => trimmed.1

theorem grounded_logcat : Yields line logcat (Grounded line) := by
  refine (yields_of_takes (takes_pattern _).perhaps).bind fun _ _ => ?_
  refine (yields_of_takes (takes_pattern _)).bind fun _ _ => ?_
  refine (yields_of_takes takes_blanks1).bind fun _ _ => ?_
  refine (yields_of_takes (takes_pattern _)).bind fun _ _ => ?_
  refine (yields_of_takes takes_blanks1).bind fun _ _ => ?_
  refine (yields_many1 _).bind fun _ process => ?_
  refine (yields_of_takes takes_blanks1).bind fun _ _ => ?_
  refine (yields_many1 _).bind fun _ thread => ?_
  refine (yields_of_takes takes_blanks1).bind fun _ _ => ?_
  refine (yields_of_takes (takes_satisfy _)).bind fun _ _ => ?_
  refine (yields_of_takes takes_blanks1).bind fun _ _ => ?_
  refine (yields_many _).bind fun _ name => (yields_char ':').bind fun _ _ => ?_
  refine (yields_of_takes ((takes_satisfy _).perhaps.bind fun _ => takes_pure _)).bind fun _ _ => ?_
  refine yields_restOfLine.bind fun rest suffix => yields_pure ?_
  have message : trimEnd rest <:+: line := (trimEnd_front rest).isInfix.trans suffix.isInfix
  have parts := And.intro name (And.intro thread process)
  exact grounded_ofParts (by simp) (by simpa [Parts.Within] using parts) (by simp) message
    (fun _ => not_isBlank_of_getLast?_trimEnd) (by simp)

theorem eq_of_run_box {t x r : Text} (h : (box digits).run t = some (x, r)) :
    IsNumeral x ∧ ∃ gap, Only isBlank gap ∧ t = '[' :: (x ++ ']' :: (gap ++ r)) := by
  obtain ⟨_, t₁, boxed, h⟩ := run_bind_eq_some.1 h
  obtain ⟨_, _, blank, h⟩ := run_bind_eq_some.1 h
  cases h
  obtain ⟨_, rfl, content⟩ := run_boxed_eq_some.1 boxed
  obtain ⟨rfl, nonempty, only, -⟩ := run_many1_eq_some.1 content
  obtain ⟨gap, rfl, blanks⟩ := takes_blanks blank
  exact ⟨⟨nonempty, only⟩, gap, blanks, rfl⟩

theorem threadAndProcess_cases (a b : Nat) :
    threadAndProcess a b = (a, b) ∨ threadAndProcess a b = (b, a) := by
  unfold threadAndProcess
  rcases Nat.le_total a b with le | le <;> split <;> simp [le]

theorem grounded_positional : Yields line positional (Grounded line) := by
  refine (yields_of_takes takes_stampHead).bind fun _ _ => ?_
  refine yields_nameWithDigits.box.bind fun ⟨component, _⟩ name => ?_
  -- Both boxes are taken off by hand: that they are neighbours cannot be said of their contents.
  intro t f r suffix run
  obtain ⟨x, t₁, first, run⟩ := run_bind_eq_some.1 run
  obtain ⟨y, t₂, second, run⟩ := run_bind_eq_some.1 run
  have suffix₁ := ((yields_many1 isDigit).box suffix first).1
  have suffix₂ := ((yields_many1 isDigit).box suffix₁ second).1
  obtain ⟨number, gap, blanks, front⟩ := eq_of_run_box first
  obtain ⟨number', gap', -, front'⟩ := eq_of_run_box second
  refine (?_ : Yields line _ (Grounded line)) suffix₂ run
  refine yields_message.bind fun _ ⟨message, trimmed⟩ => ?_
  refine (yields_lift _).bind fun a read => (yields_lift _).bind fun b read' => ?_
  rcases same : threadAndProcess a b with ⟨thread, process⟩
  refine yields_pure ?_
  have boxed : BoxedNumbers line a b := by
    obtain ⟨u, rfl⟩ := suffix
    obtain ⟨digits, value⟩ := Numeral.digits_of_read? (number.2.notMem (by decide)) read
    obtain ⟨digits', value'⟩ := Numeral.digits_of_read? (number'.2.notMem (by decide)) read'
    exact ⟨u, x, gap, y, gap' ++ t₂, by rw [front, front'], blanks, ⟨number.1, digits⟩,
      ⟨number'.1, digits'⟩, value, value'⟩
  exact {
    moduleName := fun w (hw : w ∈ nonblank? component) => cutFrom_nonblank? hw name
    thread := by simp [Fields.ofParts]
    process := by simp [Fields.ofParts]
    numbers := fun _ => by
      refine ⟨a, b, boxed, ?_⟩
      rcases threadAndProcess_cases a b with kept | kept <;> cases same.symm.trans kept <;>
        simp [Fields.ofParts, nonblank?_ofNat]
    sourceFile := by simp [Fields.ofParts]
    extras := by simp [Fields.ofParts]
    message := message
    closes := fun _ => trimmed.2
    opens := fun _ _ => trimmed.1 }

theorem messageAndStamp_parts {t : Text} (opens : Stops isBlank t) :
    (messageAndStamp t).1 <:+: t ∧ Trimmed (messageAndStamp t).1 ∧
      ∀ s ∈ (messageAndStamp t).2, CutFrom t s := by
  have whole := trimEnd_front t
  have body : trimEnd t <:+: t ∧ Trimmed (trimEnd t) := ⟨whole.isInfix, trimmed_trimEnd opens⟩
  rw [messageAndStamp]
  split
  · next before content last =>
    have parts := eq_of_lastBox? last
    split
    · next stamp =>
      have front : before <+: t := (List.prefix_append before _).trans (parts ▸ whole)
      have inside : content <:+: t :=
        .trans ⟨before ++ ['['], [']'], by simp [parts]⟩ whole.isInfix
      have sharp : ∀ c, before.head? = some c → isBlank c = false := by
        obtain ⟨w, rfl⟩ := front
        exact fun c hc => opens c (by rw [List.head?_append, hc, Option.some_or])
      refine ⟨((trimEnd_front before).trans front).isInfix, trimmed_trimEnd sharp, ?_⟩
      rintro _ ⟨⟩
      exact (cutFrom_of_isStamp stamp).mono inside
    · exact ⟨body.1, body.2, by simp⟩
  · exact ⟨body.1, body.2, by simp⟩

theorem stops_of_run_box {α : Type} {s : Scan α} {a : α} {t r : Text}
    (h : (box s).run t = some (a, r)) : Stops isBlank r := by
  obtain ⟨_, t₁, -, h⟩ := run_bind_eq_some.1 h
  obtain ⟨_, _, blank, h⟩ := run_bind_eq_some.1 h
  cases h
  cases blank
  intro c hc
  simpa [hc] using List.head?_dropWhile_not isBlank t₁

theorem yields_browserBox : Yields line browserBox fun parts =>
    parts.1 <:+: line ∧ parts.2.1 <:+: line ∧ CutFrom line parts.2.2.1 ∧
      parts.2.2.2.2.1 <:+: line := by
  have time : Yields line browserTime (CutFrom line) := by
    intro t time r suffix run
    obtain ⟨rfl, is_time⟩ := isBrowserTime_of_run run
    exact ⟨(List.suffix_append time r).trans suffix, (cutFrom_of_isBrowserTime is_time).mono
      ((List.prefix_append time r).isInfix.trans suffix.isInfix)⟩
  have number : Takes (perhaps enclosedDigits) fun _ => True :=
    ((takes_char '(').bind fun _ => takes_digits.bind fun _ => (takes_char ')').bind fun _ =>
      takes_pure _).perhaps.imp fun _ _ => trivial
  refine (yields_many1 _).bind fun _ process => (yields_char ':').bind fun _ _ => ?_
  refine (yields_many1 _).bind fun _ thread => (yields_char ':').bind fun _ _ => ?_
  refine time.bind fun _ time => (yields_char ':').bind fun _ _ => ?_
  refine (yields_many1 _).bind fun _ _ => (yields_char ':').bind fun _ _ => ?_
  refine (yields_many1 _).bind fun _ file => (yields_of_takes number).bind fun _ _ => ?_
  exact yields_pure ⟨process, thread, time, file⟩

theorem grounded_browser : Yields line browser (Grounded line) := by
  -- The blanks after the box go with it, and so the message has none in front.
  intro t f r suffix run
  obtain ⟨⟨process, thread, time, token, file, number⟩, t₁, boxed, run⟩ := run_bind_eq_some.1 run
  have sharp := stops_of_run_box boxed
  obtain ⟨suffix₁, process_part, thread_part, time_part, file_part⟩ :=
    yields_browserBox.box suffix boxed
  obtain ⟨rest, t₂, all, run⟩ := run_bind_eq_some.1 run
  cases all
  rw [show t₁.takeWhile (fun _ => true) = t₁ by simp] at run
  obtain ⟨part, trimmed, stamped⟩ := messageAndStamp_parts sharp
  refine (?_ : Yields line _ (Grounded line)) ((List.dropWhile_suffix _).trans suffix₁) run
  rcases same : messageAndStamp t₁ with ⟨text, stamp⟩
  rw [same] at part trimmed stamped
  refine (yields_guard _).bind fun _ _ => yields_pure ?_
  have extras : ∀ x ∈ ("browser_time".toList, time) ::
      (stamp.map fun s => ("trailing_timestamp".toList, s)).toList, CutFrom line x.2 := by
    rw [List.forall_mem_cons]
    refine ⟨time_part, fun x hx => ?_⟩
    obtain ⟨s, hs, rfl⟩ := Option.map_eq_some_iff.1 (Option.mem_toList.1 hx)
    exact (stamped s hs).mono suffix₁.isInfix
  have parts := And.intro thread_part (And.intro process_part file_part)
  exact grounded_ofParts (by simp) (by simpa [Parts.Within] using parts) extras
    (part.trans suffix₁.isInfix) trimmed.2 fun _ => trimmed.1

theorem grounded_plain (line : Text) : Grounded line (plain line) := by
  have guessed : ∀ w ∈ guessModule line, w <:+: line := by
    intro w hw
    obtain ⟨name, boxed, rest⟩ := Option.bind_eq_some_iff.1 hw
    obtain ⟨_, -, same⟩ := Option.bind_eq_some_iff.1 rest
    cases same
    obtain ⟨content, box, named⟩ := Option.bind_eq_some_iff.1 boxed
    obtain ⟨⟨before, opened⟩, first, box⟩ := Option.bind_eq_some_iff.1 box
    obtain ⟨⟨_, after⟩, second, same⟩ := Option.bind_eq_some_iff.1 box
    cases same
    have inside : content <:+: line :=
      ⟨before ++ ['['], ']' :: after, by simp [eq_of_cut? first, eq_of_cut? second]⟩
    exact (cutFrom_nonblank? named inside).part
  exact {
    moduleName := cutFrom_piece guessed
    thread := by simp [plain, Fields.ofParts]
    process := by simp [plain, Fields.ofParts]
    numbers := by simp [plain, Fields.ofParts]
    sourceFile := by simp [plain, Fields.ofParts]
    extras := by simp [plain, Fields.ofParts]
    message := List.infix_rfl
    closes := fun other => absurd rfl other
    opens := fun other => absurd rfl other }

theorem grounded_read? {l : Layout} (h : l.read? line = some f) : Grounded line f := by
  have grounded : ∀ {s : Scan Fields}, Yields line s (Grounded line) → result? s line = some f →
      Grounded line f := by
    intro s yields read
    obtain ⟨⟨f', r⟩, run, rfl⟩ := Option.map_eq_some_iff.1 read
    exact (yields List.suffix_rfl run).2
  cases l with
  | tagged => exact grounded grounded_tagged h
  | positional => exact grounded grounded_positional h
  | structured => exact grounded grounded_structured h
  | minimal => exact grounded grounded_minimal h
  | linux => exact grounded grounded_linux h
  | android => exact grounded grounded_android h
  | logcat => exact grounded grounded_logcat h
  | browser => exact grounded grounded_browser h
  | plain =>
    cases h
    exact grounded_plain line

theorem grounded_detect (line : Text) : Grounded line (detect line) := by
  have clean : Grounded (line.dropWhile isStray) (detect line) := by
    unfold detect detectIn
    cases found : Layout.cascade.findSome? (·.read? (line.dropWhile isStray)) with
    | none => exact grounded_plain _
    | some f =>
      obtain ⟨l, -, read⟩ := List.exists_of_findSome?_eq_some found
      exact grounded_read? read
  exact clean.mono (List.dropWhile_suffix _).isInfix

theorem fields_grounded (line : Text) :
    (∀ l f, Layout.read? l line = some f → f.layout = l ∧ Grounded line f) ∧
      Grounded line (detect line) :=
  ⟨fun _ _ read => ⟨layout_of_read? read, grounded_read? read⟩, grounded_detect line⟩

theorem fields_grounded_account :
    let line := "2025-03-01 08:00:00.250 [Warn] [ ] [0x1A/ff] [run:4] ".toList ++
      "[ACC:team /user= al ] [-]  up ".toList
    let f : Fields :=
      { layout := .structured, level := some .warning, moduleName := none,
        thread := some "ff".toList, process := some "0x1A".toList,
        sourceFile := some "run".toList, sourceLine := some 4, message := "up".toList,
        extras := [("account".toList, "team".toList), ("user".toList, "al".toList)] }
    Layout.structured.read? line = some f ∧ Grounded line f ∧ Grounded line (detect line) := by
  intro line f
  have read : Layout.structured.read? line = some f := by decide +kernel
  obtain ⟨fits, found⟩ := fields_grounded line
  exact ⟨read, (fits .structured f read).2, found⟩

end Grounded

end Line
end Logbook
