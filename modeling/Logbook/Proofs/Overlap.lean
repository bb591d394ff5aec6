import Logbook.Line.Detect
import Logbook.Proofs.Taking

/-! Which layouts can fit one line. The stamped layouts are told apart by the boxes that follow the
stamp, the others by the first character that has no place in a stamp. Two pairs do overlap, and
the order of trial matters for these alone. -/

namespace Logbook.Line

open Scan Text

def isStampChar (c : Char) : Bool := isDigit c || isBlank c || "-/:.T".toList.elem c

def foreign? (t : Text) : Option Char := t.find? (!isStampChar ·)

theorem not_isStampChar_of_letter {c : Char} (h : logcatLetters.elem c = true) :
    isStampChar c = false := by
  have all : logcatLetters.all (!isStampChar ·) = true := by decide
  simpa using List.all_eq_true.1 all c (List.elem_iff.1 h)

def headBoxes (line : Text) : Option (List Text) :=
  (stampHead.run line).map fun p => (leadingBoxes 3 p.2).1

def logcatTime : Stamp.Pattern := Stamp.Pattern.clock ++ Stamp.Pattern.fraction '.' 3 6

structure Stamped (line : Text) (boxes : List Text) : Prop where
  opens : Opens isDigit line
  foreign : foreign? line = some '['
  boxes : headBoxes line = some boxes

def Layout.Shows : Layout → List Text → Prop
  | .tagged, [a, b, _] => ':' ∈ a ∧ Opens Char.isAlpha b
  | .positional, [a, b, c] => Opens (!isDigit ·) a ∧ Opens isDigit b ∧ ':' ∉ c
  | .structured, a :: _ => Opens Char.isAlpha a ∧ ':' ∉ a
  | .minimal, a :: b :: _ => Only isBlank a ∧ Only isBlank b
  | .linux, [a, _, c] => Opens Char.isAlpha a ∧ ':' ∉ a ∧ ':' ∈ c
  | .android, [a, _] => Opens isDigit a
  | _, _ => False

def Layout.Looks (line : Text) : Layout → Prop
  | .plain => True
  | .browser => line.head? = some '['
  | .logcat => (∃ c, logcatLetters.elem c = true ∧ foreign? line = some c) ∧
      ∃ time, logcatTime.Fits time ∧ time <:+: line
  | l => ∃ boxes, Stamped line boxes ∧ l.Shows boxes

theorem foreign?_append {w : Text} (h : Only isStampChar w) (t : Text) :
    foreign? (w ++ t) = foreign? t := by
  have missing : w.find? (!isStampChar ·) = none :=
    List.find?_eq_none.2 fun c hc => by simp [h c hc]
  rw [foreign?, List.find?_append, missing, Option.none_or]
  rfl

theorem foreign?_cons {c : Char} (h : isStampChar c = false) (t : Text) :
    foreign? (c :: t) = some c :=
  List.find?_cons_of_pos (by simp [h])

theorem suffix_of_run {α : Type} {s : Scan α} {P : Text → Prop} (takes : Takes s P) {t r : Text}
    {a : α} (run : s.run t = some (a, r)) : r <:+ t := by
  obtain ⟨w, rfl, -⟩ := takes run
  exact List.suffix_append w r

theorem foreign?_of_run {α : Type} {s : Scan α} (takes : Takes s (Only isStampChar)) {t r : Text}
    {a : α} (run : s.run t = some (a, r)) : foreign? t = foreign? r := by
  obtain ⟨w, rfl, only⟩ := takes run
  exact foreign?_append only r

theorem only_stampChar_of_blank {w : Text} (h : Only isBlank w) : Only isStampChar w :=
  h.imp fun c blank => by simp [isStampChar, blank]

theorem only_stampChar_of_digit {w : Text} (h : Only isDigit w) : Only isStampChar w :=
  h.imp fun c digit => by simp [isStampChar, digit]

theorem takes_stamp_pattern {p : Stamp.Pattern} (marks : p.marks.all isStampChar = true) :
    Takes p.scan (Only isStampChar) :=
  (takes_pattern p).imp fun _ fits =>
    fits.only (fun c digit => by simp [isStampChar, digit]) (List.all_eq_true.1 marks)

theorem takes_stamp : Takes Stamp.scan fun w => Opens isDigit w ∧ Only isStampChar w := by
  have opens : ∀ p ∈ Stamp.shapes, ∃ least most ps, p = .digits least most :: ps ∧ 0 < least := by
    simp [Stamp.shapes, Stamp.Pattern.date, Stamp.Pattern.slashDate, Stamp.Pattern.clock]
  have marks : ∀ p ∈ Stamp.shapes, p.marks.all isStampChar = true := by decide
  apply takes_first
  intro s hs
  obtain ⟨p, hp, rfl⟩ := List.mem_map.1 hs
  obtain ⟨least, most, ps, rfl, positive⟩ := opens p hp
  refine (takes_pattern _).imp fun w fits => ⟨fits.head positive, ?_⟩
  exact fits.only (fun c digit => by simp [isStampChar, digit])
    (List.all_eq_true.1 (marks _ hp))

theorem takes_stampHead : Takes stampHead fun w => Opens isDigit w ∧ Only isStampChar w := by
  refine (takes_stamp.bind fun _ => takes_blanks).imp ?_
  rintro _ ⟨u, v, rfl, ⟨opens, only⟩, blank⟩
  exact ⟨opens.append v, only.append (only_stampChar_of_blank blank)⟩

theorem stamped_of_box {line t w r : Text} {u : Unit} (head : stampHead.run line = some (u, t))
    (first : (box (many inBox)).run t = some (w, r)) :
    Stamped line (w :: (leadingBoxes 2 r).1) := by
  have boxes : headBoxes line = some (w :: (leadingBoxes 2 r).1) := by
    rw [headBoxes, head, Option.map_some, leadingBoxes_of_box first]
  obtain ⟨front, rfl, opens, only⟩ := takes_stampHead head
  obtain ⟨t, rfl⟩ := opening_of_box first
  exact ⟨opens.append _, (foreign?_append only _).trans (foreign?_cons (by decide) t), boxes⟩

section Contents

theorem takes_digits : Takes digits fun w => w ≠ [] ∧ Only isDigit w := takes_many1 isDigit

theorem takes_nameAndDigits : Takes nameAndDigits fun w => ':' ∈ w ∧ ']' ∉ w := by
  refine ((takes_many1 inName).bind fun _ => (takes_char ':').bind fun _ =>
    takes_digits.bind fun _ => takes_pure _).imp ?_
  rintro _ ⟨name, _, rfl, ⟨-, name_only⟩, _, _, rfl, rfl, number, _, rfl, ⟨-, digits_only⟩, rfl⟩
  have outside := name_only.notMem (c := ']') (by decide)
  have outside' := digits_only.notMem (c := ']') (by decide)
  simp [outside, outside']

theorem takes_nameWithDigits :
    Takes nameWithDigits fun w => Opens (!isDigit ·) w ∧ ']' ∉ w := by
  have number : Takes (do char ':'; digits) fun w => ']' ∉ w := by
    refine ((takes_char ':').bind fun _ => takes_digits).imp ?_
    rintro _ ⟨_, number, rfl, rfl, -, only⟩
    simp [only.notMem (c := ']') (by decide)]
  refine ((takes_satisfy fun c => inName c && !isDigit c).bind fun _ => (takes_many inName).bind
    fun _ => number.perhaps.bind fun _ => takes_pure _).imp ?_
  rintro _ ⟨u, _, rfl, ⟨nonempty, first⟩, name, _, rfl, only, v, _, rfl, rest, rfl⟩
  refine ⟨((first.imp fun c hc => ?_).opens nonempty).append _, ?_⟩
  · simp at hc
    simp [hc]
  · have outside := first.notMem (c := ']') (by decide)
    have outside' := only.notMem (c := ']') (by decide)
    rcases rest with rfl | rest
    · simp [outside, outside']
    · simp [outside, outside', rest]

theorem takes_initial {c : Char} {tails : List Text} (letter : c ≠ ']')
    (inside : ∀ w ∈ tails, ']' ∉ w) : Takes (initial c tails) fun w => ']' ∉ w := by
  have tail : Takes (first (tails.map word)) fun w => ']' ∉ w := by
    apply takes_first
    intro s hs
    obtain ⟨w, hw, rfl⟩ := List.mem_map.1 hs
    exact (takes_word w).imp fun _ same => same ▸ inside w hw
  refine ((takes_char c).bind fun _ => tail.perhaps.bind fun _ => takes_pure ()).imp ?_
  rintro _ ⟨_, _, rfl, rfl, v, _, rfl, rest, rfl⟩
  rcases rest with rfl | rest
  · simpa using letter.symm
  · simp [letter.symm, rest]

theorem takes_marked {mark : Scan Unit} (inside : Takes mark fun w => ']' ∉ w) :
    Takes (do mark; let _ ← satisfy (fun c => c = ':' || c = '='); many1 inBox)
      fun w => ']' ∉ w := by
  refine (inside.bind fun _ => (takes_satisfy _).bind fun _ => takes_many1 inBox).imp ?_
  rintro _ ⟨u, _, rfl, hu, v, w, rfl, ⟨-, hv⟩, -, hw⟩
  simp [hu, hv.notMem (c := ']') (by decide), hw.notMem (c := ']') (by decide)]

theorem takes_idPair : Takes (do let p ← digits; char ':'; let t ← digits; return (p, t))
    fun w => Opens isDigit w ∧ ']' ∉ w := by
  refine (takes_digits.bind fun _ => (takes_char ':').bind fun _ =>
    takes_digits.bind fun _ => takes_pure _).imp ?_
  rintro _ ⟨u, _, rfl, ⟨nonempty, hu⟩, _, _, rfl, rfl, v, _, rfl, ⟨-, hv⟩, rfl⟩
  refine ⟨(hu.opens nonempty).append _, ?_⟩
  simp [hu.notMem (c := ']') (by decide), hv.notMem (c := ']') (by decide)]

end Contents

section Looks

variable {line r : Text} {f : Fields}

theorem looks_tagged (h : tagged.run line = some (f, r)) : Layout.tagged.Looks line := by
  obtain ⟨_, t₀, head, h⟩ := run_bind_eq_some.1 h
  obtain ⟨_, t₁, first, h⟩ := run_bind_eq_some.1 h
  obtain ⟨_, t₂, second, h⟩ := run_bind_eq_some.1 h
  obtain ⟨_, t₃, third, -⟩ := run_bind_eq_some.1 h
  have thread : Takes (initial 'T' ["hread".toList]) fun w => ']' ∉ w :=
    takes_initial (by decide) (by decide)
  obtain ⟨a, ⟨colon, -⟩, first⟩ := run_box takes_nameAndDigits (fun _ h => h.2) first
  obtain ⟨b, ⟨nonempty, letter⟩, second⟩ :=
    run_box (takes_satisfy _) (fun _ h => h.2.notMem (by decide)) second
  obtain ⟨c, -, third⟩ := run_box (takes_marked thread) (fun _ h => h) third
  have stamped := stamped_of_box head first
  rw [leadingBoxes_of_box second, leadingBoxes_of_box third] at stamped
  exact ⟨_, stamped, colon, letter.opens nonempty⟩

theorem looks_positional (h : positional.run line = some (f, r)) :
    Layout.positional.Looks line := by
  obtain ⟨_, t₀, head, h⟩ := run_bind_eq_some.1 h
  obtain ⟨_, t₁, first, h⟩ := run_bind_eq_some.1 h
  obtain ⟨_, t₂, second, h⟩ := run_bind_eq_some.1 h
  obtain ⟨_, t₃, third, -⟩ := run_bind_eq_some.1 h
  obtain ⟨a, ⟨opens, -⟩, first⟩ := run_box takes_nameWithDigits (fun _ h => h.2) first
  obtain ⟨b, ⟨nonempty, digit⟩, second⟩ :=
    run_box takes_digits (fun _ h => h.2.notMem (by decide)) second
  obtain ⟨c, ⟨-, plain⟩, third⟩ := run_box takes_digits (fun _ h => h.2.notMem (by decide)) third
  have stamped := stamped_of_box head first
  rw [leadingBoxes_of_box second, leadingBoxes_of_box third] at stamped
  exact ⟨_, stamped, opens, digit.opens nonempty, plain.notMem (by decide)⟩

theorem looks_structured (h : structured.run line = some (f, r)) :
    Layout.structured.Looks line := by
  obtain ⟨_, t₀, head, h⟩ := run_bind_eq_some.1 h
  obtain ⟨_, t₁, first, -⟩ := run_bind_eq_some.1 h
  obtain ⟨a, ⟨nonempty, letters⟩, first⟩ :=
    run_box (takes_many1 _) (fun _ h => h.2.notMem (by decide)) first
  exact ⟨_, stamped_of_box head first, letters.opens nonempty, letters.notMem (by decide)⟩

theorem looks_minimal (h : minimal.run line = some (f, r)) : Layout.minimal.Looks line := by
  obtain ⟨_, t₀, head, h⟩ := run_bind_eq_some.1 h
  obtain ⟨_, t₁, first, h⟩ := run_bind_eq_some.1 h
  obtain ⟨_, t₂, second, -⟩ := run_bind_eq_some.1 h
  obtain ⟨a, blank, first⟩ := run_box takes_blanks (fun _ h => h.notMem (by decide)) first
  obtain ⟨b, blank', second⟩ := run_box takes_blanks (fun _ h => h.notMem (by decide)) second
  have stamped := stamped_of_box head first
  rw [leadingBoxes_of_box second] at stamped
  exact ⟨_, stamped, blank, blank'⟩

theorem looks_linux (h : linux.run line = some (f, r)) : Layout.linux.Looks line := by
  obtain ⟨_, t₀, head, h⟩ := run_bind_eq_some.1 h
  obtain ⟨_, t₁, first, h⟩ := run_bind_eq_some.1 h
  obtain ⟨_, t₂, second, h⟩ := run_bind_eq_some.1 h
  obtain ⟨_, t₃, third, -⟩ := run_bind_eq_some.1 h
  obtain ⟨a, ⟨nonempty, letter⟩, first⟩ :=
    run_box (takes_satisfy _) (fun _ h => h.2.notMem (by decide)) first
  obtain ⟨c, ⟨colon, -⟩, third⟩ := run_box takes_nameAndDigits (fun _ h => h.2) third
  have stamped := stamped_of_box head first
  rw [leadingBoxes_of_box second, leadingBoxes_of_box third] at stamped
  exact ⟨_, stamped, letter.opens nonempty, letter.notMem (by decide), colon⟩

theorem looks_android (h : android.run line = some (f, r)) : Layout.android.Looks line := by
  obtain ⟨_, t₀, head, h⟩ := run_bind_eq_some.1 h
  obtain ⟨_, t₁, first, h⟩ := run_bind_eq_some.1 h
  obtain ⟨_, t₂, second, h⟩ := run_bind_eq_some.1 h
  obtain ⟨_, t₃, dash, -⟩ := run_bind_eq_some.1 h
  obtain rfl := run_char_eq_some.1 dash
  obtain ⟨a, ⟨opens, -⟩, first⟩ := run_box takes_idPair (fun _ h => h.2) first
  -- A dash follows the second box, so there is no third one.
  have no_box : (leadingBoxes 1 ('-' :: t₃)).1 = [] := rfl
  have stamped := stamped_of_box head first
  rw [leadingBoxes_of_box second, no_box] at stamped
  exact ⟨_, stamped, opens⟩

theorem looks_logcat (h : logcat.run line = some (f, r)) : Layout.logcat.Looks line := by
  obtain ⟨_, t₁, year, h⟩ := run_bind_eq_some.1 h
  obtain ⟨_, t₂, day, h⟩ := run_bind_eq_some.1 h
  obtain ⟨_, t₃, gap₁, h⟩ := run_bind_eq_some.1 h
  obtain ⟨_, t₄, time, h⟩ := run_bind_eq_some.1 h
  obtain ⟨_, t₅, gap₂, h⟩ := run_bind_eq_some.1 h
  obtain ⟨_, t₆, process, h⟩ := run_bind_eq_some.1 h
  obtain ⟨_, t₇, gap₃, h⟩ := run_bind_eq_some.1 h
  obtain ⟨_, t₈, thread, h⟩ := run_bind_eq_some.1 h
  obtain ⟨_, t₉, gap₄, h⟩ := run_bind_eq_some.1 h
  obtain ⟨c, t₁₀, letter, -⟩ := run_bind_eq_some.1 h
  obtain ⟨w, rfl, nonempty, only⟩ := takes_satisfy _ letter
  have blank : Takes blanks1 (Only isStampChar) :=
    takes_blanks1.imp fun _ h => only_stampChar_of_blank h.2
  have number : Takes digits (Only isStampChar) :=
    takes_digits.imp fun _ h => only_stampChar_of_digit h.2
  have found : foreign? line = foreign? (w ++ t₁₀) := by
    rw [foreign?_of_run (takes_stamp_pattern (by decide)).only_perhaps year,
      foreign?_of_run (takes_stamp_pattern (by decide)) day, foreign?_of_run blank gap₁,
      foreign?_of_run (takes_stamp_pattern (by decide)) time, foreign?_of_run blank gap₂,
      foreign?_of_run number process, foreign?_of_run blank gap₃,
      foreign?_of_run number thread, foreign?_of_run blank gap₄]
  obtain ⟨d, w, rfl⟩ := List.exists_cons_of_ne_nil nonempty
  have letter := only d (by simp)
  refine ⟨⟨d, letter, found.trans (foreign?_cons (not_isStampChar_of_letter letter) _)⟩, ?_⟩
  obtain ⟨covered, rfl, fits⟩ := takes_pattern logcatTime time
  have rest : covered ++ t₄ <:+ line :=
    (suffix_of_run takes_blanks1 gap₁).trans <|
      (suffix_of_run (takes_pattern _) day).trans (suffix_of_run (takes_pattern _).perhaps year)
  exact ⟨covered, fits, (List.prefix_append ..).isInfix.trans rest.isInfix⟩

theorem looks_browser (h : browser.run line = some (f, r)) : Layout.browser.Looks line := by
  obtain ⟨_, t₀, first, -⟩ := run_bind_eq_some.1 h
  obtain ⟨t, rfl⟩ := opening_of_box first
  rfl

theorem looks_of_read? {l : Layout} (h : (l.read? line).isSome) : l.Looks line := by
  have run : ∀ {s : Scan Fields}, (result? s line).isSome → ∃ f r, s.run line = some (f, r) := by
    intro s h
    obtain ⟨f, found⟩ := Option.isSome_iff_exists.1 h
    obtain ⟨⟨f, r⟩, run, -⟩ := Option.map_eq_some_iff.1 found
    exact ⟨f, r, run⟩
  cases l with
  | tagged => obtain ⟨f, r, h⟩ := run h; exact looks_tagged h
  | positional => obtain ⟨f, r, h⟩ := run h; exact looks_positional h
  | structured => obtain ⟨f, r, h⟩ := run h; exact looks_structured h
  | minimal => obtain ⟨f, r, h⟩ := run h; exact looks_minimal h
  | linux => obtain ⟨f, r, h⟩ := run h; exact looks_linux h
  | android => obtain ⟨f, r, h⟩ := run h; exact looks_android h
  | logcat => obtain ⟨f, r, h⟩ := run h; exact looks_logcat h
  | browser => obtain ⟨f, r, h⟩ := run h; exact looks_browser h
  | plain => trivial

end Looks

def Layout.overlaps : List (Layout × Layout) :=
  [(.positional, .structured), (.structured, .linux)]

theorem overlaps_of_shows {a b : Layout} {boxes : List Text} (ha : a.Shows boxes)
    (hb : b.Shows boxes) : a = b ∨ (a, b) ∈ Layout.overlaps ∨ (b, a) ∈ Layout.overlaps := by
  have digit_letter : ∀ w, Opens isDigit w → ¬ Opens Char.isAlpha w :=
    fun w h h' => h'.clash h fun c => not_isDigit_of_isAlpha
  have digit_other : ∀ w, Opens isDigit w → ¬ Opens (!isDigit ·) w :=
    fun w h h' => h.clash h' fun c digit => by simp [digit]
  have blank_letter : ∀ w, Only isBlank w → ¬ Opens Char.isAlpha w :=
    fun w h h' => h'.clash_only h fun c => not_isBlank_of_isAlpha
  have blank_digit : ∀ w, Only isBlank w → ¬ Opens isDigit w :=
    fun w h h' => h'.clash_only h fun c => not_isBlank_of_isDigit
  have blank_colon : ∀ w, Only isBlank w → ':' ∉ w := fun w h => h.notMem (by decide)
  rcases boxes with _ | ⟨x, _ | ⟨y, _ | ⟨z, _ | _⟩⟩⟩ <;>
  cases a <;> cases b <;> simp [Layout.Shows, Layout.overlaps] at ha hb ⊢ <;> grind

theorem Layout.looks_cases {line : Text} {l : Layout} (looks : l.Looks line)
    (h : l ∈ Layout.cascade) :
    l = .logcat ∧ (∃ c, logcatLetters.elem c = true ∧ foreign? line = some c) ∨
    l = .browser ∧ line.head? = some '[' ∨
    ∃ boxes, Stamped line boxes ∧ l.Shows boxes := by
  cases l with
  | logcat => exact .inl ⟨rfl, looks.1⟩
  | browser => exact .inr (.inl ⟨rfl, looks⟩)
  | plain => simp [Layout.cascade] at h
  | _ => exact .inr (.inr looks)

theorem overlaps_of_looks {line : Text} {a b : Layout} (ha : a ∈ Layout.cascade)
    (hb : b ∈ Layout.cascade) (looks_a : a.Looks line) (looks_b : b.Looks line) :
    a = b ∨ (a, b) ∈ Layout.overlaps ∨ (b, a) ∈ Layout.overlaps := by
  -- The first foreign character is a letter in logcat and a bracket in the other layouts.
  have letter : (∃ c, logcatLetters.elem c = true ∧ foreign? line = some c) →
      foreign? line ≠ some '[' := by
    rintro ⟨c, letter, found⟩ bracket
    cases found.symm.trans bracket
    exact absurd letter (by decide)
  have bracket : line.head? = some '[' → foreign? line = some '[' := by
    intro head
    obtain ⟨r, rfl⟩ := List.head?_eq_some_iff.1 head
    exact foreign?_cons (by decide) r
  have digit : ∀ {boxes}, Stamped line boxes → line.head? ≠ some '[' := by
    rintro boxes ⟨⟨c, r, rfl, first⟩, -, -⟩ ⟨⟩
    exact absurd first (by decide)
  rcases Layout.looks_cases looks_a ha with
    ⟨rfl, logcat⟩ | ⟨rfl, browser⟩ | ⟨boxes, stamped, shows⟩ <;>
  rcases Layout.looks_cases looks_b hb with
    ⟨rfl, logcat'⟩ | ⟨rfl, browser'⟩ | ⟨boxes', stamped', shows'⟩
  · exact .inl rfl
  · exact absurd (bracket browser') (letter logcat)
  · exact absurd stamped'.foreign (letter logcat)
  · exact absurd (bracket browser) (letter logcat')
  · exact .inl rfl
  · exact absurd browser (digit stamped')
  · exact absurd stamped.foreign (letter logcat')
  · exact absurd browser' (digit stamped)
  · cases stamped.boxes.symm.trans stamped'.boxes
    exact overlaps_of_shows shows shows'

theorem not_sublist_of_nodup {α : Type} {a b : α} {m₁ m₂ : List α} (nodup : (m₁ ++ b :: m₂).Nodup)
    (ha : a ∉ m₁) (ne : a ≠ b) : ¬ [a, b].Sublist (m₁ ++ b :: m₂) := by
  intro sub
  obtain ⟨s₁, s₂, split, sub₁, sub₂⟩ := List.sublist_append_iff.1 sub
  rcases s₁ with _ | ⟨c, s₁⟩
  · rw [List.nil_append] at split
    subst split
    have later : [a, b].Sublist m₂ := by
      cases sub₂ with
      | cons _ h => exact h
      | cons_cons _ _ => exact absurd rfl ne
    have tail := (List.nodup_append.1 nodup).2.1
    exact (List.nodup_cons.1 tail).1 (later.subset (by simp))
  · obtain ⟨rfl, -⟩ := List.cons.inj split
    exact ha (sub₁.subset (by simp))

/-- The first value found does not depend on the order of the list, as long as the members that
have a value keep theirs. -/
theorem findSome?_eq_of_order {α β : Type} {f : α → Option β} {l l' : List α} (perm : l.Perm l')
    (nodup : l.Nodup)
    (order : ∀ a b, (f a).isSome → (f b).isSome → [a, b].Sublist l → [a, b].Sublist l') :
    l.findSome? f = l'.findSome? f := by
  cases found : l.findSome? f with
  | none =>
    rw [List.findSome?_eq_none_iff] at found
    exact (List.findSome?_eq_none_iff.2 fun a ha => found a (perm.mem_iff.2 ha)).symm
  | some x =>
    obtain ⟨l₁, a, l₂, rfl, value, before⟩ := List.findSome?_eq_some_iff.1 found
    obtain ⟨y, found'⟩ : ∃ y, l'.findSome? f = some y :=
      Option.isSome_iff_exists.1 <|
        List.findSome?_isSome_iff.2 ⟨a, perm.mem_iff.1 (by simp), by simp [value]⟩
    obtain ⟨m₁, b, m₂, rfl, value', before'⟩ := List.findSome?_eq_some_iff.1 found'
    by_cases same : a = b
    · subst same
      rw [found', ← value, value']
    · -- `b` stands after `a` in the one list, so it does in the other, where it is the first.
      have hb : b ∈ l₂ := by
        have member : b ∈ l₁ ++ a :: l₂ := perm.mem_iff.2 (by simp)
        simp only [List.mem_append, List.mem_cons] at member
        rcases member with early | rfl | late
        · simp [before b early] at value'
        · exact absurd rfl same
        · exact late
      have pair : [a, b].Sublist (l₁ ++ a :: l₂) :=
        ((List.singleton_sublist.2 hb).cons_cons a).trans (List.sublist_append_right ..)
      have pair' := order a b (by simp [value]) (by simp [value']) pair
      have ha : a ∉ m₁ := fun early => by simp [before' a early] at value
      exact absurd pair' (not_sublist_of_nodup (perm.nodup nodup) ha same)

theorem overlaps_of_read? {line : Text} {a b : Layout} (ha : a ∈ Layout.cascade)
    (hb : b ∈ Layout.cascade) (ne : a ≠ b) (read_a : (a.read? line).isSome)
    (read_b : (b.read? line).isSome) : (a, b) ∈ Layout.overlaps ∨ (b, a) ∈ Layout.overlaps :=
  (overlaps_of_looks ha hb (looks_of_read? read_a) (looks_of_read? read_b)).resolve_left ne

theorem exists_line_of_overlaps {a b : Layout} (h : (a, b) ∈ Layout.overlaps) :
    ∃ line, (a.read? line).isSome ∧ (b.read? line).isSome := by
  simp only [Layout.overlaps, List.mem_cons, Prod.mk.injEq, List.not_mem_nil, or_false] at h
  rcases h with ⟨rfl, rfl⟩ | ⟨rfl, rfl⟩
  · refine ⟨"10:00:00.000 [INFO] [12] [34] [56] [f:1] [-] [-]".toList, ?_⟩
    decide +kernel
  · refine ⟨"10:00:00.000 [I] [Net] [1:2] [f:1] [-] [-]".toList, ?_⟩
    decide +kernel

/-- Two pairs of layouts have lines in common and no other pair has. Any order of trial that keeps
these pairs in order reads every line the same. -/
theorem detect_reordered :
    (∀ a ∈ Layout.cascade, ∀ b ∈ Layout.cascade, a ≠ b →
      ((∃ line, (a.read? line).isSome ∧ (b.read? line).isSome) ↔
        (a, b) ∈ Layout.overlaps ∨ (b, a) ∈ Layout.overlaps)) ∧
    ∀ layouts : List Layout, layouts.Perm Layout.cascade →
      (∀ p ∈ Layout.overlaps, [p.1, p.2].Sublist layouts) →
        ∀ line, detectIn layouts (line.dropWhile isStray) = detect line := by
  constructor
  · intro a ha b hb ne
    constructor
    · rintro ⟨line, read_a, read_b⟩
      exact overlaps_of_read? ha hb ne read_a read_b
    · rintro (forward | backward)
      · exact exists_line_of_overlaps forward
      · obtain ⟨line, read_b, read_a⟩ := exists_line_of_overlaps backward
        exact ⟨line, read_a, read_b⟩
  · intro layouts perm kept line
    have nodup : Layout.cascade.Nodup := by decide
    have ordered : ∀ p ∈ Layout.overlaps, ¬ [p.2, p.1].Sublist Layout.cascade := by decide
    have same : Layout.cascade.findSome? (·.read? (line.dropWhile isStray)) =
        layouts.findSome? (·.read? (line.dropWhile isStray)) := by
      refine findSome?_eq_of_order perm.symm nodup fun a b read_a read_b pair => ?_
      have ne : a ≠ b := by simpa using pair.nodup nodup
      rcases overlaps_of_read? (pair.subset (by simp)) (pair.subset (by simp)) ne read_a read_b with
        forward | backward
      · exact kept _ forward
      · exact absurd pair (ordered _ backward)
    rw [detect, detectIn, detectIn, same]

theorem detect_reordered_browser_first :
    let layouts : List Layout :=
      [.browser, .logcat, .android, .minimal, .positional, .structured, .linux, .tagged]
    let line := "\uFEFF10:00:00.000 [INFO] [12] [34] [56] [f:1] [-] [-] hi".toList
    ((∃ line, (Layout.structured.read? line).isSome ∧ (Layout.linux.read? line).isSome) ↔
      (.structured, .linux) ∈ Layout.overlaps ∨ (.linux, .structured) ∈ Layout.overlaps) ∧
    layouts.Perm Layout.cascade ∧ (∀ p ∈ Layout.overlaps, [p.1, p.2].Sublist layouts) ∧
      detectIn layouts (line.dropWhile isStray) = detect line :=
  ⟨detect_reordered.1 _ (by decide) _ (by decide) (by decide), by decide, by decide,
    detect_reordered.2 _ (by decide) (by decide) _⟩

end Logbook.Line
