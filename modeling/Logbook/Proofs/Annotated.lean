import Logbook.Proofs.Annotations
import Logbook.Proofs.Rendering

/-! Lines with annotated boxes, written out from their parts. The first four boxes after the head
are found, each with what it says, and later ones are left in the message. -/

namespace Logbook.Line

open Scan Text
open Annotation (means_iff)

structure Group where
  gap : Text
  content : Text
  blank : Only isBlank gap
  closed : IsContent content
  one_line : '\n' ∉ gap ++ content

def grouped : List Group → Text → Text
  | [], rest => rest
  | g :: gs, rest => g.gap ++ '[' :: (g.content ++ ']' :: grouped gs rest)

def NoGroup (t : Text) : Prop := ∀ (g : Group) (rest : Text), t ≠ grouped [g] rest

section Groups

variable {gs : List Group} {rest : Text}

theorem noGroup_of_notMem (h : '[' ∉ rest) : NoGroup rest := by
  rintro g r rfl
  exact h (by simp [grouped])

theorem no_feed_grouped (h : '\n' ∉ rest) : '\n' ∉ grouped gs rest := by
  induction gs with
  | nil => exact h
  | cons g gs ih =>
    have inside := g.one_line
    simp only [List.mem_append, not_or] at inside
    simp [grouped, inside.1, inside.2, ih]

theorem run_group (g : Group) (r : Text) :
    (do blanks; boxed (many inBox) : Scan Text).run (grouped [g] r) = some (g.content, r) :=
  (run_bind_of_some (run_blanks_append g.blank (stops_cons (by decide) _))).trans
    (run_boxed_of_reads (reads_many g.closed) r)

theorem run_group_eq_none {t : Text} (one_line : '\n' ∉ t) (h : NoGroup t) :
    (do blanks; boxed (many inBox) : Scan Text).run t = none := by
  cases run : (do blanks; boxed (many inBox) : Scan Text).run t with
  | none => rfl
  | some found =>
    obtain ⟨content, r⟩ := found
    obtain ⟨_, t', blank, bracketed⟩ := run_bind_eq_some.1 run
    obtain ⟨gap, rfl, only⟩ := takes_blanks blank
    obtain ⟨_, rfl, inside⟩ := run_boxed_eq_some.1 bracketed
    obtain ⟨w, rfl, closed⟩ := takes_many inBox inside
    have no_feed : '\n' ∉ gap ++ w := by
      simp only [List.mem_append, List.mem_cons, not_or] at one_line ⊢
      exact ⟨one_line.1, one_line.2.2.1⟩
    exact absurd rfl (h ⟨gap, w, only, inBox_iff.1 closed, no_feed⟩ r)

theorem leadingBoxes_grouped (n : Nat) (gs : List Group) (one_line : '\n' ∉ rest)
    (ends : gs.length < n → NoGroup rest) :
    leadingBoxes n (grouped gs rest) =
      ((gs.take n).map Group.content, grouped (gs.drop n) rest) := by
  induction gs generalizing n with
  | nil =>
    cases n with
    | zero => rfl
    | succ n =>
      have stop := run_group_eq_none one_line (ends (by simp))
      rw [leadingBoxes, grouped, stop]
      rfl
  | cons g gs ih =>
    cases n with
    | zero => rfl
    | succ n =>
      have first : (do blanks; boxed (many inBox) : Scan Text).run (grouped (g :: gs) rest) =
          some (g.content, grouped gs rest) := run_group g (grouped gs rest)
      have more := ih n fun few => ends (by simpa using few)
      rw [leadingBoxes, first]
      simp only [more, List.take_succ_cons, List.map_cons, List.drop_succ_cons]

theorem leadingBoxes_space {n : Nat} (some_group : gs ≠ []) (one_line : '\n' ∉ rest)
    (ends : gs.length < n + 1 → NoGroup rest) :
    leadingBoxes (n + 1) (' ' :: grouped gs rest) =
      ((gs.take (n + 1)).map Group.content, grouped (gs.drop (n + 1)) rest) := by
  obtain ⟨g, gs, rfl⟩ := List.exists_cons_of_ne_nil some_group
  let wider : Group := {
    gap := ' ' :: g.gap
    content := g.content
    blank := List.forall_mem_cons.2 ⟨by decide, g.blank⟩
    closed := g.closed
    one_line := by simpa using g.one_line }
  exact leadingBoxes_grouped (n + 1) (wider :: gs) one_line ends

end Groups

section Read

variable {s w name p t f n tail : Text} {c : Char} {level : Level} {gs : List Group}

theorem run_structured (stamp : Stamp.isStamp s = true) (word : Only Char.isAlpha w)
    (token : Level.ofToken? w = some level) (name_box : IsContent name) (process : IsId p)
    (thread : IsId t) (separator : c = ':' ∨ c = '/') (function : IsName f) (number : IsDecimal n)
    (two : 2 ≤ gs.length) (one_line : '\n' ∉ tail) (ends : gs.length < 4 → NoGroup tail) :
    let as := (gs.take 4).map fun g => Annotation.of g.content
    structured.run (stampedLine s [w, name, p ++ c :: t, f ++ ':' :: n] (grouped gs tail)) =
      some (.ofParts .structured (some level)
        ((as.findSome? Annotation.literal?).getD (trim (grouped (gs.drop 4) tail)))
        { moduleName := some name, process := some p, thread := some t,
          sourceFile := some f, sourceLine := some n }
        (as.flatMap Annotation.extras), []) := by
  intro as
  have level_box := reads_levelWord word token
  have ids : (box (idPair fun c => c = ':' || c = '/')).run
      (boxes [p ++ c :: t, f ++ ':' :: n] (grouped gs tail)) =
        some ((p, t), boxes [f ++ ':' :: n] (grouped gs tail)) := by
    have separates : (c = ':' || c = '/' : Bool) = true := by simpa using separator
    have stops : isHexDigit c = false := by rcases separator with rfl | rfl <;> decide
    have other : c ≠ 'x' := by rcases separator with rfl | rfl <;> decide
    exact run_box_cons (reads_idPair process thread separates stops other) _ _ _
  have first_ids : idBoxes.run (boxes [p ++ c :: t, f ++ ':' :: n] (grouped gs tail)) =
      some ((p, t), boxes [f ++ ':' :: n] (grouped gs tail)) := by
    rw [idBoxes, run_first_cons, ids]
    rfl
  have no_feed : '\n' ∉ ' ' :: grouped gs tail := by simpa using no_feed_grouped one_line
  have some_group : gs ≠ [] := by
    rintro rfl
    contradiction
  have peeled : leadingBoxes 4 (' ' :: grouped gs tail) =
      ((gs.take 4).map Group.content, grouped (gs.drop 4) tail) :=
    leadingBoxes_space some_group one_line ends
  have enough : 2 ≤ ((gs.take 4).map Group.content).length := by simpa using two
  refine (run_bind_of_some (run_stampHead stamp _ _ _)).trans ?_
  refine (run_bind_of_some (run_box_cons level_box _ _ _)).trans ?_
  refine (run_bind_of_some (run_box_cons (reads_many name_box) _ _ _)).trans ?_
  refine (run_bind_of_some first_ids).trans ?_
  refine (run_bind_of_some (run_boxed_of_reads (reads_nameAndDigits function number) _)).trans ?_
  refine (run_bind_of_some (run_restOfLine no_feed)).trans ?_
  rw [token]
  simp only [peeled, guard, if_pos enough, List.map_map]
  rfl

end Read

section Detect

variable {s w name p t f n tail : Text} {c : Char} {level : Level} {gs : List Group}

theorem positional_eq_none {b m : Text} {bs : List Text} (stamp : Stamp.isStamp s = true)
    (word : IsContent w) (name_box : IsContent name) (third : IsContent b) (inside : c ∈ b)
    (no_digit : isDigit c = false) :
    positional.run (stampedLine s (w :: name :: b :: bs) m) = none := by
  cases run : positional.run (stampedLine s (w :: name :: b :: bs) m) with
  | none => rfl
  | some found =>
    have run := (run_bind_of_some (run_stampHead stamp _ _ _)).symm.trans run
    obtain ⟨_, r₁, first, run⟩ := run_bind_eq_some.1 run
    obtain ⟨_, r₂, second, run⟩ := run_bind_eq_some.1 run
    obtain ⟨_, r₃, last, -⟩ := run_bind_eq_some.1 run
    obtain ⟨-, rfl⟩ := content_of_run takes_nameWithDigits (fun _ h => h.2) word first
    have closed : ∀ u, u ≠ [] ∧ Only isDigit u → ']' ∉ u := fun u h => h.2.notMem (by decide)
    obtain ⟨-, rfl⟩ := content_of_run takes_digits closed name_box second
    obtain ⟨⟨-, digits⟩, -⟩ := content_of_run takes_digits closed third last
    exact absurd inside (digits.notMem no_digit)

def inId (c : Char) : Bool := isHexDigit c || c = 'x'

theorem IsId.only (h : IsId p) : p ≠ [] ∧ Only inId p := by
  obtain ⟨number, nonempty, only, spelled⟩ := h
  have inside : Only inId number := only.imp fun d hex => by simp [inId, hex]
  rcases spelled with rfl | rfl
  · exact ⟨nonempty, inside⟩
  · have mark : Only inId "0x".toList := by simp [Only, inId, isHexDigit]
    exact ⟨List.append_ne_nil_of_right_ne_nil _ nonempty, mark.append inside⟩

theorem not_isBlank_of_inId (h : inId c = true) : isBlank c = false := by
  by_cases digit : c.isDigit = true
  · exact not_isBlank_of_isDigit (isDigit_of_ascii digit)
  · apply not_isBlank_of_isAlpha
    by_cases mark : c = 'x'
    · subst mark
      decide
    · simp [inId, isHexDigit, digit, mark, Char.isAlpha, Char.isLower, Char.isUpper, Char.le_def,
        UInt32.le_iff_toNat_le] at h ⊢
      omega

theorem nonblank?_of_isId (h : IsId p) : nonblank? p = some p := by
  obtain ⟨nonempty, only⟩ := h.only
  exact nonblank?_of_trimmed nonempty (trimmed_of_sharp fun d hd => not_isBlank_of_inId (only d hd))

/-- A line with annotated boxes is read back as what it was written from. The first four boxes have
one meaning each, and the message is the first of them that is neither a marker nor a placeholder,
or else what follows them. -/
theorem detect_annotated (stamp : Stamp.isStamp s = true) (word : Only Char.isAlpha w)
    (token : Level.ofToken? w = some level) (name_box : IsContent name) (process : IsId p)
    (thread : IsId t) (separator : c = ':' ∨ c = '/') (function : IsName f) (number : IsDecimal n)
    (two : 2 ≤ gs.length) (one_line : '\n' ∉ tail) (ends : gs.length < 4 → NoGroup tail) :
    ∃ as : List Annotation,
      (∀ as', List.Forall₂ (fun g a => Annotation.Means g.content a) (gs.take 4) as' ↔ as' = as) ∧
      detect (stampedLine s [w, name, p ++ c :: t, f ++ ':' :: n] (grouped gs tail)) =
        { layout := .structured, level := some level, moduleName := nonblank? name,
          thread := some t, process := some p, sourceFile := nonblank? f,
          sourceLine := sourceLine? n,
          message := (as.findSome? Annotation.literal?).getD (trim (grouped (gs.drop 4) tail)),
          extras := as.flatMap Annotation.extras } := by
  refine ⟨(gs.take 4).map fun g => Annotation.of g.content, fun as' => ?_, ?_⟩
  · simp only [means_iff]
    rw [← List.forall₂_map_left_iff, List.forall₂_eq_eq_eq, eq_comm]
  · apply detect_of_read? (l := .structured) (by decide) (opens_stampedLine stamp _ _)
    · have run := run_structured stamp word token name_box process thread separator function number
        two one_line ends
      rw [Layout.read?, result?, run, Option.map_some, Fields.ofParts]
      simp [lineNumber?_eq number, nonblank?_of_isId process, nonblank?_of_isId thread]
    · intro l' pair
      have positional : l' = .positional := by simpa [Layout.overlaps] using pair
      have no_digit : isDigit c = false := by rcases separator with rfl | rfl <;> decide
      have level_box : IsContent w := word.notMem (by decide)
      have third : IsContent (p ++ c :: t) := by
        have close : ']' ≠ c := by rcases separator with rfl | rfl <;> decide
        have outside : ']' ∉ p := process.only.2.notMem (by decide)
        have outside' : ']' ∉ t := thread.only.2.notMem (by decide)
        simp [IsContent, outside, close, outside']
      rw [positional, Layout.read?, result?, positional_eq_none stamp level_box name_box third
        (by simp) no_digit]
      rfl

theorem detect_annotated_five_groups :
    let line := "2025-03-01 08:00:00.250 [Warn] [ ] [0x1A/ff] [run:4294967296] ".toList ++
      "[ACC:team /uſer= al ] [N/A]  [ frame dropped ][userid:7] [proj:x] tail ".toList
    detect line =
      { layout := .structured, level := some .warning, moduleName := none,
        thread := some "ff".toList, process := some "0x1A".toList,
        sourceFile := some "run".toList, sourceLine := none, message := "frame dropped".toList,
        extras := [("account".toList, "team".toList), ("user".toList, "al".toList),
          ("user_id".toList, "7".toList)] } := by
  intro line
  have stamp : Stamp.isStamp "2025-03-01 08:00:00.250".toList = true := by decide +kernel
  have word : Only Char.isAlpha "Warn".toList := by simp [Only]
  have token : Level.ofToken? "Warn".toList = some .warning := by decide +kernel
  have name : IsContent " ".toList := by simp [IsContent]
  have process : IsId "0x1A".toList :=
    ⟨"1A".toList, by simp, by simp [Only, isHexDigit], .inr rfl⟩
  have thread : IsId "ff".toList := ⟨"ff".toList, by simp, by simp [Only, isHexDigit], .inl rfl⟩
  have function : IsName "run".toList := by simp [IsName]
  have number : IsDecimal "4294967296".toList := by simp [IsDecimal, Only]
  let gs : List Group := [
    ⟨[], "ACC:team /uſer= al ".toList, by simp [Only], by simp [IsContent], by simp⟩,
    ⟨" ".toList, "N/A".toList, by simp [Only]; decide, by simp [IsContent], by simp⟩,
    ⟨"  ".toList, " frame dropped ".toList, by simp [Only]; decide, by simp [IsContent], by simp⟩,
    ⟨[], "userid:7".toList, by simp [Only], by simp [IsContent], by simp⟩,
    ⟨" ".toList, "proj:x".toList, by simp [Only]; decide, by simp [IsContent], by simp⟩]
  have two : 2 ≤ gs.length := by decide
  have one_line : '\n' ∉ " tail ".toList := by decide
  obtain ⟨as, unique, read⟩ := detect_annotated stamp word token name process thread (.inr rfl)
    function number two one_line (fun _ => noGroup_of_notMem (by decide))
  have meant : [.account "team".toList "al".toList, .placeholder, .literal "frame dropped".toList,
      .userId "7".toList] = as := by
    have account : Annotation.of "ACC:team /uſer= al ".toList =
        .account "team".toList "al".toList := by decide +kernel
    have placeholder : Annotation.of "N/A".toList = .placeholder := by decide +kernel
    have literal : Annotation.of " frame dropped ".toList = .literal "frame dropped".toList := by
      decide +kernel
    have userId : Annotation.of "userid:7".toList = .userId "7".toList := by decide +kernel
    exact (unique _).1 (.cons (means_iff.2 account) (.cons (means_iff.2 placeholder)
      (.cons (means_iff.2 literal) (.cons (means_iff.2 userId) .nil))))
  subst meant
  have same : stampedLine "2025-03-01 08:00:00.250".toList ["Warn".toList, " ".toList,
      "0x1A".toList ++ '/' :: "ff".toList, "run".toList ++ ':' :: "4294967296".toList]
      (grouped gs " tail ".toList) = line := by
    decide +kernel
  rw [← same, read]
  decide +kernel

end Detect

end Logbook.Line
