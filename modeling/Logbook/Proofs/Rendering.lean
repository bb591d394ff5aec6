import Logbook.Proofs.Boxes

/-! Lines written out from their fields. Where a line is built from parts that cannot be mistaken
for its brackets, the layout and the parts are found again, whichever layouts are tried before. -/

namespace Logbook.Line

open Scan Text

inductive Renders : Text → Fields → Prop where
  | tagged {s name n t p m : Text} {c : Char} {level : Level} (stamp : Stamp.isStamp s = true)
      (is_name : IsName name) (number : IsDecimal n) (letter : Level.ofLetter? c = some level)
      (thread_ne : t ≠ []) (thread : IsContent t) (process_ne : p ≠ []) (process : IsContent p)
      (one_line : '\n' ∉ m) :
      Renders (stampedLine s [name ++ ':' :: n, [c], 'T' :: ':' :: t, 'P' :: ':' :: p] m)
        { layout := .tagged, level := some level, moduleName := nonblank? name,
          thread := nonblank? t, process := nonblank? p, sourceFile := none,
          sourceLine := sourceLine? n, message := trim m, extras := [] }
  | minimal {s p t m : Text} (stamp : Stamp.isStamp s = true) (process : IsId p) (thread : IsId t)
      (one_line : '\n' ∉ m) :
      Renders (stampedLine s [[], [], p ++ ':' :: t] m)
        { layout := .minimal, level := none, moduleName := none, thread := nonblank? t,
          process := nonblank? p, sourceFile := none, sourceLine := none, message := trim m,
          extras := [] }
  | linux {s name f n x y t m : Text} {c : Char} {level : Level} (stamp : Stamp.isStamp s = true)
      (letter : Level.ofLetter? c = some level) (name_box : IsContent name)
      (function : IsName f) (number : IsDecimal n) (unused : IsContent x) (no_colon : ':' ∉ x)
      (unused' : IsContent y) (thread : IsContent t) (one_line : '\n' ∉ m) :
      Renders (stampedLine s [[c], name, f ++ ':' :: n, x, y, t] m)
        { layout := .linux, level := some level, moduleName := nonblank? name,
          thread := nonblank? t, process := none, sourceFile := nonblank? f,
          sourceLine := sourceLine? n, message := trim m, extras := [] }
  | android {s p t name w m : Text} {level : Level} (stamp : Stamp.isStamp s = true)
      (process : IsNumeral p) (thread : IsNumeral t) (name_box : IsContent name)
      (word : Only Char.isAlpha w) (token : Level.ofToken? w = some level) (one_line : '\n' ∉ m) :
      Renders (stampedLine s [p ++ ':' :: t, name] ('-' :: ' ' :: boxes [w] ('-' :: ' ' :: m)))
        { layout := .android, level := some level, moduleName := nonblank? name,
          thread := nonblank? t, process := nonblank? p, sourceFile := none, sourceLine := none,
          message := trim m, extras := [] }
  | logcat {day time p t tag m : Text} {c : Char} (date : monthDayPattern.Fits day)
      (clock : logcatTime.Fits time) (process : IsNumeral p) (thread : IsNumeral t)
      (letter : c ∈ logcatLetters) (no_colon : ':' ∉ tag) (one_line : '\n' ∉ m) :
      Renders (day ++ ' ' :: (time ++ ' ' :: (p ++ ' ' :: (t ++ ' ' :: c :: ' ' ::
          (tag ++ ':' :: ' ' :: m)))))
        { layout := .logcat, level := Level.ofLetter? c, moduleName := nonblank? tag,
          thread := nonblank? t, process := nonblank? p, sourceFile := none, sourceLine := none,
          message := trimEnd m, extras := [] }

section Read

variable {s name f n x y p t w m : Text} {c : Char} {level : Level}

theorem isAlpha_of_ofLetter? (h : Level.ofLetter? c = some level) : c.isAlpha = true := by
  by_contra other
  have same : c.toUpper = c := by
    have upper : ¬ (c.val ≥ ('a' : Char).val ∧ c.val ≤ ('z' : Char).val) := by
      intro bounds
      have lower : c.isLower = true := by simpa [Char.isLower] using bounds
      simp [Char.isAlpha, lower] at other
    rw [Char.toUpper, dif_neg upper]
  rw [Level.ofLetter?, same] at h
  split at h <;> contradiction

theorem reads_levelWord (word : Only Char.isAlpha w) (token : Level.ofToken? w = some level) :
    Reads (many1 Char.isAlpha) w w := by
  have nonempty : w ≠ [] := by
    rintro rfl
    have nothing : Level.ofToken? [] = none := by decide
    rw [nothing] at token
    contradiction
  exact reads_many1 nonempty word (by decide)

theorem lineNumber?_eq (h : IsDecimal n) : lineNumber? n = sourceLine? n := by
  have sharp : ∀ d ∈ n, isBlank d = false :=
    fun d hd => not_isBlank_of_isDigit (isDigit_of_ascii (h.2 d hd))
  rw [lineNumber?, (trimmed_of_sharp sharp).trim_eq, Numeral.read?_eq_ite h.1 h.2]
  rfl

theorem run_tagged (stamp : Stamp.isStamp s = true) (is_name : IsName name) (number : IsDecimal n)
    (letter : Level.ofLetter? c = some level) (thread_ne : t ≠ []) (thread : IsContent t)
    (process_ne : p ≠ []) (process : IsContent p) (one_line : '\n' ∉ m) :
    tagged.run (stampedLine s [name ++ ':' :: n, [c], 'T' :: ':' :: t, 'P' :: ':' :: p] m) =
      some (.ofParts .tagged (some level) (trim m)
        { moduleName := some name, sourceLine := some n, thread := some t,
          process := some p } [], []) := by
  have is_letter := isAlpha_of_ofLetter? letter
  refine (run_bind_of_some (run_stampHead stamp _ _ _)).trans ?_
  refine (run_bind_of_some (run_box_cons (reads_nameAndDigits is_name number) _ _ _)).trans ?_
  refine (run_bind_of_some (run_box_cons (reads_satisfy is_letter) _ _ _)).trans ?_
  refine (run_bind_of_some (run_box_cons (reads_marked (by simp) thread_ne thread) _ _ _)).trans ?_
  refine (run_bind_of_some (run_box_last (reads_marked (by simp) process_ne process) _)).trans ?_
  refine (run_bind_of_some (run_message_dropWhile one_line)).trans ?_
  rw [letter]
  rfl

theorem run_minimal (stamp : Stamp.isStamp s = true) (process : IsId p) (thread : IsId t)
    (one_line : '\n' ∉ m) :
    minimal.run (stampedLine s [[], [], p ++ ':' :: t] m) =
      some (.ofParts .minimal none (trim m) { process := some p, thread := some t } [], []) := by
  have ids : Reads (idPair (· = ':')) (p ++ ':' :: t) (p, t) :=
    reads_idPair process thread (by decide) (by decide) (by decide)
  refine (run_bind_of_some (run_stampHead stamp _ _ _)).trans ?_
  refine (run_bind_of_some (run_box_cons reads_blanks _ _ _)).trans ?_
  refine (run_bind_of_some (run_box_cons reads_blanks _ _ _)).trans ?_
  refine (run_bind_of_some (run_box_last ids _)).trans ?_
  exact run_bind_of_some (run_message_dropWhile one_line)

theorem run_linux (stamp : Stamp.isStamp s = true) (letter : Level.ofLetter? c = some level)
    (name_box : IsContent name) (function : IsName f) (number : IsDecimal n) (unused : IsContent x)
    (unused' : IsContent y) (thread : IsContent t) (one_line : '\n' ∉ m) :
    linux.run (stampedLine s [[c], name, f ++ ':' :: n, x, y, t] m) =
      some (.ofParts .linux (some level) (trim m)
        { moduleName := some name, sourceFile := some f, sourceLine := some n,
          thread := some t } [], []) := by
  have is_letter := isAlpha_of_ofLetter? letter
  refine (run_bind_of_some (run_stampHead stamp _ _ _)).trans ?_
  refine (run_bind_of_some (run_box_cons (reads_satisfy is_letter) _ _ _)).trans ?_
  refine (run_bind_of_some (run_box_cons (reads_many name_box) _ _ _)).trans ?_
  refine (run_bind_of_some (run_box_cons (reads_nameAndDigits function number) _ _ _)).trans ?_
  refine (run_bind_of_some (run_box_cons (reads_many unused) _ _ _)).trans ?_
  refine (run_bind_of_some (run_box_cons (reads_many unused') _ _ _)).trans ?_
  refine (run_bind_of_some (run_box_last (reads_many thread) _)).trans ?_
  refine (run_bind_of_some (run_message_dropWhile one_line)).trans ?_
  rw [letter]
  rfl

theorem run_android (stamp : Stamp.isStamp s = true) (process : IsNumeral p)
    (thread : IsNumeral t) (name_box : IsContent name) (word : Only Char.isAlpha w)
    (token : Level.ofToken? w = some level) (one_line : '\n' ∉ m) :
    android.run (stampedLine s [p ++ ':' :: t, name]
        ('-' :: ' ' :: boxes [w] ('-' :: ' ' :: m))) =
      some (.ofParts .android (some level) (trim m)
        { moduleName := some name, process := some p, thread := some t } [], []) := by
  have no_feed : '\n' ∉ ' ' :: m := by simpa using one_line
  have trimmed : trim (' ' :: m) = trim m := by
    rw [← trim_dropWhile, List.dropWhile_cons_of_pos (by decide), trim_dropWhile]
  refine (run_bind_of_some (run_stampHead stamp _ _ _)).trans ?_
  refine (run_bind_of_some (run_box_cons (reads_numerals process thread) _ _ _)).trans ?_
  refine (run_bind_of_some (run_box_last (reads_many name_box) _)).trans ?_
  refine (run_bind_of_some (run_char_cons '-' _)).trans ?_
  refine (run_bind_of_some (run_blanks _)).trans ?_
  refine (run_bind_of_some (run_box_last (reads_levelWord word token) _)).trans ?_
  refine (run_bind_of_some (run_char_cons '-' _)).trans ?_
  refine (run_bind_of_some (run_message no_feed)).trans ?_
  rw [token, trimmed]
  rfl

theorem run_blanks1_dropWhile (t : Text) :
    blanks1.run (' ' :: t) = some ((), t.dropWhile isBlank) := by
  have front : (' ' :: t).takeWhile isBlank = ' ' :: t.takeWhile isBlank :=
    List.takeWhile_cons_of_pos (by decide)
  have rest : (' ' :: t).dropWhile isBlank = t.dropWhile isBlank :=
    List.dropWhile_cons_of_pos (by decide)
  have run : (many1 isBlank).run (' ' :: t) =
      some (' ' :: t.takeWhile isBlank, t.dropWhile isBlank) := by
    rw [run_many1_eq, front, rest, if_neg (List.cons_ne_nil _ _)]
  rw [blanks1, run_bind_of_some run]
  rfl

theorem run_logcat {day time tag : Text} (date : monthDayPattern.Fits day)
    (clock : logcatTime.Fits time) (process : IsNumeral p) (thread : IsNumeral t)
    (letter : c ∈ logcatLetters) (no_colon : ':' ∉ tag) (one_line : '\n' ∉ m) :
    logcat.run (day ++ ' ' :: (time ++ ' ' :: (p ++ ' ' :: (t ++ ' ' :: c :: ' ' ::
        (tag ++ ':' :: ' ' :: m))))) =
      some (.ofParts .logcat (Level.ofLetter? c) (trimEnd m)
        { moduleName := some (tag.dropWhile isBlank), process := some p, thread := some t } [],
        []) := by
  have after_space : ∀ {w : Text} (r : Text), Opens isDigit w →
      blanks1.run (' ' :: (w ++ r)) = some ((), w ++ r) := by
    rintro _ r ⟨d, w, rfl, digit⟩
    exact run_blanks1 (by decide) (stops_cons (not_isBlank_of_isDigit digit) _)
  have opens_time : Opens isDigit time := clock.head (by decide)
  have opens_p : Opens isDigit p := process.2.opens process.1
  have opens_t : Opens isDigit t := thread.2.opens thread.1
  have sharp : isBlank c = false := by
    have all : logcatLetters.all (!isBlank ·) = true := by decide
    simpa using List.all_eq_true.1 all c letter
  have colon : Stops isBlank (':' :: ' ' :: m) := stops_cons (by decide) _
  have in_tag : ∀ d ∈ tag.dropWhile isBlank, (d ≠ ':' : Bool) = true := by
    intro d hd
    have inside : d ∈ tag := (List.dropWhile_suffix _).subset hd
    simpa using ne_of_mem_of_not_mem inside no_colon
  refine (run_bind_of_some (run_perhaps_of_none
    (Stamp.Pattern.run_eq_none_of_clashes (by decide) date _))).trans ?_
  refine (run_bind_of_some (Stamp.Pattern.run_of_fits (by decide) date _)).trans ?_
  refine (run_bind_of_some (after_space _ opens_time)).trans ?_
  refine (run_bind_of_some (Stamp.Pattern.run_of_stops (p := logcatTime.dropLast)
    (q := .digits 3 6) (by decide) clock (stops_cons (by decide) _))).trans ?_
  refine (run_bind_of_some (after_space _ opens_p)).trans ?_
  refine (run_bind_of_some (run_digits process (stops_cons (by decide) _))).trans ?_
  refine (run_bind_of_some (after_space _ opens_t)).trans ?_
  refine (run_bind_of_some (run_digits thread (stops_cons (by decide) _))).trans ?_
  refine (run_bind_of_some (run_blanks1 (by decide) (stops_cons sharp _))).trans ?_
  refine (run_bind_of_some (run_satisfy_of_pos (List.elem_iff.2 letter) _)).trans ?_
  refine (run_bind_of_some (run_blanks1_dropWhile _)).trans ?_
  rw [colon.dropWhile_append]
  refine (run_bind_of_some (run_many in_tag (stops_cons (by decide) _))).trans ?_
  refine (run_bind_of_some (run_char_cons ':' _)).trans ?_
  refine (run_bind_of_some (rfl : blankAtMost1.run (' ' :: m) = some ((), m))).trans ?_
  exact run_bind_of_some (run_restOfLine one_line)

end Read

section Detect

variable {line : Text} {f : Fields} {l : Layout}

theorem not_isStray_of_isDigit {c : Char} (h : isDigit c = true) : isStray c = false := by
  have apart : ∀ z ∈ digitZeros, 0x9F < z ∧ (z + 10 ≤ 0xFEFF ∨ 0xFEFF < z) := by decide
  have code : 0x1F < c.toNat ∧ (c.toNat < 0x7F ∨ 0x9F < c.toNat) ∧ c.toNat ≠ 0xFEFF := by
    rcases isDigit_block h with ascii | ⟨large, z, hz, first, last⟩
    · rw [ascii_isDigit_iff] at ascii
      omega
    · have := apart z hz
      omega
  have not_mark : c ≠ '\uFEFF' := by
    rintro rfl
    exact code.2.2 rfl
  simp only [isStray, isControl, not_mark, decide_false, Bool.false_or, Bool.or_eq_false_iff,
    Bool.and_eq_false_iff, decide_eq_false_iff_not]
  omega

theorem takes_hexId : Takes hexId (Only inName) := by
  have digit : ∀ c, isHexDigit c = true → inName c = true := by
    intro c hex
    have close : c ≠ ']' := by rintro rfl; exact absurd hex (by decide)
    have colon : c ≠ ':' := by rintro rfl; exact absurd hex (by decide)
    simp [inName, close, colon]
  refine ((takes_word "0x".toList).perhaps.bind fun _ => (takes_many1 isHexDigit).bind fun _ =>
    takes_pure _).imp ?_
  rintro _ ⟨u, _, rfl, mark, v, _, rfl, ⟨-, only⟩, rfl⟩
  have front : Only inName u := by
    rcases mark with rfl | rfl <;> simp [Only, inName]
  rw [List.append_nil]
  exact front.append (only.imp digit)

theorem takes_hexPair {sep : Char → Bool} (inside : sep ']' = false) :
    Takes (idPair sep) fun w => ']' ∉ w := by
  refine (takes_hexId.bind fun _ => (takes_satisfy sep).bind fun _ => takes_hexId.bind fun _ =>
    takes_pure _).imp ?_
  rintro _ ⟨u, _, rfl, hu, v, _, rfl, ⟨-, hv⟩, w, _, rfl, hw, rfl⟩
  simp [hu.notMem (c := ']') (by decide), hv.notMem inside, hw.notMem (c := ']') (by decide)]

theorem content_of_run {α : Type} {sc : Scan α} {P : Text → Prop} {b r rest : Text}
    {bs : List Text} {a : α} (takes : Takes sc P) (inside : ∀ w, P w → ']' ∉ w)
    (content : IsContent b) (h : (box sc).run (boxes (b :: bs) rest) = some (a, r)) :
    P b ∧ r = (boxes bs rest).dropWhile isBlank := by
  obtain ⟨w, hw, whole⟩ := run_box takes inside h
  have same := (run_box_of_reads (reads_many content) (boxes bs rest)).symm.trans whole
  cases same
  exact ⟨hw, rfl⟩

/-- A line of the later layout is not one of the earlier: the ids cannot be in two boxes, and after
one box with ids there is one without a colon. -/
theorem structured_eq_none {s name f n x m : Text} {c : Char} {bs : List Text}
    (stamp : Stamp.isStamp s = true) (is_letter : c.isAlpha = true) (name_box : IsContent name)
    (function : IsName f) (number : IsDecimal n) (unused : IsContent x) (no_colon : ':' ∉ x) :
    structured.run (stampedLine s ([c] :: name :: (f ++ ':' :: n) :: x :: bs) m) = none := by
  cases run : structured.run (stampedLine s ([c] :: name :: (f ++ ':' :: n) :: x :: bs) m) with
  | none => rfl
  | some found =>
    have word : Reads (many1 Char.isAlpha) [c] [c] :=
      reads_many1 (by simp) (by simpa [Only] using is_letter) (by decide)
    have third : IsContent (f ++ ':' :: n) := by
      have digits : ']' ∉ n := number.2.notMem (by decide)
      simp [IsContent, function.2.1, digits]
    have run := (run_bind_of_some (run_stampHead stamp _ _ _)).symm.trans run
    have run := (run_bind_of_some (run_box_cons word _ _ _)).symm.trans run
    have run := (run_bind_of_some (run_box_cons (reads_many name_box) _ _ _)).symm.trans run
    obtain ⟨ids, r, ids_run, run⟩ := run_bind_eq_some.1 run
    obtain ⟨_, r', function_run, -⟩ := run_bind_eq_some.1 run
    obtain ⟨sc, hsc, ids_run⟩ := run_first_eq_some ids_run
    rw [List.mem_pair] at hsc
    rcases hsc with rfl | rfl
    · obtain ⟨-, rfl⟩ := content_of_run (takes_hexPair (by decide)) (fun _ h => h) third ids_run
      have fourth : (box nameAndDigits).run (boxes (x :: bs) m) = some (_, r'.dropWhile isBlank) :=
        (run_bind_of_some function_run).trans rfl
      obtain ⟨⟨colon, -⟩, -⟩ :=
        content_of_run takes_nameAndDigits (fun _ h => h.2) unused fourth
      exact absurd colon no_colon
    · obtain ⟨_, _, first, -⟩ := run_bind_eq_some.1 ids_run
      obtain ⟨only, -⟩ :=
        content_of_run takes_hexId (fun _ h => h.notMem (by decide)) third first
      exact absurd (List.mem_append_right f (List.mem_cons_self ..)) (only.notMem (by decide))

theorem dropWhile_isStray (opens : Opens isDigit line) : line.dropWhile isStray = line := by
  obtain ⟨c, r, rfl, digit⟩ := opens
  exact List.dropWhile_cons_of_neg (by simp [not_isStray_of_isDigit digit])

theorem detect_of_clean (hl : l ∈ Layout.cascade) (clean : line.dropWhile isStray = line)
    (read : l.read? line = some f)
    (alone : ∀ l', (l', l) ∈ Layout.overlaps → l'.read? line = none) : detect line = f := by
  obtain ⟨before, after, split⟩ := List.append_of_mem hl
  have none_before : ∀ l' ∈ before, l'.read? line = none := by
    intro l' early
    by_contra found
    have read' := Option.isSome_iff_ne_none.2 found
    have ordered : ∀ p ∈ Layout.overlaps, ¬ [p.2, p.1].Sublist Layout.cascade := by decide
    have nodup : Layout.cascade.Nodup := by decide
    have pair : [l', l].Sublist Layout.cascade := by
      rw [split]
      exact (List.singleton_sublist.2 early).append
        (List.singleton_sublist.2 (List.mem_cons_self ..))
    have ne : l' ≠ l := by simpa using pair.nodup nodup
    rcases overlaps_of_read? (pair.subset (by simp)) hl ne read' (by simp [read]) with
      forward | backward
    · exact found (alone l' forward)
    · exact ordered _ backward pair
  have first : Layout.cascade.findSome? (·.read? line) = some f :=
    List.findSome?_eq_some_iff.2 ⟨before, l, after, split, read, none_before⟩
  rw [detect, clean, detectIn, first, Option.getD_some]

theorem detect_of_read? (hl : l ∈ Layout.cascade) (opens : Opens isDigit line)
    (read : l.read? line = some f)
    (alone : ∀ l', (l', l) ∈ Layout.overlaps → l'.read? line = none) : detect line = f :=
  detect_of_clean hl (dropWhile_isStray opens) read alone

/-- A line that is written out from fields is read back as these, however its parts look. -/
theorem detect_rendered {line : Text} {f : Fields} (h : Renders line f) : detect line = f := by
  cases h with
  | tagged stamp is_name number letter thread_ne thread process_ne process one_line =>
    apply detect_of_read? (l := .tagged) (by decide) (opens_stampedLine stamp _ _) ?_
      (by simp [Layout.overlaps])
    rw [Layout.read?, result?, run_tagged stamp is_name number letter thread_ne thread process_ne
      process one_line, Option.map_some, Fields.ofParts]
    simp [lineNumber?_eq number]
  | minimal stamp process thread one_line =>
    apply detect_of_read? (l := .minimal) (by decide) (opens_stampedLine stamp _ _) ?_
      (by simp [Layout.overlaps])
    rw [Layout.read?, result?, run_minimal stamp process thread one_line]
    rfl
  | linux stamp letter name_box function number unused no_colon unused' thread one_line =>
    apply detect_of_read? (l := .linux) (by decide) (opens_stampedLine stamp _ _)
    · rw [Layout.read?, result?, run_linux stamp letter name_box function number unused unused'
        thread one_line, Option.map_some, Fields.ofParts]
      simp [lineNumber?_eq number]
    · intro l' pair
      have structured : l' = .structured := by simpa [Layout.overlaps] using pair
      rw [structured, Layout.read?, result?, structured_eq_none stamp (isAlpha_of_ofLetter? letter)
        name_box function number unused no_colon]
      rfl
  | android stamp process thread name_box word token one_line =>
    apply detect_of_read? (l := .android) (by decide) (opens_stampedLine stamp _ _) ?_
      (by simp [Layout.overlaps])
    rw [Layout.read?, result?, run_android stamp process thread name_box word token one_line]
    rfl
  | @logcat day time p t tag m c date clock process thread letter no_colon one_line =>
    have same : nonblank? (tag.dropWhile isBlank) = nonblank? tag := by
      rw [nonblank?, trim_dropWhile]
      rfl
    have digit : Opens isDigit day := date.head (by decide)
    apply detect_of_read? (l := .logcat) (by decide) (digit.append _) ?_ (by simp [Layout.overlaps])
    rw [Layout.read?, result?, run_logcat date clock process thread letter no_colon one_line,
      Option.map_some, Fields.ofParts]
    simp [same]

theorem detect_rendered_ids_alike :
    let line := "29/02/2024 23:59:58.007 [w] [ ] [ab:4294967296] [-] [] [ t ]  [x: y] ".toList
    let f : Fields := {
      layout := .linux
      level := some .warning
      moduleName := none
      thread := some "t".toList
      process := none
      sourceFile := some "ab".toList
      sourceLine := none
      message := "[x: y]".toList
      extras := [] }
    Renders line f ∧ detect line = f := by
  intro line f
  have stamp : Stamp.isStamp "29/02/2024 23:59:58.007".toList = true := by decide +kernel
  have letter : Level.ofLetter? 'w' = some .warning := by decide
  have name : IsContent " ".toList := by simp [IsContent]
  have function : IsName "ab".toList := by simp [IsName]
  have number : IsDecimal "4294967296".toList := by simp [IsDecimal, Only]
  have unused : IsContent "-".toList := by simp [IsContent]
  have no_colon : ':' ∉ "-".toList := by decide
  have unused' : IsContent [] := by simp [IsContent]
  have thread : IsContent " t ".toList := by simp [IsContent]
  have one_line : '\n' ∉ " [x: y] ".toList := by decide
  have rendered : Renders line f :=
    .linux stamp letter name function number unused no_colon unused' thread one_line
  exact ⟨rendered, detect_rendered rendered⟩

end Detect

end Logbook.Line
