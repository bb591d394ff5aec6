import Logbook.Proofs.Rendering

/-! Lines of the browser layout, written out from their parts. A stamp in a box at the very end is
taken off the message, and only that one: whatever else looks like a stamp stays in it. -/

namespace Logbook

namespace Line

open Scan Text

def IsBrowserTime (time : Text) : Prop :=
  ∃ clock, browserClock.Fits clock ∧ (time = clock ∨ ∃ ds, IsNumeral ds ∧ time = clock ++ '.' :: ds)

structure Origin where
  process : Text
  thread : Text
  time : Text
  token : Text
  file : Text
  number : Option Text
  is_process : IsNumeral process
  is_thread : IsNumeral thread
  is_time : IsBrowserTime time
  token_ne : token ≠ []
  is_token : Only inToken token
  file_ne : file ≠ []
  file_trimmed : Trimmed file
  is_file : Only inFile file
  is_number : ∀ n ∈ number, IsDecimal n

namespace Origin

def numberText (number : Option Text) : Text := number.elim [] fun n => '(' :: (n ++ [')'])

def text (o : Origin) : Text :=
  o.process ++ ':' :: (o.thread ++ ':' :: (o.time ++ ':' :: (o.token ++ ':' ::
    (o.file ++ numberText o.number))))

def fields (o : Origin) (message : Text) (stamp : Option Text) : Fields where
  layout := .browser
  level := Level.ofToken? o.token
  moduleName := none
  thread := some o.thread
  process := some o.process
  sourceFile := some o.file
  sourceLine := o.number.bind sourceLine?
  message := message
  extras := ("browser_time".toList, o.time) ::
    (stamp.map fun s => ("trailing_timestamp".toList, s)).toList

end Origin

section Read

variable {o : Origin} {time m r ts : Text}

theorem run_browserTime (h : IsBrowserTime time) (r : Text) :
    browserTime.run (time ++ ':' :: r) = some (time, ':' :: r) := by
  have fixed : browserClock.IsFixed := by decide
  obtain ⟨clock, fits, rfl | ⟨ds, number, rfl⟩⟩ := h
  · have no_fraction : (do char '.'; let ds ← digits; return '.' :: ds : Scan Text).run (':' :: r) =
        none := run_bind_of_none (run_char_of_ne (by decide) r)
    rw [browserTime, run_bind_of_some (Stamp.Pattern.run_of_fits fixed fits _),
      run_bind_of_some (run_perhaps_of_none no_fraction)]
    simp
  · have fraction : (do char '.'; let ds ← digits; return '.' :: ds : Scan Text).run
        ('.' :: (ds ++ ':' :: r)) = some ('.' :: ds, ':' :: r) := by
      rw [run_bind_of_some (run_char_cons '.' _),
        run_bind_of_some (run_digits number (stops_cons (by decide) r))]
      rfl
    rw [List.append_assoc, browserTime, run_bind_of_some (Stamp.Pattern.run_of_fits fixed fits _),
      List.cons_append, run_bind_of_some (run_perhaps_of_some fraction)]
    simp

theorem run_number {number : Option Text} (h : ∀ n ∈ number, IsDecimal n) (r : Text) :
    (perhaps enclosedDigits).run (Origin.numberText number ++ ']' :: r) =
      some (number, ']' :: r) := by
  refine run_perhaps_elim (run_bind_of_none (run_char_of_ne (by decide) r)) fun n hn => ?_
  rw [List.cons_append, List.append_assoc, List.singleton_append, enclosedDigits,
    run_bind_of_some (run_char_cons '(' _),
    run_bind_of_some (run_digits (h n hn).isNumeral (stops_cons (by decide) _))]
  exact run_bind_of_some (run_char_cons ')' _)

theorem stops_numberText (number : Option Text) (r : Text) :
    Stops inFile (Origin.numberText number ++ ']' :: r) := by
  cases number with
  | none => exact stops_cons (by decide) r
  | some n => exact stops_cons (by decide) _

theorem reads_origin (o : Origin) :
    Reads browserBox o.text (o.process, o.thread, o.time, o.token, o.file, o.number) := by
  intro r
  simp only [Origin.text, List.append_assoc, List.cons_append]
  rw [browserBox, run_bind_of_some (run_digits o.is_process (stops_cons (by decide) _)),
    run_bind_of_some (run_char_cons ':' _),
    run_bind_of_some (run_digits o.is_thread (stops_cons (by decide) _)),
    run_bind_of_some (run_char_cons ':' _), run_bind_of_some (run_browserTime o.is_time _),
    run_bind_of_some (run_char_cons ':' _),
    run_bind_of_some (run_many1 o.token_ne o.is_token (stops_cons (by decide) _)),
    run_bind_of_some (run_char_cons ':' _),
    run_bind_of_some (run_many1 o.file_ne o.is_file (stops_numberText o.number r)),
    run_bind_of_some (run_number o.is_number r)]
  rfl

end Read

section Ending

variable {t before content m ts : Text}

theorem lastBox?_append (before : Text) (h : '[' ∉ content) :
    lastBox? (before ++ '[' :: (content ++ [']'])) = some (before, content) := by
  have absent : '[' ∉ content.reverse := by simpa using h
  have cut := cut?_append absent before.reverse
  simp [lastBox?, cut]

theorem eq_of_lastBox? (h : lastBox? t = some (before, content)) :
    t = before ++ '[' :: (content ++ [']']) := by
  unfold lastBox? at h
  split at h
  · next r same =>
    obtain ⟨⟨a, b⟩, cut, parts⟩ := Option.map_eq_some_iff.1 h
    cases parts
    rw [← List.reverse_reverse t, same, eq_of_cut? cut]
    simp
  · contradiction

theorem chars_of_isStamp (h : Stamp.isStamp ts = true) :
    Opens isDigit ts ∧ Only isStampChar ts := by
  obtain ⟨w, split, chars⟩ := takes_stamp (Stamp.run_scan h [])
  obtain rfl : ts = w := List.append_cancel_right split
  exact chars

theorem notMem_of_isStamp (h : Stamp.isStamp ts = true) : '[' ∉ ts :=
  (chars_of_isStamp h).2.notMem (by decide)

def EndsInStamp (t : Text) : Prop :=
  ∃ before ts, Stamp.isStamp ts = true ∧ t = before ++ '[' :: (ts ++ [']'])

theorem endsInStamp_iff : EndsInStamp t ↔ (lastBox? t).any (Stamp.isStamp ·.2) = true := by
  rw [Option.any_eq_true]
  constructor
  · rintro ⟨before, ts, stamp, rfl⟩
    exact ⟨_, lastBox?_append before (notMem_of_isStamp stamp), stamp⟩
  · rintro ⟨⟨before, ts⟩, last, stamp⟩
    exact ⟨before, ts, stamp, eq_of_lastBox? last⟩

instance (t : Text) : Decidable (EndsInStamp t) := decidable_of_iff' _ endsInStamp_iff

theorem messageAndStamp_append (stamp : Stamp.isStamp ts = true) (trimmed : Trimmed m) :
    messageAndStamp ((m ++ ' ' :: '[' :: (ts ++ [']'])).dropWhile isBlank) = (m, some ts) := by
  have bracket : Stops isBlank ('[' :: (ts ++ [']'])) := stops_cons (by decide) _
  have split : (m ++ ' ' :: '[' :: (ts ++ [']'])).dropWhile isBlank =
      (m ++ [' ']).dropWhile isBlank ++ '[' :: (ts ++ [']']) := by
    rw [← bracket.dropWhile_append, List.append_assoc]
    rfl
  have body : ∀ w : Text, trimEnd (w ++ '[' :: (ts ++ [']'])) = w ++ '[' :: (ts ++ [']']) := by
    intro w
    rw [← List.cons_append, ← List.append_assoc, trimEnd_concat (by decide)]
  have before : trimEnd ((m ++ [' ']).dropWhile isBlank) = m :=
    trim_concat_blank (by decide) trimmed
  rw [split, messageAndStamp, body]
  simp only [lastBox?_append _ (notMem_of_isStamp stamp), stamp, before, if_true]

theorem messageAndStamp_of_not (h : ¬ EndsInStamp m) (trimmed : Trimmed m) :
    messageAndStamp (m.dropWhile isBlank) = (m, none) := by
  have body : trimEnd (m.dropWhile isBlank) = m := trimmed.trim_eq
  rw [endsInStamp_iff] at h
  rw [messageAndStamp, body]
  cases last : lastBox? m with
  | none => rfl
  | some parts =>
    have no_stamp : Stamp.isStamp parts.2 = false := by simpa [last] using h
    simp only [no_stamp, Bool.false_eq_true, if_false]

end Ending

section Detect

variable {o : Origin} {m rest : Text} {stamp : Option Text}

theorem run_browser (o : Origin) (one_line : '\n' ∉ m)
    (parts : messageAndStamp (rest.dropWhile isBlank) = (m, stamp)) :
    browser.run (boxes [o.text] rest) = some (o.fields m stamp, []) := by
  have all : (many fun _ => true).run (rest.dropWhile isBlank) =
      some (rest.dropWhile isBlank, []) := by
    simp [run_many_eq]
  have no_feed : m.all (· ≠ '\n') = true := by
    simpa [List.forall_mem_ne'] using one_line
  have lines : o.number.bind lineNumber? = o.number.bind sourceLine? :=
    Option.bind_congr fun n hn => lineNumber?_eq (o.is_number n hn)
  refine (run_bind_of_some (run_box_last (reads_origin o) _)).trans ?_
  refine (run_bind_of_some all).trans ?_
  simp only [parts, guard, no_feed, if_true]
  simp [Fields.ofParts, Origin.fields, lines, nonblank?_of_isNumeral o.is_process,
    nonblank?_of_isNumeral o.is_thread, nonblank?_of_trimmed o.file_ne o.file_trimmed]

theorem detect_origin (one_line : '\n' ∉ m)
    (parts : messageAndStamp (rest.dropWhile isBlank) = (m, stamp)) :
    detect (boxes [o.text] rest) = o.fields m stamp := by
  apply detect_of_clean (l := .browser) (by decide) rfl ?_ (by simp [Layout.overlaps])
  rw [Layout.read?, result?, run_browser o one_line parts]
  rfl

/-- A line from a browser is read back as what it was written from. A stamp in a box after the
message is none of it, even where the message itself ends in one; without that box a message that
does not end in a stamp is read whole. -/
theorem detect_browser (o : Origin) {m : Text} (trimmed : Trimmed m) (one_line : '\n' ∉ m) :
    (∀ ts, Stamp.isStamp ts = true →
      detect (boxes [o.text] (m ++ ' ' :: '[' :: (ts ++ [']']))) = o.fields m (some ts)) ∧
    (¬ EndsInStamp m → detect (boxes [o.text] m) = o.fields m none) :=
  ⟨fun _ stamp => detect_origin one_line (messageAndStamp_append stamp trimmed),
    fun plain => detect_origin one_line (messageAndStamp_of_not plain trimmed)⟩

theorem detect_browser_two_stamps :
    let box := "1:2:0115/103000.123:VERBOSE1:so:cket.cc(007)".toList
    let m := "read [x] [10:00:00.000]".toList
    let ts := "2025-01-15 10:30:00.123".toList
    let m' := "read [x]".toList
    let f : Fields :=
      { layout := .browser, level := some .trace, moduleName := none, thread := some "2".toList,
        process := some "1".toList, sourceFile := some "so:cket.cc".toList, sourceLine := some 7,
        message := m, extras := [("browser_time".toList, "0115/103000.123".toList),
          ("trailing_timestamp".toList, ts)] }
    Trimmed m ∧ '\n' ∉ m ∧ EndsInStamp m ∧ Stamp.isStamp ts = true ∧
    detect (boxes [box] (m ++ ' ' :: '[' :: (ts ++ [']']))) = f ∧
    Trimmed m' ∧ '\n' ∉ m' ∧ ¬ EndsInStamp m' ∧
    detect (boxes [box] m') = { f with
      message := m', extras := [("browser_time".toList, "0115/103000.123".toList)] } := by
  intro box m ts m' f
  have clock : browserClock.scan.run "0115/103000".toList = some ("0115/103000".toList, []) := by
    decide +kernel
  have number {n : Text} (h : IsDecimal n) : IsNumeral n := h.isNumeral
  let o : Origin := {
    process := "1".toList
    thread := "2".toList
    time := "0115/103000.123".toList
    token := "VERBOSE1".toList
    file := "so:cket.cc".toList
    number := some "007".toList
    is_process := number (by simp [IsDecimal, Only])
    is_thread := number (by simp [IsDecimal, Only])
    is_time := ⟨"0115/103000".toList, (Stamp.Pattern.fits_of_run clock).2,
      .inr ⟨"123".toList, number (by simp [IsDecimal, Only]), rfl⟩⟩
    token_ne := by simp
    is_token := by simp [Only, inToken]
    file_ne := by simp
    file_trimmed := by simp [Trimmed]; decide
    is_file := by simp [Only, inFile]
    is_number := by simp [IsDecimal, Only] }
  have same : o.text = box := rfl
  have level : Level.ofToken? "VERBOSE1".toList = some .trace := by decide +kernel
  have line : sourceLine? "007".toList = some 7 := by decide +kernel
  have trimmed : Trimmed m := by simp [m, Trimmed]; decide
  have trimmed' : Trimmed m' := by simp [m', Trimmed]; decide
  have one_line : '\n' ∉ m := by simp [m]
  have one_line' : '\n' ∉ m' := by simp [m']
  have stamp : Stamp.isStamp ts = true := by decide +kernel
  have ends : EndsInStamp m := by rw [endsInStamp_iff]; decide +kernel
  have plain : ¬ EndsInStamp m' := by rw [endsInStamp_iff]; decide +kernel
  have read := (detect_browser o trimmed one_line).1 ts stamp
  have read' := (detect_browser o trimmed' one_line').2 plain
  rw [same] at read read'
  refine ⟨trimmed, one_line, ends, stamp, read.trans ?_, trimmed', one_line', plain,
    read'.trans ?_⟩ <;>
  · rw [Origin.fields, show o.number.bind sourceLine? = some 7 from line, level]
    rfl

end Detect

end Line
end Logbook
