import Logbook.Proofs.Openings

/-! A byte order mark in front of a text. Detection passes over it, but where lines are classed it
is a character like any other: with it the first line is content, whatever it was without. So the
mark goes unnoticed just in case the first line was content all along. -/

namespace Logbook

namespace Text

def byteOrderMark : Char := '\uFEFF'

theorem dropReturn_cons {c : Char} (h : c ≠ '\r') (t : Text) :
    dropReturn (c :: t) = c :: dropReturn t := by
  cases t with
  | nil => simp [dropReturn, h]
  | cons d t =>
    rw [dropReturn, dropReturn, List.getLast?_cons_cons]
    split <;> rfl

theorem lines_cons {c : Char} (feed : c ≠ '\n') (ret : c ≠ '\r') (t : Text) :
    lines (c :: t) = (c :: (lines t).headD []) :: (lines t).tail := by
  obtain ⟨piece, pieces, before, after⟩ := splitOn_cons feed t
  simp only [lines, before, after]
  -- A piece without a line feed after it is no line if it is empty; with the character it is one.
  cases pieces with
  | nil => by_cases empty : piece = [] <;> simp [Option.filter_some, empty]
  | cons next more => simp [List.dropLast_cons_cons, dropReturn_cons ret]

theorem head?_trim_cons {c : Char} (h : isBlank c = false) (t : Text) :
    (trim (c :: t)).head? = some c := by
  have front : trim (c :: t) <+: c :: t := trim_prefix (by simpa using h)
  cases kept : trim (c :: t) with
  | nil =>
    have blank := trim_eq_nil_iff.1 kept c (by simp)
    simp [h] at blank
  | cons d r =>
    rw [kept] at front
    rw [(List.cons_prefix_cons.1 front).1]
    rfl

end Text

open Text

namespace Stamp

theorem Kind.locate_cons (k : Kind) {c : Char} (h : Text.isDigit c = false) (t : Text) :
    k.pattern.locate (c :: t) = (k.pattern.locate t).map fun m => (c :: m.1, m.2) := by
  rw [Pattern.locate]
  split
  · next covered r here =>
    obtain ⟨whole, fits⟩ := Pattern.fits_of_run here
    obtain ⟨d, rest, rfl, digit⟩ := Kind.head_of_fits fits
    cases whole
    simp [h] at digit
  · rfl

theorem find?_cons {c : Char} (h : Text.isDigit c = false) (t : Text) :
    find? (c :: t) = (find? t).map fun s => { s with before := c :: s.before } := by
  rw [find?, find?, List.map_findSome?]
  congr 1
  funext k
  simp only [findKind?, Function.comp_apply, Kind.locate_cons k h, Option.map_map]
  rfl

end Stamp

namespace Line

theorem detect_cons {c : Char} (h : isStray c = true) (t : Text) : detect (c :: t) = detect t := by
  rw [detect, detect, List.dropWhile_cons_of_pos h]

end Line

namespace Entry

def markRaw (e : Entry) : Entry := { e with raw := byteOrderMark :: e.raw }

theorem markRaw_ofLine (id number : Nat) (line : Text) (stamp : Option Text)
    (instant : Option Instant) :
    (ofLine id ⟨number, line⟩ stamp instant).markRaw =
      ofLine id ⟨number, byteOrderMark :: line⟩ stamp instant := by
  rw [markRaw, ofLine, ofLine, Line.detect_cons (by decide)]

end Entry

namespace Assembler

theorem carries_markRaw : Carries (List.modifyHead Entry.markRaw) where
  opens es l stamp instant h := by
    obtain ⟨e, es, rfl⟩ := List.exists_cons_of_ne_nil h
    simp
  grows es e l := by
    cases es with
    | nil => exact ⟨[], e.markRaw, rfl, rfl⟩
    | cons first es => exact ⟨first.markRaw :: es, e, rfl, rfl⟩

theorem push_first {l : SourceLine} (h : trim l.text ≠ []) :
    let stamp := Stamp.find? l.text
    let resolved := (stamp.map (resolve none)).getD (none, none)
    (push {} l).finish = [Entry.ofLine 0 l (stamp.map Stamp.text) resolved.1] ∧
      (push {} l).anchor = resolved.2 ∧ (push {} l).Started := by
  have next : push {} l = openDraft { linesSeen := 1 } l (Stamp.find? l.text) := by
    rw [push, if_neg h]
    cases Stamp.find? l.text <;> rfl
  rw [next]
  refine ⟨?_, rfl, started_of_draft rfl⟩
  rw [finish_of_some rfl, Draft.toEntry_opened]
  rfl

theorem mirrors_mark {number : Nat} {line : Text} (h : trim line ≠ []) :
    Mirrors (List.modifyHead Entry.markRaw) (push {} ⟨number, byteOrderMark :: line⟩)
      (push {} ⟨number, line⟩) := by
  have visible : trim (byteOrderMark :: line) ≠ [] := by
    intro blank
    have first := head?_trim_cons (c := byteOrderMark) (by decide) line
    simp [blank] at first
  obtain ⟨finish, anchor, started⟩ := push_first (l := ⟨number, byteOrderMark :: line⟩) visible
  obtain ⟨finish', anchor', started'⟩ := push_first (l := ⟨number, line⟩) h
  -- What precedes a stamp in its line matters neither to its text nor to its instant.
  have resolved : (Stamp.find? (byteOrderMark :: line)).map (resolve none) =
      (Stamp.find? line).map (resolve none) := by
    rw [Stamp.find?_cons (by decide), Option.map_map]
    rfl
  have text : (Stamp.find? (byteOrderMark :: line)).map Stamp.text =
      (Stamp.find? line).map Stamp.text := by
    rw [Stamp.find?_cons (by decide), Option.map_map]
    rfl
  simp only [resolved, text] at finish anchor
  refine ⟨?_, by simp [finish'], anchor.trans anchor'.symm, started, started'⟩
  rw [finish, finish', ← Entry.markRaw_ofLine]
  rfl

end Assembler

theorem assemble_mark {number : Nat} {line : Text} (h : trim line ≠ []) (ls : List SourceLine) :
    assemble (⟨number, byteOrderMark :: line⟩ :: ls) =
      (assemble (⟨number, line⟩ :: ls)).modifyHead Entry.markRaw :=
  ((Assembler.mirrors_mark h).feed Assembler.carries_markRaw ls).finish_eq

namespace Source

def OpensWithContent (t : Text) : Prop :=
  ∃ first ∈ (Text.lines t).head?, ¬ IsBlankLine first ∧ ¬ IsHeaderLine 1 first

def later (ls : List Text) : List SourceLine :=
  ((ls.zipIdx 2).map fun p => SourceLine.mk p.2 p.1).filter fun l => classify l = .content

theorem lines_ofLines_cons (line : Text) (ls : List Text) :
    (ofLines (line :: ls)).lines =
      (if classify ⟨1, line⟩ = .content then [⟨1, line⟩] else []) ++ later ls := by
  by_cases h : classify ⟨1, line⟩ = .content <;> simp [ofLines, numbered, later, h]

theorem headers_ofLines_cons {line line' : Text} (h : classify ⟨1, line⟩ = .content)
    (h' : classify ⟨1, line'⟩ = .content) (ls : List Text) :
    (ofLines (line :: ls)).headers = (ofLines (line' :: ls)).headers := by
  simp [ofLines, numbered, h, h']

theorem classify_mark (number : Nat) (line : Text) :
    classify ⟨number, byteOrderMark :: line⟩ = .content := by
  rw [classify_eq_content_iff]
  constructor
  · intro blank
    exact absurd (blank byteOrderMark (by simp)) (by decide)
  · rintro ⟨-, name, member, opens⟩
    have letters : ∀ name ∈ headerNames, name.head? ≠ some byteOrderMark ∧ name ≠ [] := by decide
    have first := head?_trim_cons (c := byteOrderMark) (by decide) line
    obtain ⟨rest, whole⟩ := opens
    obtain ⟨c, name, rfl⟩ := List.exists_cons_of_ne_nil (letters name member).2
    rw [← whole] at first
    exact (letters _ member).1 first

theorem opensWithContent_iff {t : Text} :
    OpensWithContent t ↔ ∃ first more, Text.lines t = first :: more ∧
      classify ⟨1, first⟩ = .content := by
  simp only [OpensWithContent, classify_eq_content_iff, Option.mem_def, List.head?_eq_some_iff]
  constructor
  · rintro ⟨first, ⟨more, whole⟩, content⟩
    exact ⟨first, more, whole, content⟩
  · rintro ⟨first, more, whole, content⟩
    exact ⟨first, ⟨more, whole⟩, content⟩

end Source

open Source

/-- The mark goes unnoticed where the first line is content, but for the raw text of the first
entry. Everywhere else it makes content of the first line. -/
theorem read_after_mark (t : Text) :
    (OpensWithContent t →
      (ofText (byteOrderMark :: t)).headers = (ofText t).headers ∧
      (ofText (byteOrderMark :: t)).lines.map SourceLine.number =
        (ofText t).lines.map SourceLine.number ∧
      assemble (ofText (byteOrderMark :: t)).lines =
        (assemble (ofText t).lines).modifyHead fun e => { e with raw := byteOrderMark :: e.raw }) ∧
    (¬ OpensWithContent t →
      (ofText (byteOrderMark :: t)).lines.map SourceLine.number =
        1 :: (ofText t).lines.map SourceLine.number) := by
  have marked := lines_cons (c := byteOrderMark) (by decide) (by decide) t
  constructor
  · intro opens
    obtain ⟨first, more, before, content⟩ := opensWithContent_iff.1 opens
    have visible : trim first ≠ [] := fun blank =>
      (classify_eq_content_iff.1 content).1 (trim_eq_nil_iff.1 blank)
    have after : Text.lines (byteOrderMark :: t) = (byteOrderMark :: first) :: more := by
      rw [marked, before]
      rfl
    -- Both first lines are content with number 1, and what follows them is the same.
    rw [ofText, ofText, before, after]
    refine ⟨headers_ofLines_cons (classify_mark 1 first) content more, ?_, ?_⟩
    · simp [lines_ofLines_cons, classify_mark, content]
    · rw [lines_ofLines_cons, lines_ofLines_cons, if_pos (classify_mark 1 first), if_pos content]
      exact assemble_mark visible (later more)
  · intro opens
    rw [ofText, ofText, marked, lines_ofLines_cons, if_pos (classify_mark 1 _)]
    cases before : Text.lines t with
    | nil => rfl
    | cons first more =>
      have other : classify ⟨1, first⟩ ≠ .content := fun content =>
        opens (opensWithContent_iff.2 ⟨first, more, before, content⟩)
      simp [lines_ofLines_cons, other]

theorem read_after_mark_orphan :
    let t := "up 1\r\n10:00:00.500 x\n\tat y".toList
    let t' := "User: alice\n2025-01-01 10:00:00 up\n".toList
    OpensWithContent t ∧
      (ofText (byteOrderMark :: t)).lines.map SourceLine.number =
        (ofText t).lines.map SourceLine.number ∧
      assemble (ofText (byteOrderMark :: t)).lines =
        (assemble (ofText t).lines).modifyHead
          (fun e => { e with raw := byteOrderMark :: e.raw }) ∧
      ¬ OpensWithContent t' ∧
      (ofText (byteOrderMark :: t')).lines.map SourceLine.number =
        1 :: (ofText t').lines.map SourceLine.number := by
  intro t t'
  have opens : OpensWithContent t :=
    ⟨"up 1".toList, by decide +kernel, fun blank => absurd (blank 'u' (by simp)) (by decide),
      by decide +kernel⟩
  have closed : ¬ OpensWithContent t' := by
    rintro ⟨first, head, -, content⟩
    obtain rfl : "User: alice".toList = first := Option.some.inj head
    exact content (by decide +kernel)
  obtain ⟨-, numbers, entries⟩ := (read_after_mark t).1 opens
  exact ⟨opens, numbers, entries, closed, (read_after_mark t').2 closed⟩

theorem header_lost_after_mark :
    ¬ ∀ t : Text, t.head? ≠ some byteOrderMark →
      (ofText (byteOrderMark :: t)).headers = (ofText t).headers ∧
      (ofText (byteOrderMark :: t)).lines.map SourceLine.number =
        (ofText t).lines.map SourceLine.number ∧
      List.Forall₂ (fun e e' : Entry =>
          e.id = e'.id ∧ e.lineNumber = e'.lineNumber ∧ e.lineNumbers = e'.lineNumbers ∧
          e.fields.layout = e'.fields.layout ∧ e.level = e'.level ∧
          e.fields.moduleName = e'.fields.moduleName ∧ e.fields.thread = e'.fields.thread ∧
          e.fields.process = e'.fields.process ∧ e.stamp = e'.stamp ∧ e.millis = e'.millis)
        (assemble (ofText (byteOrderMark :: t)).lines) (assemble (ofText t).lines) := by
  intro all
  obtain ⟨headers, -⟩ := all "User: alice\n2025-01-01 10:00:00 up\n".toList (by decide)
  exact absurd headers (by decide +kernel)

end Logbook
