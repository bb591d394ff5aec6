import Logbook.Proofs.Partition
import Logbook.Proofs.ByteOrderMark

/-! The two kinds of line endings. A text whose lines all end in a carriage return and a line feed is
read as the text with line feeds alone: the returns are no part of any line, so they reach neither
the headers nor what is assembled from the content. -/

namespace Logbook

namespace Text

def withReturns (t : Text) : Text := t.flatMap fun c => if c = '\n' then ['\r', '\n'] else [c]

theorem withReturns_cons_feed (t : Text) :
    withReturns ('\n' :: t) = '\r' :: '\n' :: withReturns t := rfl

theorem withReturns_cons {c : Char} (feed : c ≠ '\n') (t : Text) :
    withReturns (c :: t) = c :: withReturns t := by
  simp [withReturns, feed]

theorem lines_cons_feed (t : Text) : lines ('\n' :: t) = [] :: lines t := by
  obtain ⟨piece, pieces, cut⟩ := List.exists_cons_of_ne_nil (List.splitOn_ne_nil '\n' t)
  simp only [lines, splitOn_cons_self, cut]
  rfl

theorem lines_cons_return_feed (t : Text) : lines ('\r' :: '\n' :: t) = [] :: lines t := by
  obtain ⟨piece, pieces, cut⟩ := List.exists_cons_of_ne_nil (List.splitOn_ne_nil '\n' t)
  obtain ⟨first, more, before, after⟩ := splitOn_cons (c := '\r') (d := '\n') (by decide) ('\n' :: t)
  rw [splitOn_cons_self, cut] at before
  cases before
  simp only [lines, after, cut]
  rfl

/-- What ends no line in the one text ends none in the other, so the lines of the two texts grow
together. -/
theorem lines_withReturns {t : Text} (free : '\r' ∉ t) : lines (withReturns t) = lines t := by
  induction t with
  | nil => rfl
  | cons c t ih =>
    rw [List.mem_cons, not_or] at free
    by_cases feed : c = '\n'
    · rw [feed, withReturns_cons_feed, lines_cons_return_feed, lines_cons_feed, ih free.2]
    · rw [withReturns_cons feed, lines_cons feed (Ne.symm free.1), lines_cons feed (Ne.symm free.1),
        ih free.2]

theorem no_return_of_mem_lines {t line : Text} (free : '\r' ∉ t) (h : line ∈ lines t) :
    '\r' ∉ line := by
  induction t generalizing line with
  | nil => simp [lines] at h
  | cons c t ih =>
    rw [List.mem_cons, not_or] at free
    by_cases feed : c = '\n'
    · rw [feed, lines_cons_feed, List.mem_cons] at h
      rcases h with rfl | later
      · exact List.not_mem_nil
      · exact ih free.2 later
    · rw [lines_cons feed (Ne.symm free.1), List.mem_cons] at h
      rcases h with rfl | later
      · have first : '\r' ∉ (lines t).headD [] := by
          cases rest : lines t with
          | nil => exact List.not_mem_nil
          | cons line more => exact ih free.2 (by simp [rest])
        exact List.not_mem_cons_of_ne_of_not_mem free.1 first
      · exact ih free.2 (List.mem_of_mem_tail later)

end Text

open Text

namespace Source

theorem no_return_of_mem_content {t : Text} (free : '\r' ∉ t) {l : SourceLine}
    (h : l ∈ (ofText t).lines) : '\r' ∉ l.text := by
  have line : l.text ∈ Text.lines t := by
    obtain ⟨member, -⟩ := mem_content.1 h
    exact List.mem_of_getElem? (mem_numbered.1 member).2
  exact no_return_of_mem_lines free line

end Source

theorem no_return_joined {ls : List SourceLine} (free : ∀ l ∈ ls, '\r' ∉ l.text) :
    '\r' ∉ joined ls := by
  induction ls using List.reverseRecOn with
  | nil => exact List.not_mem_nil
  | append_singleton ls l ih =>
    have last : '\r' ∉ l.text := free l (by simp)
    have before : '\r' ∉ joined ls := ih fun l hl => free l (by simp [hl])
    by_cases first : ls = []
    · simpa [first, joined] using last
    · simp [joined_concat l first, before, last]

theorem read_withReturns {t : Text} (free : '\r' ∉ t) :
    lines (withReturns t) = lines t ∧
    Source.ofText (withReturns t) = Source.ofText t ∧
    assemble (Source.ofText (withReturns t)).lines = assemble (Source.ofText t).lines ∧
    (∀ l ∈ (Source.ofText (withReturns t)).lines, '\r' ∉ l.text) ∧
    ∀ e ∈ assemble (Source.ofText (withReturns t)).lines, '\r' ∉ e.raw := by
  have same : Source.ofText (withReturns t) = Source.ofText t := by
    rw [Source.ofText, Source.ofText, lines_withReturns free]
  rw [same]
  refine ⟨lines_withReturns free, rfl, rfl, fun l => Source.no_return_of_mem_content free, ?_⟩
  intro e he
  have visible : ∀ l ∈ (Source.ofText t).lines, trim l.text ≠ [] :=
    fun l hl => Source.content_not_blank hl
  obtain ⟨g, covers, content⟩ := (Assembler.holds_assemble visible).group he
  rw [covers.raw_eq]
  exact no_return_joined fun l hl => Source.no_return_of_mem_content free (content l hl)

theorem read_withReturns_report :
    let report := "User: me\n\n2024-01-01 10:00:00 INFO boot\n  at start".toList
    withReturns report = "User: me\r\n\r\n2024-01-01 10:00:00 INFO boot\r\n  at start".toList ∧
    lines (withReturns report) = lines report ∧
    Source.ofText (withReturns report) = Source.ofText report ∧
    assemble (Source.ofText (withReturns report)).lines = assemble (Source.ofText report).lines ∧
    (∀ l ∈ (Source.ofText (withReturns report)).lines, '\r' ∉ l.text) ∧
    ∀ e ∈ assemble (Source.ofText (withReturns report)).lines, '\r' ∉ e.raw :=
  ⟨by decide +kernel, read_withReturns (by decide +kernel)⟩

end Logbook
