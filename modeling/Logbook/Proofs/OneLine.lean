import Logbook.Cli.Report
import Logbook.Proofs.CalendarText
import Logbook.Proofs.FirstLine

/-! Nothing that is printed has a line feed in it. A header and a module are parts of a line of the
text, a message is shown by one of its lines, and all else is written in digits and fixed words. -/

namespace Logbook

namespace Text

theorem dropReturn_front (t : Text) : dropReturn t <+: t := by
  rw [dropReturn]
  split
  · exact List.dropLast_prefix t
  · exact List.prefix_rfl

theorem no_feed_of_mem_lines {t line : Text} (h : line ∈ lines t) : '\n' ∉ line := by
  rw [lines, List.mem_append, List.mem_map] at h
  rcases h with ⟨piece, member, rfl⟩ | last
  · exact fun feed => notMem_of_mem_splitOn (List.mem_of_mem_dropLast member)
      ((dropReturn_front piece).subset feed)
  · obtain ⟨last, -⟩ := Option.filter_eq_some_iff.1 (Option.mem_toList.1 last)
    exact notMem_of_mem_splitOn (List.mem_of_getLast? last)

theorem no_feed_of_part {part t : Text} (h : part <:+: t) (free : '\n' ∉ t) : '\n' ∉ part :=
  fun feed => free (h.subset feed)

theorem no_feed_ofNat (n : Nat) : '\n' ∉ ofNat n :=
  fun feed => absurd (isDigit_of_mem_ofNat feed) (by decide)

theorem no_feed_padded (width n : Nat) : '\n' ∉ padded width n :=
  fun feed => absurd (isDigit_of_mem_padded feed) (by decide)

end Text

open Text

theorem Calendar.Date.no_feed_text (d : Calendar.Date) : '\n' ∉ d.text := by
  have year : '\n' ∉ Calendar.Date.yearText d.year := by
    rw [Calendar.Date.yearText]
    split
    · simp [no_feed_padded]
    · split <;> simp [no_feed_padded]
  simp [Calendar.Date.text, year, no_feed_padded]

theorem Calendar.Clock.no_feed_text (c : Calendar.Clock) : '\n' ∉ c.text := by
  simp [Calendar.Clock.text, no_feed_padded]

theorem Entry.no_feed_preview (e : Entry) : '\n' ∉ e.preview := by
  rw [preview, previewOf]
  cases found : ((e.message.splitOn '\n').map trim).find? (· ≠ []) with
  | none => exact List.not_mem_nil
  | some line =>
    obtain ⟨piece, member, rfl⟩ := List.mem_map.1 (List.mem_of_find?_eq_some found)
    exact no_feed_of_part (trim_part piece) (notMem_of_mem_splitOn member)

theorem Source.exists_of_mem_headers {lines : List Text} {h : Text × Text}
    (member : h ∈ (ofLines lines).headers) : ∃ l ∈ numbered lines, HeaderOf h l := by
  obtain ⟨l, hl, found⟩ := List.mem_filterMap.1 member
  refine ⟨l, hl, ?_⟩
  obtain ⟨same, -⟩ | ⟨name, value, same, header, -⟩ | ⟨same, -⟩ := classify_cases l
  · simp [same] at found
  · rw [same] at found
    cases found
    exact header
  · simp [same] at found

namespace Cli

theorem no_feed_headerLine {h : Text × Text} {l : SourceLine} (header : Source.HeaderOf h l)
    (free : '\n' ∉ l.text) : '\n' ∉ headerLine h := by
  obtain ⟨member, rest, whole, value⟩ := header
  have names : ∀ name ∈ Source.headerNames, '\n' ∉ name := by decide
  have part : h.2 <:+: l.text := by
    rw [value]
    refine (trim_part rest).trans (List.IsInfix.trans ?_ (trim_part l.text))
    rw [whole]
    exact ⟨h.1 ++ [':'], [], by simp⟩
  simp [headerLine, names h.1 member, no_feed_of_part part free]

theorem no_feed_timeText (e : Entry) : '\n' ∉ timeText e := by
  rw [timeText]
  split
  · decide
  · next i _ =>
    have clock : '\n' ∉ i.clockText := i.clock.no_feed_text
    split
    · next date dated =>
      obtain ⟨d, -, rfl⟩ := Option.map_eq_some_iff.1 dated
      simp [d.no_feed_text, clock]
    · exact clock

theorem no_feed_rowLine {e : Entry} (named : ∀ m, e.fields.moduleName = some m → '\n' ∉ m)
    (isContext isHit : Bool) : '\n' ∉ rowLine e isContext isHit := by
  have mark : marker isHit isContext ≠ '\n' := by
    cases isHit <;> cases isContext <;> decide
  have level : '\n' ∉ levelText e.level := by
    cases e.level with
    | none => decide
    | some l => cases l <;> decide
  have module : '\n' ∉ e.fields.moduleName.getD ['-'] := by
    cases name : e.fields.moduleName with
    | none => decide
    | some m => exact named m name
  simp [rowLine, List.leftpad, List.rightpad, mark.symm, no_feed_ofNat, no_feed_timeText, level,
    module, e.no_feed_preview]

theorem count_feeds {lines : List Text} (h : ∀ line ∈ lines, '\n' ∉ line) :
    (lines.flatMap (· ++ ['\n'])).count '\n' = lines.length := by
  induction lines with
  | nil => rfl
  | cons line lines ih =>
    have none : line.count '\n' = 0 := List.count_eq_zero.2 (h line (by simp))
    have rest := ih fun line' h' => h line' (by simp [h'])
    simp [none, rest]

end Cli
end Logbook
