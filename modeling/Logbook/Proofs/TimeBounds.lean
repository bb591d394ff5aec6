import Logbook.Entry.Assembler
import Logbook.Proofs.Segments
import Logbook.Proofs.Shown

/-! The two ways of bounding time: a segment of dates at the end of a filter, and the bounds of the
options. They are read and checked apart, and leave the same rows. -/

namespace Logbook

namespace DateRange

def between (first last : Option DateBound) : DateRange := ⟨first.map .date, last.map .date⟩

variable {first last : Option DateBound}

theorem toSegment_between (some_side : first ≠ none ∨ last ≠ none) :
    (between first last).toSegment = .dates (between first last) := by
  have dates : (between first last).hasDate = true := by
    rcases first with _ | first
    · rcases last with _ | last
      · simp at some_side
      · rfl
    · rfl
  exact if_pos dates

theorem means_between {l r : Text} (hl : Spells .first l (first.map .date))
    (hr : Spells .last r (last.map .date)) (some_side : first ≠ none ∨ last ≠ none) :
    Filter.Segment.Means (l ++ ':' :: ':' :: r) (.dates (between first last)) := by
  rw [← toSegment_between some_side]
  apply Filter.Segment.means_of_spells hl hr
  simpa using some_side

theorem contains_between (o : View.Options) (row : Nat) (millis : Option Int) :
    (between first last).contains row millis =
      View.inTime { o with
        timeStart := first.map DateBound.millis, timeEnd := last.map DateBound.millis } millis := by
  cases first <;> cases last <;> cases millis <;> rfl

end DateRange

namespace View

variable [Regex.Engine]

theorem evaluate_congr {entries : List Entry} {f g : Filter} {o p : Options}
    (passes_eq : ∀ e ∈ entries, passes f o e = passes g p e) (gap : f.gap = g.gap)
    (context : o.context = p.context) : evaluate entries f o = evaluate entries g p := by
  have matched : entries.map (passes f o) = entries.map (passes g p) :=
    List.map_congr_left passes_eq
  simp only [evaluate, mapInHalves_eq_map, matched, gap, context]

theorem passes_between {f : Filter} {o : Options} (no_dates : f.dates = none)
    (no_start : o.timeStart = none) (no_end : o.timeEnd = none) (first last : Option DateBound)
    (e : Entry) :
    passes { f with dates := some (.between first last) } o e =
      passes f { o with
        timeStart := first.map DateBound.millis, timeEnd := last.map DateBound.millis } e := by
  have unbounded : inTime o e.millis = true := by simp [inTime, no_start, no_end]
  simp only [passes, no_dates, unbounded, Option.all_some, Option.all_none, Bool.and_true,
    DateRange.contains_between o]
  -- The same five conditions, with the one on time in another place.
  ac_rfl

variable (entries : List Entry) {f : Text} {o : Options} (last_char : f.getLast? ≠ some '|')
  (no_dates : (Filter.read f).dates = none) (no_start : o.timeStart = none)
  (no_end : o.timeEnd = none)
include last_char no_dates no_start no_end

theorem evaluate_append_between {l r : Text} {a b : Option DateBound}
    (hl : Spells .first l (a.map .date)) (hr : Spells .last r (b.map .date))
    (some_side : a ≠ none ∨ b ≠ none) :
    evaluate entries (Filter.read (f ++ '|' :: '|' :: (l ++ ':' :: ':' :: r))) o =
      evaluate entries (Filter.read f) { o with
        timeStart := a.map DateBound.millis, timeEnd := b.map DateBound.millis } := by
  have read : Filter.read (f ++ '|' :: '|' :: (l ++ ':' :: ':' :: r)) =
      { Filter.read f with dates := some (.between a b) } := by
    rw [Filter.read_append last_char,
      Filter.read_of_means (DateRange.means_between hl hr some_side)]
    refine (Filter.layer_dates _ _).trans ?_
    rw [no_dates, Range.none_layer]
    rfl
  rw [read]
  apply evaluate_congr
  · exact fun e _ => passes_between no_dates no_start no_end a b e
  · rfl
  · rfl

end View

theorem spells_of_millis? {side : Side} {t : Text} {ms : Int} (trimmed : Text.trim t = t)
    (h : DateBound.millis? side t = some ms) :
    ∃ d : DateBound, d.millis = ms ∧ Spells side ('#' :: t) (some (.date d)) := by
  rw [DateBound.millis?, trimmed] at h
  obtain ⟨d, read, same⟩ := Option.map_eq_some_iff.1 h
  exact ⟨d, same, spells_date read⟩

/-- A range of dates that is added to a filter leaves the rows that the same bounds among the
options leave, with their flags and the count; so does one with a single side. -/
theorem evaluate_dates_eq_bounds [Regex.Engine] (entries : List Entry) (f : Text)
    (o : View.Options) (last_char : f.getLast? ≠ some '|') (no_dates : (Filter.read f).dates = none)
    (no_start : o.timeStart = none) (no_end : o.timeEnd = none) :
    (∀ a b first last, Text.trim a = a → Text.trim b = b →
      DateBound.millis? .first a = some first → DateBound.millis? .last b = some last →
        View.evaluate entries (Filter.read (f ++ "||#".toList ++ a ++ "::#".toList ++ b)) o =
          View.evaluate entries (Filter.read f)
            { o with timeStart := some first, timeEnd := some last }) ∧
    (∀ a first, Text.trim a = a → DateBound.millis? .first a = some first →
      View.evaluate entries (Filter.read (f ++ "||#".toList ++ a ++ "::".toList)) o =
        View.evaluate entries (Filter.read f) { o with timeStart := some first }) ∧
    ∀ b last, Text.trim b = b → DateBound.millis? .last b = some last →
      View.evaluate entries (Filter.read (f ++ "||::#".toList ++ b)) o =
        View.evaluate entries (Filter.read f) { o with timeEnd := some last } := by
  refine ⟨?_, ?_, ?_⟩
  · intro a b first last trimmed_a trimmed_b read_a read_b
    obtain ⟨d, rfl, spells_a⟩ := spells_of_millis? trimmed_a read_a
    obtain ⟨d', rfl, spells_b⟩ := spells_of_millis? trimmed_b read_b
    have same := View.evaluate_append_between entries last_char no_dates no_start no_end
      (a := some d) (b := some d') spells_a spells_b (.inl (by simp))
    simpa using same
  · intro a first trimmed read
    obtain ⟨d, rfl, spells⟩ := spells_of_millis? trimmed read
    have same := View.evaluate_append_between entries last_char no_dates no_start no_end
      (a := some d) (b := none) spells .absent (.inl (by simp))
    simpa [no_end] using same
  · intro b last trimmed read
    obtain ⟨d, rfl, spells⟩ := spells_of_millis? trimmed read
    have same := View.evaluate_append_between entries last_char no_dates no_start no_end
      (a := none) (b := some d) .absent spells (.inr (by simp))
    simpa [no_start] using same

theorem evaluate_dates_eq_bounds_mixed :
    let _ : Regex.Engine := .upTo 1000
    let f := "!x|y||#2::#9||".toList ++ "#gap=1".toList
    let a := "2024-02-29\u3000 23:59:58:007".toList
    let b := "2024-03-01".toList
    let entries := assemble (Source.ofText "2024-03-01 00:00:00.000 u\n10:00:00.000 v".toList).lines
    f.getLast? ≠ some '|' ∧ (Filter.read f).dates = none ∧
    Text.trim a = a ∧ Text.trim b = b ∧
    DateBound.millis? .first a = some 1709251198007 ∧
    DateBound.millis? .last b = some 1709337599999 ∧
    View.evaluate entries (Filter.read (f ++ "||#".toList ++ a ++ "::#".toList ++ b)) {} =
      View.evaluate entries (Filter.read f)
        { timeStart := some 1709251198007, timeEnd := some 1709337599999 } ∧
    View.evaluate entries (Filter.read (f ++ "||#".toList ++ a ++ "::".toList)) {} =
      View.evaluate entries (Filter.read f) { timeStart := some 1709251198007 } ∧
    View.evaluate entries (Filter.read (f ++ "||::#".toList ++ b)) {} =
      View.evaluate entries (Filter.read f) { timeEnd := some 1709337599999 } := by
  intro _ f a b entries
  have last_char : f.getLast? ≠ some '|' := by decide
  have no_dates : (Filter.read f).dates = none := by decide +kernel
  have trimmed_a : Text.trim a = a := by decide
  have trimmed_b : Text.trim b = b := by decide
  have read_a : DateBound.millis? .first a = some 1709251198007 := by decide +kernel
  have read_b : DateBound.millis? .last b = some 1709337599999 := by decide +kernel
  obtain ⟨both, first, last⟩ :=
    evaluate_dates_eq_bounds entries f {} last_char no_dates rfl rfl
  exact ⟨last_char, no_dates, trimmed_a, trimmed_b, read_a, read_b,
    both a b _ _ trimmed_a trimmed_b read_a read_b, first a _ trimmed_a read_a,
    last b _ trimmed_b read_b⟩

end Logbook
