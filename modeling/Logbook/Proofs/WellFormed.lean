import Logbook.Proofs.Segments

/-! Which filters texts stand for. Every filter that was read is well formed, however many segments
set its ranges and whichever of them came last. Conversely, a well-formed filter is what some text
says, so nothing else can be relied on in a filter that was read. -/

namespace Logbook

open Text

structure Term.WellFormed (t : Term) : Prop where
  nonempty : t.text ≠ []
  trimmed : trim t.text = t.text
  no_bars : ¬ "||".toList <:+: t.text

theorem Term.wellFormed_iff {t : Term} : t.WellFormed ↔ IsSegment t.text := by
  constructor
  · intro h
    have trimmed : Trimmed t.text := h.trimmed ▸ trimmed_trim t.text
    exact ⟨h.nonempty, trimmed, noPair_iff.2 h.no_bars⟩
  · intro h
    exact ⟨h.nonempty, h.trimmed.trim_eq, noPair_iff.1 h.no_bars⟩

namespace DateBound

structure WellFormed (side : Side) (d : DateBound) : Prop where
  millis : millis? side d.text = some d.millis
  one_space : ∃ w : Written, w.WellFormed ∧ d.text = w.spaced [' ']

theorem wellFormed_iff {side : Side} {d : DateBound} :
    d.WellFormed side ↔ ∃ t, read? side t = some d := by
  constructor
  · rintro ⟨millis, w, shaped, text⟩
    rw [← Written.text_eq_spaced] at text
    rw [text, millis?_of_wellFormed side shaped] at millis
    obtain ⟨found, bound, same⟩ := Option.map_eq_some_iff.1 millis
    obtain rfl : found = d :=
      congrArg₂ DateBound.mk ((text_of_ofWritten? bound).trans text.symm) same
    exact ⟨w.text, (read?_of_wellFormed side shaped).trans bound⟩
  · rintro ⟨t, read⟩
    obtain ⟨w, shaped, bound, -⟩ := exists_written read
    exact ⟨millis?_of_read? (read?_text read), w, shaped,
      (text_of_ofWritten? bound).trans w.text_eq_spaced⟩

end DateBound

namespace Bound

def WellFormed (side : Side) : Bound → Prop
  | .row n => n ≤ Numeral.max64
  | .date d => d.WellFormed side

theorem wellFormed_iff {side : Side} {b : Bound} : b.WellFormed side ↔ b.Readable side := by
  cases b with
  | row n => exact Iff.rfl
  | date d => exact DateBound.wellFormed_iff

end Bound

namespace RowRange

structure WellFormed (r : RowRange) : Prop where
  some_side : r.first ≠ none ∨ r.last ≠ none
  first : ∀ n, r.first = some n → n ≤ Numeral.max64
  last : ∀ n, r.last = some n → n ≤ Numeral.max64

theorem wellFormed_iff {r : RowRange} : r.WellFormed ↔ r.sides.Readable := by
  have given : (r.sides.first ≠ none ∨ r.sides.last ≠ none) ↔ (r.first ≠ none ∨ r.last ≠ none) := by
    simp [sides]
  have rows (side : Side) (o : Option Nat) :
      (∀ b, o.map Bound.row = some b → b.Readable side) ↔ ∀ n, o = some n → n ≤ Numeral.max64 := by
    cases o <;> simp [Bound.Readable]
  constructor
  · intro h
    exact ⟨given.2 h.some_side, (rows .first r.first).2 h.first, (rows .last r.last).2 h.last⟩
  · intro h
    exact ⟨given.1 h.some_side, (rows .first r.first).1 h.first, (rows .last r.last).1 h.last⟩

end RowRange

namespace DateRange

structure WellFormed (r : DateRange) : Prop where
  some_date : r.hasDate = true
  first : ∀ b, r.first = some b → b.WellFormed .first
  last : ∀ b, r.last = some b → b.WellFormed .last
  alone : Filter.read r.text = { dates := some r }

theorem wellFormed_iff {r : DateRange} : r.WellFormed ↔ r.Readable ∧ r.hasDate = true := by
  constructor
  · intro h
    have readable : r.Readable := ⟨some_side_of_hasDate h.some_date,
      fun b same => Bound.wellFormed_iff.1 (h.first b same),
      fun b same => Bound.wellFormed_iff.1 (h.last b same)⟩
    exact ⟨readable, h.some_date⟩
  · rintro ⟨readable, date⟩
    have means := Filter.Segment.means_range readable
    rw [toSegment, if_pos date] at means
    have alone : Filter.read r.text = { dates := some r } := Filter.read_of_means means
    exact ⟨date, fun b same => Bound.wellFormed_iff.2 (readable.first b same),
      fun b same => Bound.wellFormed_iff.2 (readable.last b same), alone⟩

end DateRange

namespace Filter

structure WellFormed (f : Filter) : Prop where
  includes : ∀ t ∈ f.includes, t.WellFormed ∧ read t.text = { includes := [t] }
  excludes : ∀ t ∈ f.excludes, t.WellFormed
  rows : ∀ r, f.rows = some r → r.WellFormed
  dates : ∀ r, f.dates = some r → r.WellFormed
  gap : ∀ g, f.gap = some g → g.isFinite = true ∧ g.isNonNegative = true

namespace Segment

theorem means_include_iff {t : Term} :
    Means t.text (.include t) ↔ t.WellFormed ∧ read t.text = { includes := [t] } := by
  rw [Term.wellFormed_iff]
  constructor
  · intro means
    exact ⟨means.segment, read_of_means means⟩
  · rintro ⟨segment, alone⟩
    exact ⟨segment, (read_eq_iff segment (.include t)).1 alone⟩

theorem means_exclude_iff {t : Term} : Means ('!' :: t.text) (.exclude t) ↔ t.WellFormed := by
  rw [Term.wellFormed_iff]
  constructor
  · rintro ⟨segment, said⟩
    have nonempty : trim t.text ≠ [] := by
      intro empty
      have void : Segment.of ('!' :: t.text) = .void := if_pos empty
      rw [void] at said
      contradiction
    rw [of_exclude nonempty] at said
    have trimmed : trim t.text = t.text := congrArg Term.text (Segment.exclude.inj said)
    exact ⟨trimmed ▸ nonempty, trimmed ▸ trimmed_trim t.text,
      segment.no_bars.of_part (List.suffix_cons '!' t.text).isInfix⟩
  · intro segment
    have same := segment.trimmed.trim_eq
    refine ⟨isSegment_exclude segment, ?_⟩
    rw [of_exclude (same.symm ▸ segment.nonempty), same]

theorem Means.read_concat_space {x : Text} {s : Segment} (h : Means x s) :
    read (x ++ [' ']) = ofSegments [s] := by
  rw [read, segments_concat_space h.segment, List.map_singleton, h.of_eq]

end Segment

theorem wellFormed_iff {f : Filter} : f.WellFormed ↔ f.Canonical := by
  constructor
  · intro h
    exact ⟨fun t ht => Segment.means_include_iff.2 (h.includes t ht),
      fun t ht => Segment.means_exclude_iff.2 (h.excludes t ht),
      fun r same => RowRange.wellFormed_iff.1 (h.rows r same),
      fun r same => DateRange.wellFormed_iff.1 (h.dates r same), h.gap⟩
  · intro h
    exact ⟨fun t ht => Segment.means_include_iff.1 (h.includes t ht),
      fun t ht => Segment.means_exclude_iff.1 (h.excludes t ht),
      fun r same => RowRange.wellFormed_iff.2 (h.rows r same),
      fun r same => DateRange.wellFormed_iff.2 (h.dates r same), h.gap⟩

def spacedText (f : Filter) : Text := List.intercalate "||".toList (f.segments.map (· ++ [' ']))

/-- With the spaces, a bar at the end of a term is not taken for one of the bars behind it. -/
theorem read_spacedText {f : Filter} (h : f.Canonical) : read f.spacedText = f := by
  have last : ∀ x ∈ (f.segments.map (· ++ [' '])).dropLast, x.getLast? ≠ some '|' := by
    intro x hx
    obtain ⟨y, -, rfl⟩ := List.mem_map.1 (List.mem_of_mem_dropLast hx)
    simp
  have each : (f.segments.map (· ++ [' '])).map read =
      f.toSegments.map fun s => ofSegments [s] := by
    rw [List.map_map, ← List.forall₂_eq_eq_eq, List.forall₂_map_left_iff,
      List.forall₂_map_right_iff]
    exact h.means.imp fun _ _ means => means.read_concat_space
  rw [spacedText, read_intercalate last, each, layers_segments, ofSegments_toSegments]

/-- What a text says is well formed, and whatever is well formed is what some text says. -/
theorem exists_read_iff (f : Filter) : (∃ t, read t = f) ↔ f.WellFormed := by
  rw [wellFormed_iff]
  constructor
  · rintro ⟨t, rfl⟩
    exact canonical_read t
  · intro canonical
    exact ⟨f.spacedText, read_spacedText canonical⟩

-- Both sides change between rows and dates. The segment that was last has left a date.
example :
    (read "#2024-01-01::#5||#3::#2024-02-02||#2024-03-03  07:08:09::#9".toList).dates.map
      DateRange.text = some "#2024-03-03 07:08:09::#9".toList := by decide +kernel

end Filter
end Logbook
