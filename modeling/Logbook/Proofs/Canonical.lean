import Logbook.Proofs.RangeText

/-! The canonical text of a filter that was read. Its segments read back as what they say, so the
text does as long as the bars between them can be told from those in terms. -/

namespace Logbook.Filter

open Text

namespace Segment

structure Means (t : Text) (s : Segment) : Prop where
  segment : IsSegment t
  of_eq : Segment.of t = s

theorem of_exclude {t : Text} (h : trim t ≠ []) : Segment.of ('!' :: t) = .exclude ⟨trim t⟩ :=
  if_neg h

theorem of_gap {t : Text} (plain : t.head? ≠ some '!') {g : Binary64}
    (gap : Filter.gap? t = some g) : Segment.of t = .gap g := by
  unfold Segment.of
  split
  · simp at plain
  · simp [gap]

theorem of_range {t : Text} (plain : t.head? ≠ some '!') (gap : Filter.gap? t = none) :
    Segment.of t = (range? t).getD (.include ⟨t⟩) := by
  unfold Segment.of
  split
  · simp at plain
  · simp [gap]

theorem of_cases (t : Text) :
    Segment.of t = .void ∨
    (∃ r, t = '!' :: r ∧ trim r ≠ [] ∧ Segment.of t = .exclude ⟨trim r⟩) ∨
    (∃ g, Filter.gap? t = some g ∧ Segment.of t = .gap g) ∨
    (∃ r : DateRange, r.Readable ∧ Segment.of t = r.toSegment) ∨
    Segment.of t = .include ⟨t⟩ := by
  by_cases plain : t.head? = some '!'
  · obtain ⟨r, rfl⟩ := List.head?_eq_some_iff.1 plain
    by_cases empty : trim r = []
    · exact .inl (if_pos empty)
    · exact .inr (.inl ⟨r, rfl, empty, of_exclude empty⟩)
  · right; right
    cases gap : Filter.gap? t with
    | some g => exact .inl ⟨g, rfl, of_gap plain gap⟩
    | none =>
      right
      rw [of_range plain gap]
      cases range : range? t with
      | none => exact .inr rfl
      | some s =>
        obtain ⟨r, readable, rfl⟩ := DateRange.readable_of_range? range
        exact .inl ⟨r, readable, rfl⟩

theorem isSegment_exclude {t : Text} (h : IsSegment t) : IsSegment ('!' :: t) := by
  refine ⟨List.cons_ne_nil _ _, ⟨?_, ?_⟩, ?_⟩
  · rintro _ ⟨⟩
    decide
  · intro c last
    apply h.trimmed.2 c
    rwa [List.getLast?_cons_of_ne_nil h.nonempty] at last
  · exact NoPair.append (noPair_singleton '|' '!') h.no_bars (.inl (by simp))

theorem means_exclude {r : Text} (segment : IsSegment ('!' :: r)) (nonempty : trim r ≠ []) :
    Means ('!' :: trim r) (.exclude ⟨trim r⟩) := by
  have inner := (trim_part r).trans (List.suffix_cons '!' r).isInfix
  have inside : IsSegment (trim r) := ⟨nonempty, trimmed_trim r, segment.no_bars.of_part inner⟩
  exact ⟨isSegment_exclude inside, by rw [of_exclude (by rwa [trim_trim]), trim_trim]⟩

section Gap

open Scan

theorem gap?_bounds {t : Text} {g : Binary64} (h : Filter.gap? t = some g) :
    g.isFinite = true ∧ g.isNonNegative = true := by
  obtain ⟨⟨token, rest⟩, -, h⟩ := Option.bind_eq_some_iff.1 h
  obtain ⟨⟨⟩, -, h⟩ := Option.bind_eq_some_iff.1 h
  obtain ⟨seconds, -, h⟩ := Option.bind_eq_some_iff.1 h
  obtain ⟨⟨⟩, bounds, h⟩ := Option.bind_eq_some_iff.1 h
  cases h
  by_contra outside
  simp [guard, outside] at bounds

theorem run_scanGap {mark before after token : Text} (alike : Alike mark "#gap".toList)
    (blank : Only isBlank before) (blank' : Only isBlank after) (nonempty : token ≠ [])
    (visible : ∀ c ∈ token, isBlank c = false) :
    scanGap.run (mark ++ (before ++ '=' :: (after ++ token))) = some (token, []) := by
  have key : (keyword "#gap".toList).run (mark ++ (before ++ '=' :: (after ++ token))) =
      some ((), before ++ '=' :: (after ++ token)) := run_keyword_eq_some.2 ⟨mark, rfl, alike⟩
  have gap : ∀ {w r : Text}, Only isBlank w → Stops isBlank r →
      blanks.run (w ++ r) = some ((), r) :=
    fun all stops => congrArg (fun r => some ((), r))
      ((List.dropWhile_append_of_pos all).trans stops.dropWhile)
  have first := gap blank (stops_cons (by decide : isBlank '=' = false) (after ++ token))
  have second := gap blank' fun c head => visible c (List.mem_of_head? head)
  have rest : (many1 fun c => !isBlank c).run token = some (token, []) := by
    have all : ∀ c ∈ token, (!isBlank c) = true := fun c hc => by simp [visible c hc]
    have run := run_many1 nonempty all (stops_nil _)
    rwa [List.append_nil] at run
  rw [scanGap, run_bind_of_some key, run_bind_of_some first, run_bind_of_some (run_char_cons ..),
    run_bind_of_some second, rest]

theorem gap?_of_colon (r : Text) : Filter.gap? (':' :: r) = none := rfl

theorem gap?_of_digit {c : Char} (digit : isDigit c = true) (r : Text) :
    Filter.gap? ('#' :: c :: r) = none := by
  have other : c ≠ 'g' := by
    rintro rfl
    contradiction
  have letter : foldChar 'g' = 'g' := rfl
  have missing : scanGap.run ('#' :: c :: r) = none := by
    simp [scanGap, keyword, run_satisfy_cons, foldChar_of_isDigit digit, letter, other]
  simp [Filter.gap?, missing]

end Gap

theorem bar_notMem_gap {g : Binary64} (finite : g.isFinite = true) :
    '|' ∉ "#gap=".toList ++ g.text := by
  have no_bar : '|' ∉ g.text := by
    intro bar
    rcases Binary64.mem_text finite bar with digit | same | same <;> contradiction
  simpa using no_bar

theorem means_gap {g : Binary64} (finite : g.isFinite = true) (h : g.isNonNegative = true) :
    Means ("#gap=".toList ++ g.text) (.gap g) := by
  have visible : ∀ c ∈ g.text, isBlank c = false := by
    intro c hc
    rcases Binary64.mem_text finite hc with digit | rfl | rfl
    · exact not_isBlank_of_isDigit (isDigit_of_ascii digit)
    · decide
    · decide
  have nonempty := Binary64.text_ne_nil finite
  have gap : Filter.gap? ("#gap=".toList ++ g.text) = some g := by
    have run : scanGap.run ("#gap".toList ++ ([] ++ '=' :: ([] ++ g.text))) = some (g.text, []) :=
      run_scanGap rfl (by simp [Only]) (by simp [Only]) nonempty visible
    have written : "#gap=".toList ++ g.text = "#gap".toList ++ ([] ++ '=' :: ([] ++ g.text)) := rfl
    rw [Filter.gap?, written, run]
    simp [Binary64.read?_text finite h, finite, h]
  refine ⟨⟨List.cons_ne_nil _ _, ⟨?_, ?_⟩, noPair_of_notMem (bar_notMem_gap finite)⟩, ?_⟩
  · rintro _ ⟨⟩
    decide
  · intro c last
    rw [List.getLast?_append_of_ne_nil _ nonempty] at last
    exact visible c (List.mem_of_getLast? last)
  · exact of_gap (by simp) gap

section Range

variable {l r : Text} {first last : Option Bound}

theorem head_of_spells (hl : Spells .first l first) (r : Text) :
    (∃ t, l ++ ':' :: ':' :: r = ':' :: t) ∨
    ∃ c t, l ++ ':' :: ':' :: r = '#' :: c :: t ∧ isDigit c = true := by
  cases hl with
  | absent => exact .inl ⟨_, rfl⟩
  | given shaped =>
    obtain ⟨c, t, rfl, digit⟩ := shaped.opens
    exact .inr ⟨c, _, rfl, digit⟩

theorem getLast_of_spells (hr : Spells .last r last) {c : Char}
    (h : (l ++ ':' :: ':' :: r).getLast? = some c) : isBlank c = false := by
  cases hr with
  | absent =>
    rw [List.getLast?_append_of_ne_nil _ (by simp)] at h
    cases h
    decide
  | given shaped =>
    obtain ⟨d, closing, digit⟩ := shaped.closes
    have tail : (':' :: ':' :: r).getLast? = some d := by simp [List.getLast?_cons, closing]
    rw [List.getLast?_append_of_ne_nil _ (by simp), tail] at h
    cases h
    exact not_isBlank_of_isDigit digit

variable (hl : Spells .first l first) (hr : Spells .last r last)
include hl hr

theorem bar_notMem_of_spells : '|' ∉ l ++ ':' :: ':' :: r := by
  simp [hl.no_bar, hr.no_bar]

theorem means_of_spells (some_side : first ≠ none ∨ last ≠ none) :
    Means (l ++ ':' :: ':' :: r) (DateRange.toSegment ⟨first, last⟩) := by
  have range := DateRange.range?_of_spells hl hr some_side
  refine ⟨⟨by simp, ⟨?_, fun c => getLast_of_spells hr⟩,
    noPair_of_notMem (bar_notMem_of_spells hl hr)⟩, ?_⟩
  · rcases head_of_spells hl r with ⟨t, text⟩ | ⟨c, t, text, -⟩
    · rw [text]
      rintro _ ⟨⟩
      decide
    · rw [text]
      rintro _ ⟨⟩
      decide
  · rcases head_of_spells hl r with ⟨t, text⟩ | ⟨c, t, text, digit⟩
    · rw [of_range (by simp [text]) (by rw [text]; exact gap?_of_colon t), range]
      rfl
    · rw [of_range (by simp [text]) (by rw [text]; exact gap?_of_digit digit t), range]
      rfl

end Range

theorem bar_notMem_text {r : DateRange} (h : r.Readable) : '|' ∉ r.text := by
  rw [DateRange.text_eq]
  exact bar_notMem_of_spells (spells_sideText h.first) (spells_sideText h.last)

theorem means_range {r : DateRange} (h : r.Readable) : Means r.text r.toSegment := by
  rw [DateRange.text_eq]
  exact means_of_spells (spells_sideText h.first) (spells_sideText h.last) h.some_side

def Sound : Segment → Prop
  | .exclude term => Means ('!' :: term.text) (.exclude term)
  | .void => True
  | .gap g => g.isFinite = true ∧ g.isNonNegative = true
  | .rows r => r.sides.Readable
  | .dates r => r.Readable ∧ r.hasDate = true
  | .include term => Means term.text (.include term)

theorem sound_toSegment {r : DateRange} (h : r.Readable) : r.toSegment.Sound := by
  rcases r.toSegment_cases with ⟨dates, date⟩ | ⟨rows, rfl, same⟩
  · rw [dates]
    exact ⟨h, date⟩
  · rw [same]
    exact h

theorem sound_of {t : Text} (segment : IsSegment t) : (Segment.of t).Sound := by
  rcases of_cases t with h | ⟨r, rfl, nonempty, h⟩ | ⟨g, gap, h⟩ | ⟨r, readable, h⟩ | h
  · rw [h]
    trivial
  · rw [h]
    exact means_exclude segment nonempty
  · rw [h]
    exact gap?_bounds gap
  · rw [h]
    exact sound_toSegment readable
  · have means : Means t (.include ⟨t⟩) := ⟨segment, h⟩
    rwa [h]

end Segment

theorem of_merge {α : Type} {P : Range α → Prop} {rs : List (Range α)} {r : Range α}
    (closed : ∀ old new, P old → P new → P (old.override new)) (all : ∀ x ∈ rs, P x)
    (h : Range.merge rs = some r) : P r := by
  rcases rs with _ | ⟨first, rs⟩
  · contradiction
  · cases h
    have start : P first := all first (by simp)
    have rest : ∀ x ∈ rs, P x := fun x hx => all x (by simp [hx])
    clear all
    -- Each range overrides the ones before, so the merged one so far takes the place of the first.
    induction rs generalizing first with
    | nil => exact start
    | cons x rs ih =>
      exact ih _ (closed first x start (rest x (by simp))) fun y hy => rest y (by simp [hy])

def toSegments (f : Filter) : List Segment :=
  f.includes.map .include ++ f.excludes.map .exclude ++ (f.rows.map .rows).toList ++
    (f.dates.map .dates).toList ++ (f.gap.map .gap).toList

theorem ofSegments_toSegments (f : Filter) : ofSegments f.toSegments = f := by
  obtain ⟨includes, excludes, rows, dates, gap⟩ := f
  cases rows <;> cases dates <;> cases gap <;>
    simp [ofSegments, toSegments, List.filterMap_map, List.filterMap_cons,
      Function.comp_def, Segment.include?, Segment.exclude?, Segment.rows?, Segment.dates?,
      Segment.gap?, Range.merge]

structure Canonical (f : Filter) : Prop where
  includes : ∀ t ∈ f.includes, Segment.Means t.text (.include t)
  excludes : ∀ t ∈ f.excludes, Segment.Means ('!' :: t.text) (.exclude t)
  rows : ∀ r, f.rows = some r → r.sides.Readable
  dates : ∀ r, f.dates = some r → r.Readable ∧ r.hasDate = true
  gap : ∀ g, f.gap = some g → g.isFinite = true ∧ g.isNonNegative = true

theorem sound_of_mem {α : Type} {part : Segment → Option α} {t : Text} {a : α}
    (h : a ∈ ((Text.segments t).map Segment.of).filterMap part) :
    ∃ s : Segment, s.Sound ∧ part s = some a := by
  obtain ⟨s, hs, found⟩ := List.mem_filterMap.1 h
  obtain ⟨x, hx, rfl⟩ := List.mem_map.1 hs
  exact ⟨_, Segment.sound_of (isSegment_of_mem hx), found⟩

theorem canonical_read (t : Text) : (read t).Canonical where
  includes term h := by
    obtain ⟨s, sound, found⟩ := sound_of_mem h
    cases s <;> cases found
    exact sound
  excludes term h := by
    obtain ⟨s, sound, found⟩ := sound_of_mem h
    cases s <;> cases found
    exact sound
  rows r h := by
    refine of_merge (P := fun r : RowRange => r.sides.Readable) (fun old new => ?_) ?_ h
    · rw [RowRange.sides_override]
      exact DateRange.Readable.override
    · intro r h
      obtain ⟨s, sound, found⟩ := sound_of_mem h
      cases s <;> cases found
      exact sound
  dates r h := by
    refine of_merge (P := fun r : DateRange => r.Readable ∧ r.hasDate = true) ?_ ?_ h
    · rintro old new ⟨old_readable, -⟩ ⟨new_readable, date⟩
      exact ⟨old_readable.override new_readable, DateRange.hasDate_override old date⟩
    · intro r h
      obtain ⟨s, sound, found⟩ := sound_of_mem h
      cases s <;> cases found
      exact sound
  gap g h := by
    obtain ⟨s, sound, found⟩ := sound_of_mem (List.mem_of_getLast? h)
    cases s <;> cases found
    exact sound

/-- No segment of a term ends with a bar, unless it is the last segment of all. -/
def Separable (f : Filter) : Prop :=
  ∀ x ∈ f.segments.dropLast.take (f.includes.length + f.excludes.length), x.getLast? ≠ some '|'

instance (f : Filter) : Decidable f.Separable :=
  inferInstanceAs (Decidable
    (∀ x ∈ f.segments.dropLast.take (f.includes.length + f.excludes.length), x.getLast? ≠ some '|'))

section Segments

variable {f : Filter}

def rangeSegments (f : Filter) : List Text :=
  (f.rows.map RowRange.text).toList ++ (f.dates.map DateRange.text).toList ++
    (f.gap.map fun g => "#gap=".toList ++ g.text).toList

theorem Canonical.segments_eq (h : f.Canonical) :
    f.segments = f.includes.map Term.text ++ f.excludes.map (fun t => '!' :: t.text) ++
      f.rangeSegments := by
  have rows : f.rows.filter (!·.isOpen) = f.rows := by
    cases same : f.rows with
    | none => rfl
    | some r => exact Option.filter_some_pos (by simp [(h.rows r same).isOpen_sides])
  have dates : f.dates.filter (!·.isOpen) = f.dates := by
    cases same : f.dates with
    | none => rfl
    | some r => exact Option.filter_some_pos (by simp [(h.dates r same).1.isOpen])
  rw [segments, rows, dates, rangeSegments]
  simp only [List.append_assoc]

theorem Canonical.means (h : f.Canonical) : List.Forall₂ Segment.Means f.segments f.toSegments := by
  have each {α : Type} {l : List α} {x : α → Text} {s : α → Segment}
      (means : ∀ a ∈ l, Segment.Means (x a) (s a)) :
      List.Forall₂ Segment.Means (l.map x) (l.map s) := by
    rw [List.forall₂_map_left_iff, List.forall₂_map_right_iff, List.forall₂_same]
    exact means
  have one {α : Type} {o : Option α} {x : α → Text} {s : α → Segment}
      (means : ∀ a, o = some a → Segment.Means (x a) (s a)) :
      List.Forall₂ Segment.Means (o.map x).toList (o.map s).toList := by
    cases o with
    | none => exact .nil
    | some a => exact .cons (means a rfl) .nil
  have rows : ∀ r, f.rows = some r → Segment.Means r.text (.rows r) := by
    intro r same
    have means := Segment.means_range (h.rows r same)
    rwa [DateRange.toSegment_sides] at means
  have dates : ∀ r, f.dates = some r → Segment.Means r.text (.dates r) := by
    intro r same
    have means := Segment.means_range (h.dates r same).1
    rwa [DateRange.toSegment, if_pos (h.dates r same).2] at means
  have gap : ∀ g, f.gap = some g → Segment.Means ("#gap=".toList ++ g.text) (.gap g) :=
    fun g same => Segment.means_gap (h.gap g same).1 (h.gap g same).2
  have terms := List.rel_append (each h.includes) (each h.excludes)
  have ranges := List.rel_append (List.rel_append (one rows) (one dates)) (one gap)
  have all := List.rel_append terms ranges
  rw [h.segments_eq]
  simpa only [rangeSegments, toSegments, List.append_assoc] using all

theorem Canonical.getLast_rangeSegments (h : f.Canonical) {x : Text} (hx : x ∈ f.rangeSegments) :
    x.getLast? ≠ some '|' := by
  have no_bar : '|' ∉ x := by
    simp only [rangeSegments, List.mem_append, Option.mem_toList, Option.map_eq_some_iff] at hx
    rcases hx with (⟨r, same, rfl⟩ | ⟨r, same, rfl⟩) | ⟨g, same, rfl⟩
    · exact Segment.bar_notMem_text (h.rows r same)
    · exact Segment.bar_notMem_text (h.dates r same).1
    · exact Segment.bar_notMem_gap (h.gap g same).1
  exact fun last => no_bar (List.mem_of_getLast? last)

end Segments

theorem Canonical.separated {f : Filter} (h : f.Canonical) (separable : f.Separable) :
    ∀ x ∈ f.segments.dropLast, x.getLast? ≠ some '|' := by
  intro x hx
  have count : f.segments.drop (f.includes.length + f.excludes.length) = f.rangeSegments := by
    rw [h.segments_eq]
    exact List.drop_left' (by simp)
  rw [← List.take_append_drop (f.includes.length + f.excludes.length) f.segments.dropLast,
    List.mem_append] at hx
  rcases hx with term | rest
  · exact separable x term
  · have front := (List.dropLast_prefix f.segments).drop (f.includes.length + f.excludes.length)
    rw [count] at front
    exact h.getLast_rangeSegments (front.subset rest)

theorem read_text {f : Filter} (h : f.Canonical) (separable : f.Separable) : read f.text = f := by
  have both : List.Forall₂ (fun x s => IsSegment x ∧ Segment.of x = s) f.segments f.toSegments :=
    h.means.imp fun x s means => ⟨means.segment, means.of_eq⟩
  obtain ⟨parts, meanings⟩ := (List.forall₂_and_left _ _).1 both
  rw [← List.forall₂_map_left_iff, List.forall₂_eq_eq_eq] at meanings
  rw [read, text, segments_intercalate parts (h.separated separable), meanings,
    ofSegments_toSegments]

/-- The canonical text of a filter that was read stands for that filter. -/
theorem read_text_read (t : Text)
    (h : (read t).Separable ∨ (read t).includes = [] ∧ (read t).excludes = []) :
    read (read t).text = read t ∧ (read (read t).text).text = (read t).text := by
  have separable : (read t).Separable := by
    rcases h with separable | ⟨includes, excludes⟩
    · exact separable
    · simp [Separable, includes, excludes]
  have same := read_text (canonical_read t) separable
  exact ⟨same, congrArg text same⟩

theorem read_text_read_mixed :
    let t := " |a || !b|c ||#007::||::#2024-05-06  07:08:09||#gap=1.50".toList
    (read t).Separable ∧
      (read t).text = "|a||!b|c||#7::||::#2024-05-06 07:08:09||#gap=1.5".toList ∧
      read (read t).text = read t ∧ (read (read t).text).text = (read t).text :=
  ⟨by decide +kernel, by decide +kernel, read_text_read _ (.inl (by decide +kernel))⟩

-- A bar at the end of a term is taken for the first of the two that separate it.
example : read (read "a| ||b".toList).text = read "a || |b".toList := by decide +kernel

end Logbook.Filter
