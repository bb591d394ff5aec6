import Logbook.Filter.Reader
import Logbook.Proofs.DateText
import Logbook.Proofs.Decimal

/-! The text of a range reads back as the range. Its two sides cannot be mistaken, in whatever
spelling: they hold no double colon and end with a digit. -/

namespace Logbook

namespace Bound

def Readable (side : Side) : Bound → Prop
  | .row n => n ≤ Numeral.max64
  | .date d => ∃ t, DateBound.read? side t = some d

theorem readable_of_bound? {side : Side} {t : Text} {b : Bound}
    (h : Filter.bound? side t = some b) :
    b.Readable side := by
  unfold Filter.bound? at h
  split at h
  · split at h
    · obtain ⟨n, number, rfl⟩ := Option.map_eq_some_iff.1 h
      exact Numeral.le_of_read? number
    · obtain ⟨d, date, rfl⟩ := Option.map_eq_some_iff.1 h
      exact ⟨_, date⟩
  · contradiction

structure Shaped (t : Text) : Prop where
  opens : ∃ c r, t = '#' :: c :: r ∧ Text.isDigit c = true
  closes : ∃ c, t.getLast? = some c ∧ Text.isDigit c = true
  no_pair : Text.NoPair ':' t
  no_bar : '|' ∉ t

theorem Shaped.trimmed {t : Text} (h : Shaped t) : Text.Trimmed t := by
  constructor
  · obtain ⟨c, r, rfl, -⟩ := h.opens
    rintro _ ⟨⟩
    decide
  · obtain ⟨c, last, digit⟩ := h.closes
    rw [last]
    rintro _ ⟨⟩
    exact Text.not_isBlank_of_isDigit digit

theorem Shaped.getLast_ne {t : Text} (h : Shaped t) {c : Char} (mark : Text.isDigit c = false) :
    t.getLast? ≠ some c := by
  obtain ⟨d, last, digit⟩ := h.closes
  rw [last]
  rintro ⟨⟩
  simp [digit] at mark

theorem shaped_hash {t : Text} (opens : ∃ c r, t = c :: r ∧ Text.isDigit c = true)
    (closes : ∃ c, t.getLast? = some c ∧ Text.isDigit c = true) (no_pair : Text.NoPair ':' t)
    (no_bar : '|' ∉ t) : Shaped ('#' :: t) := by
  obtain ⟨c, r, rfl, digit⟩ := opens
  refine ⟨⟨c, r, rfl, digit⟩, by simpa using closes, ?_, by simpa using no_bar⟩
  exact Text.noPair_cons_cons.2 ⟨by simp, no_pair⟩

theorem shaped_date {side : Side} {t : Text} {d : DateBound}
    (h : DateBound.read? side t = some d) : Shaped ('#' :: t) := by
  have plain := DateBound.plain_of_read? h
  exact shaped_hash plain.opens plain.closes plain.no_pair plain.no_bar

theorem shaped_text {side : Side} {b : Bound} (h : b.Readable side) : Shaped b.text := by
  cases b with
  | row n =>
    have digits : ∀ c ∈ Text.ofNat n, Text.isDigit c = true :=
      fun c hc => Text.isDigit_of_ascii (Text.isDigit_of_mem_ofNat hc)
    have nonempty := Text.ofNat_ne_nil n
    have absent : ∀ c, Text.isDigit c = false → c ∉ Text.ofNat n := by
      intro c mark hc
      simp [digits c hc] at mark
    refine shaped_hash ?_ ?_ (Text.noPair_of_notMem (absent _ (by decide))) (absent _ (by decide))
    · obtain ⟨c, r, front⟩ := List.exists_cons_of_ne_nil nonempty
      exact ⟨c, r, front, digits c (by simp [front])⟩
    · exact ⟨_, List.getLast?_eq_some_getLast nonempty, digits _ (List.getLast_mem nonempty)⟩
  | date d =>
    obtain ⟨t, read⟩ := h
    exact shaped_date (DateBound.read?_text read)

theorem bound?_date {side : Side} {t : Text} {d : DateBound}
    (h : DateBound.read? side t = some d) : Filter.bound? side ('#' :: t) = some (.date d) := by
  have dash : ¬ (t ≠ [] ∧ t.all Text.isDigit = true) := by
    rintro ⟨-, digits⟩
    have digit := List.all_eq_true.1 digits '-' (DateBound.plain_of_read? h).dash
    exact absurd digit (by decide)
  rw [Filter.bound?, if_neg dash, h]
  rfl

theorem opens_of_bound? {side : Side} {t : Text} {b : Bound} (h : Filter.bound? side t = some b) :
    ∃ c r, t = '#' :: c :: r ∧ Text.isDigit c = true := by
  unfold Filter.bound? at h
  split at h
  · next r =>
    split at h
    · next digits =>
      obtain ⟨c, rest, rfl⟩ := List.exists_cons_of_ne_nil digits.1
      exact ⟨c, rest, rfl, List.all_eq_true.1 digits.2 c (by simp)⟩
    · obtain ⟨_, date, -⟩ := Option.map_eq_some_iff.1 h
      exact (shaped_date date).opens
  · contradiction

theorem bound?_text {side : Side} {b : Bound} (h : b.Readable side) :
    Filter.bound? side b.text = some b := by
  cases b with
  | row n =>
    have digits : (Text.ofNat n).all Text.isDigit = true := by
      rw [List.all_eq_true]
      exact fun c hc => Text.isDigit_of_ascii (Text.isDigit_of_mem_ofNat hc)
    rw [text, Filter.bound?, if_pos ⟨Text.ofNat_ne_nil n, digits⟩, Numeral.read?_ofNat h]
    rfl
  | date d =>
    obtain ⟨t, read⟩ := h
    exact bound?_date (DateBound.read?_text read)

end Bound

theorem readable_of_side? {side : Side} {t : Text} {b : Option Bound}
    (h : Filter.side? side t = some b) :
    (∀ bound, b = some bound → bound.Readable side) ∧ (t ≠ [] → b ≠ none) := by
  unfold Filter.side? at h
  split at h
  · next empty =>
    cases h
    exact ⟨by simp, fun nonempty => absurd empty nonempty⟩
  · obtain ⟨bound, read, rfl⟩ := Option.map_eq_some_iff.1 h
    refine ⟨?_, by simp⟩
    rintro _ ⟨⟩
    exact Bound.readable_of_bound? read

def sideText (b : Option Bound) : Text := (b.map Bound.text).getD []

/-- A text that stands for a side of a range: none, or the mark and a bound in whatever spelling. -/
inductive Spells (side : Side) : Text → Option Bound → Prop where
  | absent : Spells side [] none
  | given {t : Text} {b : Bound} (shaped : Bound.Shaped t)
      (reads : Filter.bound? side t = some b) : Spells side t (some b)

theorem spells_sideText {side : Side} {b : Option Bound}
    (readable : ∀ bound, b = some bound → bound.Readable side) : Spells side (sideText b) b := by
  cases b with
  | none => exact .absent
  | some b => exact .given (Bound.shaped_text (readable b rfl)) (Bound.bound?_text (readable b rfl))

theorem spells_date {side : Side} {t : Text} {d : DateBound}
    (h : DateBound.read? side t = some d) : Spells side ('#' :: t) (some (.date d)) :=
  .given (Bound.shaped_date h) (Bound.bound?_date h)

namespace Spells

variable {side : Side} {t : Text} {b : Option Bound} (h : Spells side t b)
include h

theorem side?_eq : Filter.side? side t = some b := by
  cases h with
  | absent => rfl
  | given shaped reads =>
    obtain ⟨c, r, rfl, -⟩ := shaped.opens
    rw [Filter.side?, if_neg (List.cons_ne_nil _ _), reads]
    rfl

theorem trim_eq : Text.trim t = t := by
  cases h with
  | absent => rfl
  | given shaped => exact shaped.trimmed.trim_eq

theorem eq_nil_iff : t = [] ↔ b = none := by
  cases h with
  | absent => simp
  | given shaped =>
    obtain ⟨c, r, rfl, -⟩ := shaped.opens
    simp

theorem no_pair : Text.NoPair ':' t := by
  cases h with
  | absent => exact List.isChain_nil
  | given shaped => exact shaped.no_pair

theorem getLast_ne {c : Char} (mark : Text.isDigit c = false) : t.getLast? ≠ some c := by
  cases h with
  | absent => simp
  | given shaped => exact shaped.getLast_ne mark

theorem no_bar : '|' ∉ t := by
  cases h with
  | absent => simp
  | given shaped => exact shaped.no_bar

end Spells

namespace RowRange

def sides (r : RowRange) : DateRange := ⟨r.first.map .row, r.last.map .row⟩

theorem sides_override (old new : RowRange) :
    sides (Range.override old new) = Range.override old.sides new.sides := by
  obtain ⟨_ | first, _ | last⟩ := new <;> rfl

end RowRange

namespace DateRange

structure Readable (r : DateRange) : Prop where
  some_side : r.first ≠ none ∨ r.last ≠ none
  first : ∀ b, r.first = some b → b.Readable .first
  last : ∀ b, r.last = some b → b.Readable .last

theorem Readable.isOpen {r : DateRange} (h : r.Readable) : Range.isOpen r = false := by
  rw [Range.isOpen, Bool.and_eq_false_iff, Option.isNone_eq_false_iff, Option.isNone_eq_false_iff]
  exact h.some_side.imp Option.isSome_iff_ne_none.2 Option.isSome_iff_ne_none.2

theorem Readable.isOpen_sides {rows : RowRange} (h : rows.sides.Readable) :
    Range.isOpen rows = false := by
  have same : Range.isOpen rows = Range.isOpen rows.sides := by
    simp [Range.isOpen, RowRange.sides]
  rw [same, h.isOpen]

def hasDate (r : DateRange) : Bool := r.first.any Bound.isDate || r.last.any Bound.isDate

def toSegment (r : DateRange) : Filter.Segment :=
  if r.hasDate then .dates r else .rows ⟨r.first.bind Bound.row?, r.last.bind Bound.row?⟩

theorem toSegment_cases (r : DateRange) :
    r.toSegment = .dates r ∧ r.hasDate = true ∨
      ∃ rows : RowRange, r = rows.sides ∧ r.toSegment = .rows rows := by
  by_cases dates : r.hasDate = true
  · exact .inl ⟨if_pos dates, dates⟩
  · refine .inr ⟨_, ?_, if_neg dates⟩
    simp only [hasDate, Bool.or_eq_true, not_or, Option.any_eq_true, not_exists, not_and] at dates
    obtain ⟨first, last⟩ := r
    have row : ∀ b : Option Bound, (∀ x, b = some x → ¬ x.isDate = true) →
        b = (b.bind Bound.row?).map .row := by
      rintro (_ | _ | d) no_date
      · rfl
      · rfl
      · exact absurd rfl (no_date _ rfl)
    exact congrArg₂ Range.mk (row first dates.1) (row last dates.2)

theorem toSegment_sides (rows : RowRange) : rows.sides.toSegment = .rows rows := by
  obtain ⟨first, last⟩ := rows
  cases first <;> cases last <;> rfl

theorem Readable.override {old new : DateRange} (h : old.Readable) (h' : new.Readable) :
    DateRange.Readable (Range.override old new) := by
  have side : ∀ {a b : Option Bound} {x : Bound}, (a <|> b) = some x → a = some x ∨ b = some x := by
    rintro (_ | a) b x same
    · exact .inr same
    · exact .inl same
  constructor
  · rcases h'.some_side with first | last
    · left
      obtain ⟨b, same⟩ := Option.ne_none_iff_exists'.1 first
      simp [Range.override, same]
    · right
      obtain ⟨b, same⟩ := Option.ne_none_iff_exists'.1 last
      simp [Range.override, same]
  · exact fun b same => (side same).elim (h'.first b) (h.first b)
  · exact fun b same => (side same).elim (h'.last b) (h.last b)

theorem hasDate_override (old : DateRange) {new : DateRange} (h : new.hasDate = true) :
    DateRange.hasDate (Range.override old new) = true := by
  simp only [hasDate, Bool.or_eq_true, Option.any_eq_true] at h ⊢
  rcases h with ⟨b, same, date⟩ | ⟨b, same, date⟩
  · exact .inl ⟨b, by simp [Range.override, same], date⟩
  · exact .inr ⟨b, by simp [Range.override, same], date⟩

theorem some_side_of_hasDate {r : DateRange} (h : r.hasDate = true) :
    r.first ≠ none ∨ r.last ≠ none := by
  obtain ⟨_ | first, _ | last⟩ := r
  · contradiction
  · exact .inr (by simp)
  · exact .inl (by simp)
  · exact .inl (by simp)

/-- What makes a text a range: halves about its first double colon that are sides, and not both
empty. -/
theorem range?_eq_some_iff {t : Text} {s : Filter.Segment} :
    Filter.range? t = some s ↔
      ∃ l r first last, Text.cutPair? ':' ':' t = some (l, r) ∧
        Filter.side? .first (Text.trim l) = some first ∧
        Filter.side? .last (Text.trim r) = some last ∧
        (Text.trim l ≠ [] ∨ Text.trim r ≠ []) ∧ s = toSegment ⟨first, last⟩ := by
  have choice (first last : Option Bound) :
      (if first.any Bound.isDate || last.any Bound.isDate then
          some (Filter.Segment.dates ⟨first, last⟩)
        else some (.rows ⟨first.bind Bound.row?, last.bind Bound.row?⟩)) =
        some (toSegment ⟨first, last⟩) := by
    rw [toSegment, hasDate]
    split <;> rfl
  simp only [Filter.range?, Option.bind_eq_bind, Option.pure_def, choice, Option.bind_eq_some_iff,
    Prod.exists, guard, Option.some_inj]
  constructor
  · rintro ⟨l, r, cut, ⟨⟩, sides, first, left, last, right, rfl⟩
    refine ⟨l, r, first, last, cut, left, right, ?_, rfl⟩
    by_contra empty
    simp [empty] at sides
  · rintro ⟨l, r, first, last, cut, left, right, sides, rfl⟩
    exact ⟨l, r, cut, (), by simp [sides], first, left, last, right, rfl⟩

theorem readable_of_range? {t : Text} {s : Filter.Segment} (h : Filter.range? t = some s) :
    ∃ r : DateRange, r.Readable ∧ s = r.toSegment := by
  obtain ⟨l, r, first, last, -, left, right, given, rfl⟩ := range?_eq_some_iff.1 h
  obtain ⟨first_readable, first_some⟩ := readable_of_side? left
  obtain ⟨last_readable, last_some⟩ := readable_of_side? right
  exact ⟨⟨first, last⟩, ⟨given.imp first_some last_some, first_readable, last_readable⟩, rfl⟩

theorem text_eq (r : DateRange) : r.text = sideText r.first ++ ':' :: ':' :: sideText r.last := by
  simp [text, sideText]

theorem range?_of_spells {l r : Text} {first last : Option Bound} (hl : Spells .first l first)
    (hr : Spells .last r last) (some_side : first ≠ none ∨ last ≠ none) :
    Filter.range? (l ++ ':' :: ':' :: r) = some (toSegment ⟨first, last⟩) := by
  have cut := Text.cutPair?_append hl.no_pair (hl.getLast_ne (by decide)) r
  refine range?_eq_some_iff.2 ⟨l, r, first, last, cut, ?_, ?_, ?_, rfl⟩
  · rw [hl.trim_eq, hl.side?_eq]
  · rw [hr.trim_eq, hr.side?_eq]
  · rw [hl.trim_eq, hr.trim_eq]
    simpa [hl.eq_nil_iff, hr.eq_nil_iff] using some_side

end DateRange
end Logbook
