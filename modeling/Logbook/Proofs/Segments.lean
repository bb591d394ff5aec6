import Logbook.Proofs.Canonical
import Logbook.Proofs.Layers

/-! What a single segment says. It is a gap or a range just in case it is spelled as one; whatever
else it is, and however much of a range it begins with, it is a term. -/

namespace Logbook

namespace Text

/-- Of the characters beyond ASCII only the Kelvin sign and the long s fold into letters of it. -/
theorem foldChar_of_wide {c : Char} (wide : 0x80 ≤ c.toNat) :
    0x80 ≤ (foldChar c).toNat ∨ (foldChar c).toNat ∈ [0, 0x6B, 0x73] := by
  have images : ∀ r ∈ foldRuns, 0x80 ≤ (r.first : Int) + r.shift ∨
      r.first = r.last ∧ ((r.first : Int) + r.shift = 0x6B ∨ (r.first : Int) + r.shift = 0x73) := by
    decide +kernel
  rw [foldChar, if_neg (Nat.not_lt.2 wide), CaseRun.map]
  split
  · next r found =>
    have has : r.first ≤ c.toNat ∧ c.toNat ≤ r.last := by
      have has := List.find?_some found
      simp only [CaseRun.has, Bool.and_eq_true, decide_eq_true_eq] at has
      exact has.1
    have image := images r (List.mem_of_find?_eq_some found)
    rw [Char.toNat_ofNat, List.mem_cons, List.mem_pair]
    split <;> omega
  · exact .inl wide

theorem toLower_of_wide {c : Char} (wide : 0x80 ≤ c.toNat) : c.toLower = c := by
  have large : ¬ (c.val ≥ ('A' : Char).val ∧ c.val ≤ ('Z' : Char).val) := by
    simp only [ge_iff_le, UInt32.le_iff_toNat_le, not_and_or, Nat.not_le]
    exact .inr (Nat.lt_of_lt_of_le (by decide) wide)
  rw [Char.toLower, dif_neg large]

theorem foldChar_eq_iff {d : Char} (small : d.toNat < 0x80) (other : d.toNat ∉ [0, 0x6B, 0x73])
    (c : Char) : foldChar c = d ↔ c.toLower = d := by
  by_cases wide : c.toNat < 0x80
  · rw [foldChar, if_pos wide]
  · rw [Nat.not_lt] at wide
    constructor
    · rintro rfl
      exact absurd (foldChar_of_wide wide) (not_or.2 ⟨Nat.not_le.2 small, other⟩)
    · rintro rfl
      rw [toLower_of_wide wide] at small
      exact absurd wide (Nat.not_le.2 small)

theorem map_eq_iff_of {f g : Char → Char} {w : Text} (same : ∀ d ∈ w, ∀ c, f c = d ↔ g c = d)
    (v : Text) : v.map f = w ↔ v.map g = w := by
  induction w generalizing v with
  | nil => rw [List.map_eq_nil_iff, List.map_eq_nil_iff]
  | cons d w ih =>
    rw [List.forall_mem_cons] at same
    cases v with
    | nil => simp
    | cons c v => simp only [List.map_cons, List.cons.injEq, same.1 c, ih same.2 v]

end Text

namespace Filter

open Text Scan

inductive SpellsGap : Text → Binary64 → Prop where
  | intro {mark before after token : Text} {seconds : Binary64}
      (letters : asciiLower mark = "#gap".toList) (blank : Only isBlank before)
      (blank' : Only isBlank after) (nonempty : token ≠ [])
      (visible : ∀ c ∈ token, isBlank c = false) (number : Binary64.read? token = some seconds)
      (finite : seconds.isFinite = true) (non_negative : seconds.isNonNegative = true) :
      SpellsGap (mark ++ before ++ '=' :: (after ++ token)) seconds

def IsRow (t : Text) : Prop :=
  ∃ digits, t = '#' :: digits ∧ digits ≠ [] ∧ (∀ c ∈ digits, c.isDigit = true) ∧
    Nat.ofDigitChars 10 digits 0 ≤ Numeral.max64

def IsDate (t : Text) : Prop :=
  ∃ date, t = '#' :: date ∧ (∀ c, date.head? = some c → isBlank c = false) ∧
    DateBound.millis? .first date ≠ none

def IsHalf (t : Text) : Prop := t = [] ∨ IsRow t ∨ IsDate t

/-- The text is a range with these halves, which are what stands before and after its first double
colon. -/
structure SpellsRange (t l r : Text) : Prop where
  cut : t = l ++ "::".toList ++ r
  first_cut : NoPair ':' (l ++ [':'])
  left : IsHalf (trim l)
  right : IsHalf (trim r)
  given : ¬ (trim l = [] ∧ trim r = [])

section Gap

theorem alike_gap_iff {mark : Text} :
    Alike mark "#gap".toList ↔ asciiLower mark = "#gap".toList := by
  have plain : ∀ d ∈ ['#', 'g', 'a', 'p'], d.toNat < 0x80 ∧ d.toNat ∉ [0, 0x6B, 0x73] := by simp
  exact map_eq_iff_of (fun d hd => foldChar_eq_iff (plain d hd).1 (plain d hd).2) mark

theorem run_scanGap_eq_some {t token : Text} :
    scanGap.run t = some (token, []) ↔
      ∃ mark before after, t = mark ++ before ++ '=' :: (after ++ token) ∧
        asciiLower mark = "#gap".toList ∧ Only isBlank before ∧ Only isBlank after ∧
        token ≠ [] ∧ ∀ c ∈ token, isBlank c = false := by
  constructor
  · intro h
    obtain ⟨_, t₁, key, h₁⟩ := run_bind_eq_some.1 h
    obtain ⟨_, t₂, first, h₂⟩ := run_bind_eq_some.1 h₁
    obtain ⟨_, t₃, sign, h₃⟩ := run_bind_eq_some.1 h₂
    obtain ⟨_, t₄, second, number⟩ := run_bind_eq_some.1 h₃
    obtain ⟨mark, same, alike⟩ := run_keyword_eq_some.1 key
    obtain ⟨before, same₁, blank⟩ := takes_blanks first
    have same₂ := run_char_eq_some.1 sign
    obtain ⟨after, same₃, blank'⟩ := takes_blanks second
    obtain ⟨same₄, nonempty, visible, -⟩ := run_many1_eq_some.1 number
    rw [List.append_nil] at same₄
    subst same₄ same₃ same₂ same₁ same
    exact ⟨mark, before, after, (List.append_assoc ..).symm, alike_gap_iff.1 alike, blank, blank',
      nonempty, fun c hc => by simpa using visible c hc⟩
  · rintro ⟨mark, before, after, rfl, letters, blank, blank', nonempty, visible⟩
    rw [List.append_assoc]
    exact Segment.run_scanGap (alike_gap_iff.2 letters) blank blank' nonempty visible

theorem gap?_eq_some_iff {t : Text} {seconds : Binary64} :
    gap? t = some seconds ↔ SpellsGap t seconds := by
  simp only [gap?, Option.bind_eq_bind, Option.bind_eq_some_iff, Option.guard_eq_some', Prod.exists,
    Bool.and_eq_true, Option.pure_def, Option.some_inj, List.isEmpty_iff]
  constructor
  · rintro ⟨token, rest, scanned, ⟨⟩, rfl, seconds', number, ⟨⟩, ⟨finite, non_negative⟩, rfl⟩
    obtain ⟨mark, before, after, rfl, letters, blank, blank', nonempty, visible⟩ :=
      run_scanGap_eq_some.1 scanned
    exact .intro letters blank blank' nonempty visible number finite non_negative
  · rintro ⟨letters, blank, blank', nonempty, visible, number, finite, non_negative⟩
    have run := run_scanGap_eq_some.2
      ⟨_, _, _, rfl, letters, blank, blank', nonempty, visible⟩
    exact ⟨_, _, run, (), rfl, _, number, (), ⟨finite, non_negative⟩, rfl⟩

end Gap

section Halves

variable (side : Side) {t : Text}

theorem isRow_iff : IsRow t ↔ ∃ n, bound? side t = some (.row n) := by
  constructor
  · rintro ⟨digits, rfl, nonempty, ascii, fits⟩
    have all : digits.all isDigit = true :=
      List.all_eq_true.2 fun c hc => isDigit_of_ascii (ascii c hc)
    rw [bound?, if_pos ⟨nonempty, all⟩, Numeral.read?_eq_some nonempty ascii fits]
    exact ⟨_, rfl⟩
  · rintro ⟨n, h⟩
    unfold bound? at h
    split at h
    · next digits =>
      split at h
      · next all =>
        obtain ⟨_, number, ⟨⟩⟩ := Option.map_eq_some_iff.1 h
        have unsigned : '+' ∉ digits :=
          fun plus => absurd (List.all_eq_true.1 all.2 '+' plus) (by decide)
        obtain ⟨ascii, value⟩ := Numeral.digits_of_read? unsigned number
        exact ⟨digits, rfl, all.1, ascii, value.trans_le (Numeral.le_of_read? number)⟩
      · obtain ⟨_, -, ⟨⟩⟩ := Option.map_eq_some_iff.1 h
    · contradiction

variable (closes : ∀ c, t.getLast? = some c → isBlank c = false)
include closes

theorem isDate_iff : IsDate t ↔ ∃ d, bound? side t = some (.date d) := by
  have inner {date : Text} (ht : t = '#' :: date) :
      ∀ c, date.getLast? = some c → isBlank c = false :=
    fun c last => closes c (by simp [ht, List.getLast?_cons, last])
  constructor
  · rintro ⟨date, rfl, opens, accepted⟩
    obtain ⟨d, read⟩ := Option.ne_none_iff_exists'.1
      ((DateBound.read?_ne_none_iff (inner rfl)).2 ⟨opens, accepted⟩)
    exact ⟨d, Bound.bound?_date read⟩
  · rintro ⟨d, h⟩
    unfold bound? at h
    split at h
    · next date =>
      split at h
      · obtain ⟨_, -, ⟨⟩⟩ := Option.map_eq_some_iff.1 h
      · obtain ⟨_, read, ⟨⟩⟩ := Option.map_eq_some_iff.1 h
        have found : DateBound.read? side date ≠ none := by simp [read]
        exact ⟨date, rfl, (DateBound.read?_ne_none_iff (inner rfl)).1 found⟩
    · contradiction

theorem isHalf_iff : IsHalf t ↔ ∃ b, side? side t = some b := by
  rw [IsHalf, isRow_iff side, isDate_iff side closes, side?]
  split
  · next empty => simp [empty]
  · next nonempty =>
    simp only [nonempty, false_or, Option.map_eq_some_iff]
    constructor
    · rintro (⟨n, row⟩ | ⟨d, date⟩)
      · exact ⟨_, _, row, rfl⟩
      · exact ⟨_, _, date, rfl⟩
    · rintro ⟨_, n | d, bound, -⟩
      · exact .inl ⟨n, bound⟩
      · exact .inr ⟨d, bound⟩

variable {side}

theorem hasDate_side? {b : Option Bound} (h : side? side t = some b) :
    b.any Bound.isDate = true ↔ IsDate t := by
  rw [isDate_iff side closes]
  unfold side? at h
  split at h
  · next empty =>
    cases h
    simp [empty, bound?]
  · obtain ⟨bound, found, rfl⟩ := Option.map_eq_some_iff.1 h
    cases bound <;> simp [found, Bound.isDate]

end Halves

section Ranges

variable {t l r : Text}

theorem SpellsRange.range?_eq (h : SpellsRange t l r) :
    ∃ range : DateRange, range? t = some range.toSegment ∧
      (range.hasDate = true ↔ IsDate (trim l) ∨ IsDate (trim r)) := by
  obtain ⟨first, left⟩ := (isHalf_iff .first (trimmed_trim l).2).1 h.left
  obtain ⟨last, right⟩ := (isHalf_iff .last (trimmed_trim r).2).1 h.right
  have cut : t = l ++ ':' :: ':' :: r := h.cut.trans (List.append_assoc ..)
  refine ⟨⟨first, last⟩, DateRange.range?_eq_some_iff.2 ⟨l, r, first, last,
    cutPair?_eq_some_iff.2 ⟨cut, h.first_cut⟩, left, right, not_and_or.1 h.given, rfl⟩, ?_⟩
  rw [DateRange.hasDate, Bool.or_eq_true, hasDate_side? (trimmed_trim l).2 left,
    hasDate_side? (trimmed_trim r).2 right]

theorem spellsRange_of_range? {s : Segment} (h : range? t = some s) :
    ∃ l r, SpellsRange t l r := by
  obtain ⟨l, r, first, last, found, left, right, given, -⟩ := DateRange.range?_eq_some_iff.1 h
  obtain ⟨cut, first_cut⟩ := cutPair?_eq_some_iff.1 found
  exact ⟨l, r, by rw [cut, List.append_assoc]; rfl, first_cut,
    (isHalf_iff .first (trimmed_trim l).2).2 ⟨first, left⟩,
    (isHalf_iff .last (trimmed_trim r).2).2 ⟨last, right⟩, not_and_or.2 given⟩

theorem SpellsRange.gap?_eq_none (h : SpellsRange t l r)
    (opens : ∀ c, t.head? = some c → isBlank c = false) : gap? t = none := by
  obtain ⟨rfl, -, left, -, -⟩ := h
  rcases l with _ | ⟨c, l⟩
  · exact Segment.gap?_of_colon _
  · have visible : isBlank c = false := opens c rfl
    have front : trim (c :: l) <+: c :: l := trim_prefix (by simpa using visible)
    obtain ⟨b, side⟩ := (isHalf_iff .first (trimmed_trim (c :: l)).2).1 left
    have nonempty : trim (c :: l) ≠ [] := by
      intro blank
      have blank := trim_eq_nil_iff.1 blank c (by simp)
      simp [visible] at blank
    rw [side?, if_neg nonempty] at side
    obtain ⟨bound, found, -⟩ := Option.map_eq_some_iff.1 side
    obtain ⟨d, rest, text, digit⟩ := Bound.opens_of_bound? found
    obtain ⟨more, same⟩ := front
    rw [← same, text]
    exact Segment.gap?_of_digit digit _

end Ranges

theorem headD_toSegments (s : Segment) : (ofSegments [s]).toSegments.headD .void = s := by
  cases s <;> rfl

theorem read_eq_iff {g : Text} (segment : IsSegment g) (s : Segment) :
    read g = ofSegments [s] ↔ Segment.of g = s := by
  rw [read_segment segment]
  constructor
  · intro same
    rw [← headD_toSegments (Segment.of g), same, headD_toSegments]
  · rintro rfl
    rfl

theorem read_of_means {t : Text} {s : Segment} (h : Segment.Means t s) : read t = ofSegments [s] :=
  (read_eq_iff h.segment s).2 h.of_eq

theorem read_append_iff {g : Text} (segment : IsSegment g) (s : Segment) :
    (∀ f : Text, f.getLast? ≠ some '|' →
      read (f ++ "||".toList ++ g) = (read f).layer (ofSegments [s])) ↔ Segment.of g = s := by
  have said (f : Text) (last : f.getLast? ≠ some '|') :
      read (f ++ "||".toList ++ g) = (read f).layer (ofSegments [Segment.of g]) := by
    rw [List.append_assoc, ← read_segment segment]
    exact read_append last g
  constructor
  · intro same
    have alone : ofSegments ([] ++ [Segment.of g]) = ofSegments ([] ++ [s]) := by
      rw [ofSegments_append, ofSegments_append]
      exact (said [] (by simp)).symm.trans (same [] (by simp))
    exact (read_eq_iff segment s).1 ((read_segment segment).trans alone)
  · rintro rfl
    exact said

namespace Segment

def dated? : Segment → Option Bool
  | .rows _ => some false
  | .dates _ => some true
  | _ => none

theorem dated?_toSegment (r : DateRange) : r.toSegment.dated? = some r.hasDate := by
  rw [DateRange.toSegment]
  split
  · next date => rw [date, dated?]
  · next no_date => rw [Bool.eq_false_iff.2 no_date, dated?]

end Segment

section Said

variable {g : Text} (segment : IsSegment g) (plain : g.head? ≠ some '!')
include plain

theorem of_spellsGap {seconds : Binary64} (h : SpellsGap g seconds) :
    Segment.of g = .gap seconds :=
  Segment.of_gap plain (gap?_eq_some_iff.2 h)

theorem of_plain_cases :
    (∃ seconds, SpellsGap g seconds ∧ Segment.of g = .gap seconds) ∨
    (∃ l r, SpellsRange g l r) ∨
    (¬ ∃ seconds, SpellsGap g seconds) ∧ Segment.of g = .include ⟨g⟩ := by
  cases gap : gap? g with
  | some seconds => exact .inl ⟨seconds, gap?_eq_some_iff.1 gap, Segment.of_gap plain gap⟩
  | none =>
    cases range : range? g with
    | some s => exact .inr (.inl (spellsRange_of_range? range))
    | none =>
      refine .inr (.inr ⟨?_, by rw [Segment.of_range plain gap, range]; rfl⟩)
      rintro ⟨seconds, spells⟩
      simp [gap?_eq_some_iff.2 spells] at gap

theorem of_eq_include (no_range : ¬ ∃ l r, SpellsRange g l r)
    (no_gap : ¬ ∃ seconds, SpellsGap g seconds) : Segment.of g = .include ⟨g⟩ := by
  rcases of_plain_cases plain with ⟨seconds, h, -⟩ | range | ⟨-, same⟩
  · exact absurd ⟨seconds, h⟩ no_gap
  · exact absurd range no_range
  · exact same

include segment

theorem of_spellsRange {l r : Text} (h : SpellsRange g l r) :
    ∃ range : DateRange, Segment.of g = range.toSegment ∧
      (range.hasDate = true ↔ IsDate (trim l) ∨ IsDate (trim r)) := by
  obtain ⟨range, found, dates⟩ := h.range?_eq
  refine ⟨range, ?_, dates⟩
  rw [Segment.of_range plain (h.gap?_eq_none segment.trimmed.1), found]
  rfl

theorem dated?_of (date : Bool) : (Segment.of g).dated? = some date ↔
    ∃ l r, SpellsRange g l r ∧ (date = true ↔ IsDate (trim l) ∨ IsDate (trim r)) := by
  constructor
  · intro said
    rcases of_plain_cases plain with ⟨_, -, other⟩ | ⟨l, r, h⟩ | ⟨-, other⟩
    · simp [other, Segment.dated?] at said
    · obtain ⟨range, same, dates⟩ := of_spellsRange segment plain h
      rw [same, Segment.dated?_toSegment] at said
      cases said
      exact ⟨l, r, h, dates⟩
    · simp [other, Segment.dated?] at said
  · rintro ⟨l, r, h, said⟩
    obtain ⟨range, same, dates⟩ := of_spellsRange segment plain h
    rw [same, Segment.dated?_toSegment, Option.some_inj, Bool.eq_iff_iff, dates, said]

theorem of_eq_rows_iff : (∃ rows, Segment.of g = .rows rows) ↔
    ∃ l r, SpellsRange g l r ∧ ¬ (IsDate (trim l) ∨ IsDate (trim r)) := by
  have rows : (∃ rows, Segment.of g = .rows rows) ↔ (Segment.of g).dated? = some false := by
    cases Segment.of g <;> simp [Segment.dated?]
  rw [rows, dated?_of segment plain]
  simp only [Bool.false_eq_true, false_iff]

theorem of_eq_dates_iff : (∃ dates, Segment.of g = .dates dates) ↔
    ∃ l r, SpellsRange g l r ∧ (IsDate (trim l) ∨ IsDate (trim r)) := by
  have dates : (∃ dates, Segment.of g = .dates dates) ↔ (Segment.of g).dated? = some true := by
    cases Segment.of g <;> simp [Segment.dated?]
  rw [dates, dated?_of segment plain]
  simp only [true_iff]

theorem of_eq_gap_iff {seconds : Binary64} :
    Segment.of g = .gap seconds ↔ SpellsGap g seconds := by
  constructor
  · intro said
    rcases of_plain_cases plain with ⟨found, h, same⟩ | ⟨l, r, h⟩ | ⟨-, other⟩
    · rw [said] at same
      cases same
      exact h
    · obtain ⟨range, same, -⟩ := of_spellsRange segment plain h
      have dated := Segment.dated?_toSegment range
      rw [← same, said] at dated
      contradiction
    · simp [said] at other
  · exact of_spellsGap plain

end Said

/-- A range or a gap is set by what is spelled as one, whatever stands before it. Every other
segment, however close to one, is a term that changes nothing else. -/
theorem read_append_segment {g : Text} (segment : IsSegment g) (plain : g.head? ≠ some '!') :
    ((∃ rows, ∀ f : Text, f.getLast? ≠ some '|' → read (f ++ "||".toList ++ g) =
        { read f with rows := Range.layer (read f).rows (some rows) }) ↔
      ∃ l r, SpellsRange g l r ∧ ¬ (IsDate (trim l) ∨ IsDate (trim r))) ∧
    ((∃ dates, ∀ f : Text, f.getLast? ≠ some '|' → read (f ++ "||".toList ++ g) =
        { read f with dates := Range.layer (read f).dates (some dates) }) ↔
      ∃ l r, SpellsRange g l r ∧ (IsDate (trim l) ∨ IsDate (trim r))) ∧
    (∀ seconds, (∀ f : Text, f.getLast? ≠ some '|' → read (f ++ "||".toList ++ g) =
        { read f with gap := some seconds }) ↔ SpellsGap g seconds) ∧
    ((¬ ∃ l r, SpellsRange g l r) → (¬ ∃ seconds, SpellsGap g seconds) →
      ∀ f : Text, f.getLast? ≠ some '|' → read (f ++ "||".toList ++ g) =
        { read f with includes := (read f).includes ++ [⟨g⟩] }) := by
  refine ⟨?_, ?_, fun seconds => ?_, fun no_range no_gap f last => ?_⟩
  · rw [← of_eq_rows_iff segment plain]
    refine exists_congr fun rows => ?_
    simp only [← layer_rows]
    exact read_append_iff segment (.rows rows)
  · rw [← of_eq_dates_iff segment plain]
    refine exists_congr fun dates => ?_
    simp only [← layer_dates]
    exact read_append_iff segment (.dates dates)
  · rw [← of_eq_gap_iff segment plain]
    simp only [← layer_gap]
    exact read_append_iff segment (.gap seconds)
  · have said := of_eq_include plain no_range no_gap
    rw [← layer_includes]
    exact (read_append_iff segment (.include ⟨g⟩)).2 said f last

theorem read_append_segment_row_and_date :
    let g := "#5 :: #2024-02-29".toList
    let g' := "#18446744073709551616::#2024-02-29".toList
    IsSegment g ∧ g.head? ≠ some '!' ∧ IsSegment g' ∧ g'.head? ≠ some '!' ∧
    (∃ dates, ∀ f : Text, f.getLast? ≠ some '|' → read (f ++ "||".toList ++ g) =
      { read f with dates := Range.layer (read f).dates (some dates) }) ∧
    ∀ f : Text, f.getLast? ≠ some '|' → read (f ++ "||".toList ++ g') =
      { read f with includes := (read f).includes ++ [⟨g'⟩] } := by
  intro g g'
  have segment : IsSegment g := isSegment_of_mem (t := g) (by decide)
  have segment' : IsSegment g' := isSegment_of_mem (t := g') (by decide)
  have row : IsRow "#5".toList := ⟨"5".toList, rfl, by decide, by simp, by decide +kernel⟩
  have date : IsDate "#2024-02-29".toList := by
    refine ⟨"2024-02-29".toList, rfl, ?_, by decide +kernel⟩
    rintro _ ⟨⟩
    decide
  have range : SpellsRange g "#5 ".toList " #2024-02-29".toList :=
    ⟨rfl, by simp [NoPair], .inr (.inl row), .inr (.inr date), by decide⟩
  have no_range : ¬ ∃ l r, SpellsRange g' l r := by
    rintro ⟨l, r, h⟩
    obtain ⟨_, found, -⟩ := h.range?_eq
    have missing : range? g' = none := by decide +kernel
    rw [missing] at found
    contradiction
  have no_gap : ¬ ∃ seconds, SpellsGap g' seconds := by
    rintro ⟨seconds, h⟩
    have missing : gap? g' = none := by decide +kernel
    rw [gap?_eq_some_iff.2 h] at missing
    contradiction
  exact ⟨segment, by decide, segment', by decide,
    (read_append_segment segment (by decide)).2.1.2 ⟨_, _, range, .inr date⟩,
    (read_append_segment segment' (by decide)).2.2.2 no_range no_gap⟩

end Filter
end Logbook
