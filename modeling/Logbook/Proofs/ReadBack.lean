import Logbook.Proofs.CalendarText
import Logbook.Proofs.Canonical
import Logbook.Proofs.Openings
import Logbook.Proofs.Refilter

/-! What is shown for the instant of an entry, read back. The date and the time of day with a space
between them are a stamp, the same instant again, and a bound of a filter on either side. -/

namespace Logbook

open Calendar

namespace Instant

structure IsWritten (i : Instant) : Prop where
  eq_of : i = .of i.date i.clock
  date : ∀ d, i.date = some d → d.IsWritten

def shown (d : Date) (c : Clock) : Text := d.text ++ ' ' :: c.text

end Instant

namespace Stamp

theorem isWritten_of_instant? {k : Kind} {t : Text} {anchor : Option Date} {i : Instant}
    (day : ∀ d, anchor = some d → d.IsWritten) (fits : k.pattern.Fits t)
    (h : instant? k anchor t = some i) : i.IsWritten := by
  unfold instant? at h
  cases timeOnly : k.isTimeOnly with
  | true =>
    rw [timeOnly, if_pos rfl] at h
    obtain ⟨c, -, same⟩ := Option.bind_eq_some_iff.1 h
    cases same
    exact ⟨rfl, day⟩
  | false =>
    rw [timeOnly, if_neg Bool.false_ne_true] at h
    obtain ⟨date, rest, pattern, absent, written⟩ := k.pattern_eq timeOnly
    rw [pattern] at fits
    obtain ⟨a, _, rfl, date_fits, _, time, rfl, rfl, -⟩ := Pattern.fits_append.1 fits
    have separator : k.separator ∉ a := by
      intro hc
      rcases date_fits.char hc with digit | mark
      · cases k <;> contradiction
      · exact absent mark
    have cut := Text.cut?_append separator time
    rw [List.singleton_append, cut, Option.bind_eq_bind, Option.bind_some] at h
    obtain ⟨d, read, h⟩ := Option.bind_eq_some_iff.1 h
    obtain ⟨c, -, same⟩ := Option.bind_eq_some_iff.1 h
    cases same
    refine ⟨rfl, ?_⟩
    rintro _ ⟨⟩
    exact written date_fits read

end Stamp

namespace Assembler

theorem kept_instant : Kept (fun e => ∀ i, e.instant = some i → i.IsWritten)
    (fun anchor => ∀ d, anchor = some d → d.IsWritten) where
  start := by simp
  opens id l anchor s day found := by
    have fits := Stamp.fits_of_find? found
    unfold resolve
    cases instant : Stamp.instant? s.kind anchor s.text with
    | none => exact ⟨by simp [Entry.ofLine], day⟩
    | some i =>
      have written := Stamp.isWritten_of_instant? day fits instant
      refine ⟨?_, ?_⟩
      · rintro _ ⟨⟩
        exact written
      · show ∀ d, (if s.kind.isTimeOnly then anchor else i.date) = some d → d.IsWritten
        split
        · exact day
        · exact written.date
  orphan _ _ := by simp [Entry.ofLine]
  grows _ _ _ h := h

end Assembler

section Shown

open Stamp Instant

variable {d : Date} (h : d.IsWritten) (c : Clock)
include h

theorem fits_shown {most : Nat} (le : 3 ≤ most) :
    (Pattern.date ++ [Piece.mark ' '] ++ Pattern.clock ++ Pattern.fraction '.' 3 most).Fits
      (shown d c) := by
  have space : Pattern.Fits [Piece.mark ' '] [' '] := ⟨[' '], [], rfl, rfl, rfl⟩
  have day := Pattern.fits_append.2 ⟨_, _, rfl, h.fits_text, space⟩
  have time := Pattern.fits_append.2 ⟨_, _, rfl, day, c.fits_secondText⟩
  refine Pattern.fits_append.2 ⟨_, _, ?_, time, c.fits_fractionText le⟩
  simp [shown, c.text_eq]

/-- The kind that is sought before has one colon more than the text. -/
theorem find?_shown : Stamp.find? (shown d c) = some ⟨.dateFraction, [], shown d c⟩ := by
  have colon : findKind? (shown d c) .dateColonMillis = none := by
    unfold findKind?
    cases located : Kind.dateColonMillis.pattern.locate (shown d c) with
    | none => rfl
    | some m =>
      obtain ⟨fits, r, whole⟩ := Pattern.fits_of_locate located
      have three : m.2.count ':' = 3 := fits.count (by decide)
      have two : (shown d c).count ':' = 2 := (fits_shown h c le_rfl).count (by decide)
      have more : m.2.count ':' ≤ (shown d c).count ':' := by
        rw [whole, List.count_append, List.count_append]
        omega
      omega
  have point : findKind? (shown d c) .dateFraction = some ⟨.dateFraction, [], shown d c⟩ := by
    have fits : Kind.dateFraction.pattern.Fits (shown d c) := fits_shown h c (by decide)
    have run : (Pattern.scan Kind.dateFraction.pattern).run (shown d c ++ []) =
        some (shown d c, []) :=
      Pattern.run_of_stops (p := Kind.dateFraction.pattern.dropLast) (q := .digits 3 6) (by decide)
        fits (Scan.stops_nil _)
    rw [List.append_nil] at run
    rw [findKind?, Pattern.locate_of_run run]
    rfl
  rw [Stamp.find?, Kind.all, List.findSome?_cons, colon, List.findSome?_cons, point]

theorem instant?_shown (anchor : Option Date) :
    Stamp.instant? .dateFraction anchor (shown d c) = some (.of (some d) c) := by
  have no_space : ' ' ∉ d.text := h.fits_text.notMem (by decide) (by decide)
  have cut : Text.cut? ' ' (shown d c) = some (d.text, c.text) := Text.cut?_append no_space c.text
  simp [Stamp.instant?, Kind.isTimeOnly, Kind.separator, Kind.date?, cut, h.date?_text,
    c.clock?_text]

theorem read?_shown (side : Side) :
    DateBound.read? side (shown d c) = some ⟨shown d c, millisOf d c⟩ := by
  let w : DateBound.Written := ⟨d.text, some (c.secondText, some c.fractionText)⟩
  have text : w.text = shown d c := by
    simp [w, DateBound.Written.text, shown, c.text_eq]
  have shaped : w.WellFormed := by
    refine ⟨h.fits_text, ?_, ?_⟩
    · rintro _ _ ⟨⟩
      exact c.fits_secondText
    · rintro _ _ ⟨⟩
      exact .inr (c.fits_fractionText le_rfl)
  have clock : Stamp.clock? (c.secondText ++ c.fractionText) = some c := by
    rw [← c.text_eq, c.clock?_text]
  rw [← text, DateBound.read?_of_wellFormed side shaped, text]
  simp [DateBound.ofWritten?, w, h.date?_text, clock, shown, c.text_eq]

theorem millis?_shown (side : Side) :
    DateBound.millis? side (shown d c) = some (millisOf d c) :=
  DateBound.millis?_of_read? (read?_shown h c side)

end Shown

namespace DateRange

def exactly (b : DateBound) : DateRange := ⟨some (.date b), some (.date b)⟩

theorem contains_exactly {b : DateBound} {row : Nat} {millis : Option Int} :
    (exactly b).contains row millis = decide (millis = some b.millis) := by
  rw [Bool.eq_iff_iff, decide_eq_true_iff, contains_iff]
  constructor
  · rintro ⟨first, last⟩
    obtain ⟨ms, rfl, low⟩ := first _ rfl
    obtain ⟨_, ⟨⟩, high⟩ := last _ rfl
    rw [le_antisymm high low]
  · rintro rfl
    constructor
    · rintro _ ⟨⟩
      exact ⟨_, rfl, le_rfl⟩
    · rintro _ ⟨⟩
      exact ⟨_, rfl, le_rfl⟩

theorem readable_exactly {b : DateBound} (read : ∀ side, ∃ t, DateBound.read? side t = some b) :
    (exactly b).Readable where
  some_side := by simp [exactly]
  first := by
    rintro _ ⟨⟩
    exact read .first
  last := by
    rintro _ ⟨⟩
    exact read .last

end DateRange

namespace Filter

def exactly (b : DateBound) : Filter := { dates := some (.exactly b) }

theorem read_exactly {b : DateBound} (read : ∀ side, ∃ t, DateBound.read? side t = some b) :
    Filter.read ('#' :: b.text ++ "::#".toList ++ b.text) = exactly b := by
  have canonical : (exactly b).Canonical := by
    refine ⟨by simp [exactly], by simp [exactly], by simp [exactly], ?_, by simp [exactly]⟩
    rintro _ ⟨⟩
    exact ⟨DateRange.readable_exactly read, rfl⟩
  have separable : (exactly b).Separable := by simp [Separable, exactly]
  have text : (exactly b).text = '#' :: b.text ++ "::#".toList ++ b.text := by
    simp [Filter.text, segments, exactly, DateRange.exactly, Range.isOpen, Option.filter,
      DateRange.text, Bound.text]
  rw [← text, read_text canonical separable]

variable [Regex.Engine]

theorem passes_dates (r : DateRange) (o : View.Options) (e : Entry) :
    View.passes { dates := some r } o e =
      (View.passes {} o e && r.contains e.lineNumber e.millis) := by
  simp [View.passes, View.inTerms, Bool.and_assoc, Bool.and_comm]

theorem passes_exactly (b : DateBound) (o : View.Options) (e : Entry) :
    View.passes (exactly b) o e = (View.passes {} o e && decide (e.millis = some b.millis)) := by
  rw [exactly, passes_dates, DateRange.contains_exactly]

theorem passes_empty (e : Entry) : View.passes {} {} e = true := by
  have levels : LevelSet.all.isAll = true := by decide
  simp [View.passes, View.inTerms, View.inTime, levels]

end Filter

theorem read_shown {d : Date} (h : d.IsWritten) (c : Clock) :
    Filter.read ('#' :: Instant.shown d c ++ "::#".toList ++ Instant.shown d c) =
      .exactly ⟨Instant.shown d c, Instant.millisOf d c⟩ :=
  Filter.read_exactly (b := ⟨Instant.shown d c, Instant.millisOf d c⟩)
    fun side => ⟨_, read?_shown h c side⟩

/-- The date and the time of day shown for an entry stand for its instant, whoever reads them: they
are found as a stamp, the stamp names the instant, and as both bounds of a filter they keep the
entries of the same millisecond. -/
theorem instant_of_shown [Regex.Engine] (t : Text) (e : Entry)
    (he : e ∈ assemble (Source.ofText t).lines) (d c : Text)
    (date : e.instant.bind Instant.dateText = some d)
    (clock : e.instant.map Instant.clockText = some c) :
    let s := d ++ ' ' :: c
    let f := Filter.read ('#' :: s ++ "::#".toList ++ s)
    Stamp.find? s = some ⟨.dateFraction, [], s⟩ ∧
    (∀ anchor, Stamp.instant? .dateFraction anchor s = e.instant) ∧
    (∀ side, DateBound.millis? side s = e.millis) ∧
    (∀ o x, View.passes f o x = (View.passes {} o x && decide (x.millis = e.millis))) ∧
    ∀ entries, (View.evaluate entries f {}).entriesOf entries =
      entries.filter fun x => x.millis = e.millis := by
  obtain ⟨i, instant, shown⟩ := Option.bind_eq_some_iff.1 date
  obtain ⟨day, dated, rfl⟩ := Option.map_eq_some_iff.1 shown
  rw [instant] at clock
  cases clock
  have written := Assembler.kept_instant.assemble _ e he i instant
  have h := written.date day dated
  have same : i = .of (some day) i.clock := dated ▸ written.eq_of
  have millis : e.millis = some (Instant.millisOf day i.clock) := by
    rw [Entry.millis, instant, same]
    rfl
  intro s f
  have text : s = Instant.shown day i.clock := rfl
  have read : f = .exactly ⟨Instant.shown day i.clock, Instant.millisOf day i.clock⟩ :=
    read_shown h i.clock
  have passes : ∀ o x, View.passes f o x =
      (View.passes {} o x && decide (x.millis = e.millis)) := by
    intro o x
    rw [read, millis, Filter.passes_exactly]
  refine ⟨?_, fun anchor => ?_, fun side => ?_, passes, fun entries => ?_⟩
  · exact text ▸ find?_shown h i.clock
  · rw [instant, same, text]
    exact instant?_shown h i.clock anchor
  · rw [millis, text]
    exact millis?_shown h i.clock side
  · rw [View.entriesOf_of_context_zero _ _ rfl]
    refine List.filter_congr fun x _ => ?_
    rw [passes, Filter.passes_empty, Bool.true_and]

theorem instant_of_shown_borrowed_day :
    let _ : Regex.Engine := .upTo 1000
    let t := "29/02/24 23:59:58.007 up\n  more\n10:00:01:250 on".toList
    let s := "2024-02-29 10:00:01.250".toList
    ∃ e ∈ assemble (Source.ofText t).lines, e.id = 1 ∧ e.millis = some 1709200801250 ∧
      e.instant.bind Instant.dateText = some "2024-02-29".toList ∧
      e.instant.map Instant.clockText = some "10:00:01.250".toList ∧
      Stamp.find? s = some ⟨.dateFraction, [], s⟩ ∧
      (∀ anchor, Stamp.instant? .dateFraction anchor s = e.instant) ∧
      (∀ side, DateBound.millis? side s = e.millis) ∧
      ∀ entries, (View.evaluate entries (Filter.read ('#' :: s ++ "::#".toList ++ s)) {}).entriesOf
        entries = entries.filter fun x => x.millis = e.millis := by
  intro _ t s
  obtain ⟨e, found, shown⟩ := Option.map_eq_some_iff.1
    (by decide +kernel : (assemble (Source.ofText t).lines)[1]?.map (fun e =>
      (e.id, e.millis, e.instant.bind Instant.dateText, e.instant.map Instant.clockText)) =
        some (1, some 1709200801250, some "2024-02-29".toList, some "10:00:01.250".toList))
  simp only [Prod.mk.injEq] at shown
  obtain ⟨id, millis, date, clock⟩ := shown
  have member := List.mem_of_getElem? found
  obtain ⟨stamp, instant, bounds, -, filtered⟩ := instant_of_shown t e member _ _ date clock
  exact ⟨e, member, id, millis, date, clock, stamp, instant, bounds, filtered⟩

end Logbook
