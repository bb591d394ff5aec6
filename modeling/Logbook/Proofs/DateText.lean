import Logbook.Filter.DateBound
import Logbook.Proofs.Digits
import Logbook.Proofs.Pattern
import Logbook.Proofs.Taking

/-! The text of a date bound, as it may be written and in canonical form. Neither holds a mark that
ends a side of a range, and the canonical one reads back as the bound. -/

namespace Logbook.DateBound

open Scan Stamp

namespace Written

def text (w : Written) : Text :=
  match w.time with
  | none => w.day
  | some (time, fraction) => w.day ++ ' ' :: (time ++ fraction.getD [])

structure WellFormed (w : Written) : Prop where
  day : Pattern.date.Fits w.day
  time : ∀ time fraction, w.time = some (time, fraction) → Pattern.clock.Fits time
  fraction : ∀ time f, w.time = some (time, some f) →
    (Pattern.fraction ':' 3 3).Fits f ∨ (Pattern.fraction '.' 3 3).Fits f

end Written

/-- What the text of a bound is like, in whatever spelling: it begins and ends with a digit, and
nothing in it ends a side of a range or a segment of a filter. -/
structure Plain (t : Text) : Prop where
  opens : ∃ c r, t = c :: r ∧ Text.isDigit c = true
  closes : ∃ c, t.getLast? = some c ∧ Text.isDigit c = true
  no_pair : Text.NoPair ':' t
  no_bar : '|' ∉ t
  dash : '-' ∈ t

namespace Written

def spaced (gap : Text) (w : Written) : Text :=
  match w.time with
  | none => w.day
  | some (time, fraction) => w.day ++ (gap ++ (time ++ fraction.getD []))

theorem text_eq_spaced (w : Written) : w.text = w.spaced [' '] := by
  obtain ⟨day, _ | _⟩ := w <;> rfl

theorem plain_day {day : Text} (h : Pattern.date.Fits day) : Plain day where
  opens := h.head (by decide)
  closes := Pattern.Fits.getLast (p := Pattern.date.dropLast) h (by decide)
  no_pair := h.noPair (by decide) (by decide)
  no_bar := h.notMem (by decide) (by decide)
  dash := h.mark (by decide)

theorem plain_append {t r : Text} (h : Plain t) (no_pair : Text.NoPair ':' r) (no_bar : '|' ∉ r)
    (closes : ∃ c, r.getLast? = some c ∧ Text.isDigit c = true) : Plain (t ++ r) where
  opens := by
    obtain ⟨c, t, rfl, digit⟩ := h.opens
    exact ⟨c, t ++ r, rfl, digit⟩
  closes := by
    obtain ⟨c, last, digit⟩ := closes
    exact ⟨c, by rw [List.getLast?_append, last, Option.some_or], digit⟩
  no_pair := by
    obtain ⟨c, last, digit⟩ := h.closes
    refine h.no_pair.append no_pair (.inl ?_)
    rw [last]
    rintro ⟨⟩
    contradiction
  no_bar := by simp [h.no_bar, no_bar]
  dash := List.mem_append_left r h.dash

theorem WellFormed.plain {w : Written} (h : w.WellFormed) {gap : Text}
    (blank : Text.Only Text.isBlank gap) : Plain (w.spaced gap) := by
  obtain ⟨day, _ | ⟨time, fraction⟩⟩ := w
  · exact plain_day h.day
  have clock := h.time time fraction rfl
  have timed : Plain (day ++ (gap ++ time)) := by
    have colon : ':' ∉ gap := blank.notMem (by decide)
    have bar : '|' ∉ gap := blank.notMem (by decide)
    have bar' : '|' ∉ time := clock.notMem (by decide) (by decide)
    refine plain_append (plain_day h.day) ?_ (by simp [bar, bar']) ?_
    · refine (Text.noPair_of_notMem colon).append (clock.noPair (by decide) (by decide)) (.inl ?_)
      exact fun last => colon (List.mem_of_getLast? last)
    · obtain ⟨c, last, digit⟩ :=
        Pattern.Fits.getLast (p := Pattern.clock.dropLast) clock (by decide)
      exact ⟨c, by rw [List.getLast?_append, last, Option.some_or], digit⟩
  rcases fraction with _ | f
  · show Plain (day ++ (gap ++ (time ++ [])))
    rwa [List.append_nil]
  · show Plain (day ++ (gap ++ (time ++ f)))
    rw [← List.append_assoc gap, ← List.append_assoc day]
    rcases h.fraction time f rfl with fits | fits
    all_goals
      exact plain_append timed (fits.noPair (by decide) (by decide))
        (fits.notMem (by decide) (by decide)) (Pattern.Fits.getLast (p := [_]) fits (by decide))

end Written

theorem wellFormed_of_run {t r : Text} {w : Written} (h : scanWritten.run t = some (w, r)) :
    w.WellFormed ∧ ∃ gap, Text.Only Text.isBlank gap ∧ t = w.spaced gap ++ r := by
  obtain ⟨day, t₁, scanned, h⟩ := run_bind_eq_some.1 h
  obtain ⟨found, t₂, more, h⟩ := run_bind_eq_some.1 h
  cases h
  obtain ⟨rfl, day_fits⟩ := Pattern.fits_of_run scanned
  rcases run_perhaps_eq_some more with ⟨rfl, rfl⟩ | ⟨⟨time, fraction⟩, rfl, timed⟩
  · exact ⟨⟨day_fits, by simp, by simp⟩, [], by simp [Text.Only], rfl⟩
  · obtain ⟨_, t₃, spaces, timed⟩ := run_bind_eq_some.1 timed
    obtain ⟨time, t₄, clock, timed⟩ := run_bind_eq_some.1 timed
    obtain ⟨fraction, t₅, rest, timed⟩ := run_bind_eq_some.1 timed
    cases timed
    obtain ⟨gap, rfl, -, blank⟩ := takes_blanks1 spaces
    obtain ⟨rfl, time_fits⟩ := Pattern.fits_of_run clock
    rcases run_perhaps_eq_some rest with ⟨rfl, rfl⟩ | ⟨f, rfl, first⟩
    · exact ⟨⟨day_fits, by rintro _ _ ⟨⟩; exact time_fits, by simp⟩, gap, blank,
        by simp [Written.spaced]⟩
    · obtain ⟨s, hs, run⟩ := run_first_eq_some first
      have fits : t₄ = f ++ r ∧
          ((Pattern.fraction ':' 3 3).Fits f ∨ (Pattern.fraction '.' 3 3).Fits f) := by
        rw [List.mem_pair] at hs
        rcases hs with rfl | rfl
        · exact (Pattern.fits_of_run run).imp_right .inl
        · exact (Pattern.fits_of_run run).imp_right .inr
      obtain ⟨rfl, fits⟩ := fits
      exact ⟨⟨day_fits, by rintro _ _ ⟨⟩; exact time_fits, by rintro _ _ ⟨⟩; exact fits⟩, gap,
        blank, by simp [Written.spaced]⟩

theorem run_fraction {fraction : Option Text}
    (h : ∀ f, fraction = some f →
      (Pattern.fraction ':' 3 3).Fits f ∨ (Pattern.fraction '.' 3 3).Fits f) :
    scanFraction.run (fraction.getD []) = some (fraction, []) := by
  rcases fraction with _ | f
  · rfl
  · apply run_perhaps_of_some
    rw [run_first_cons, run_first_cons, Option.getD_some]
    rcases h f rfl with colon | point
    · have run := Pattern.run_of_fits (by decide) colon []
      rw [List.append_nil] at run
      rw [run]
      rfl
    · have run := Pattern.run_of_fits (by decide) point []
      rw [List.append_nil] at run
      have other : (Pattern.scan (Pattern.fraction ':' 3 3)).run f = none := by
        obtain ⟨b, d, rfl, rfl, -⟩ := point
        rfl
      rw [run, other]
      rfl

theorem run_scanTime {time : Text} {fraction : Option Text} (fits : Pattern.clock.Fits time)
    (h : ∀ f, fraction = some f →
      (Pattern.fraction ':' 3 3).Fits f ∨ (Pattern.fraction '.' 3 3).Fits f) :
    scanTime.run (' ' :: (time ++ fraction.getD [])) = some ((time, fraction), []) := by
  have stops : Stops Text.isBlank (time ++ fraction.getD []) := by
    obtain ⟨c, r, rfl, digit⟩ := fits.head (by decide)
    exact stops_cons (Text.not_isBlank_of_isDigit digit) _
  have blank := run_blanks1 (c := ' ') (by decide) stops
  have clock := Pattern.run_of_fits (by decide) fits (fraction.getD [])
  simp [scanTime, blank, clock, run_fraction h]

theorem run_scanWritten {w : Written} (h : w.WellFormed) :
    scanWritten.run w.text = some (w, []) := by
  obtain ⟨day, time⟩ := w
  have date := Pattern.run_of_fits (by decide) h.day
  rcases time with _ | ⟨time, fraction⟩
  · have run := date []
    have nothing : (perhaps scanTime).run [] = some (none, []) := rfl
    rw [List.append_nil] at run
    simp [scanWritten, Written.text, run, nothing]
  · have run := date (' ' :: (time ++ fraction.getD []))
    have shapes : ∀ f, fraction = some f → _ := fun f hf => h.fraction time f (by rw [hf])
    have timed := run_scanTime (h.time time fraction rfl) shapes
    simp [scanWritten, Written.text, run, run_perhaps_of_some timed]

theorem Plain.trimmed {t : Text} (h : Plain t) : Text.Trimmed t := by
  constructor
  · obtain ⟨c, r, rfl, digit⟩ := h.opens
    rintro _ ⟨⟩
    exact Text.not_isBlank_of_isDigit digit
  · obtain ⟨c, last, digit⟩ := h.closes
    rw [last]
    rintro _ ⟨⟩
    exact Text.not_isBlank_of_isDigit digit

theorem read?_of_wellFormed (side : Side) {w : Written} (h : w.WellFormed) :
    read? side w.text = ofWritten? side w := by
  simp [read?, written?, run_scanWritten h]

theorem millis?_of_wellFormed (side : Side) {w : Written} (h : w.WellFormed) :
    millis? side w.text = (ofWritten? side w).map millis := by
  have space : Text.Only Text.isBlank [' '] := by simp [Text.Only, (by decide : Text.isBlank ' ')]
  have plain := h.plain space
  rw [← Written.text_eq_spaced] at plain
  rw [millis?, plain.trimmed.trim_eq, read?_of_wellFormed side h]

theorem text_of_ofWritten? {side : Side} {w : Written} {d : DateBound}
    (h : ofWritten? side w = some d) : d.text = w.text := by
  obtain ⟨day, time⟩ := w
  obtain ⟨date, -, h⟩ := Option.bind_eq_some_iff.1 h
  cases time with
  | none =>
    cases h
    rfl
  | some parts =>
    obtain ⟨time, fraction⟩ := parts
    obtain ⟨clock, -, same⟩ := Option.bind_eq_some_iff.1 h
    cases same
    simp [Written.text]

theorem exists_written {side : Side} {t : Text} {d : DateBound} (h : read? side t = some d) :
    ∃ w : Written, w.WellFormed ∧ ofWritten? side w = some d ∧
      ∃ gap, Text.Only Text.isBlank gap ∧ t = w.spaced gap := by
  obtain ⟨w, written, bound⟩ := Option.bind_eq_some_iff.1 h
  obtain ⟨⟨w', r⟩, run, same⟩ := Option.bind_eq_some_iff.1 written
  obtain ⟨⟨⟩, whole, same⟩ := Option.bind_eq_some_iff.1 same
  cases same
  obtain ⟨shaped, gap, blank, rfl⟩ := wellFormed_of_run run
  have rest : r = [] := by
    by_contra more
    simp [guard, more] at whole
  exact ⟨w, shaped, bound, gap, blank, by rw [rest, List.append_nil]⟩

theorem read?_text {side : Side} {t : Text} {d : DateBound} (h : read? side t = some d) :
    read? side d.text = some d := by
  obtain ⟨w, shaped, bound, -⟩ := exists_written h
  rw [text_of_ofWritten? bound, read?_of_wellFormed side shaped, bound]

theorem plain_of_read? {side : Side} {t : Text} {d : DateBound} (h : read? side t = some d) :
    Plain t := by
  obtain ⟨w, shaped, -, gap, blank, rfl⟩ := exists_written h
  exact shaped.plain blank

theorem millis?_of_read? {side : Side} {t : Text} {d : DateBound} (h : read? side t = some d) :
    millis? side t = some d.millis := by
  rw [millis?, (plain_of_read? h).trimmed.trim_eq, h]
  rfl

theorem isSome_ofWritten?_eq (side : Side) (w : Written) :
    (ofWritten? side w).isSome = (ofWritten? .first w).isSome := by
  obtain ⟨day, _ | ⟨time, fraction⟩⟩ := w
  · simp only [ofWritten?, Option.bind_eq_bind, Option.pure_def, Option.isSome_bind,
      Option.isSome_some]
  · simp only [ofWritten?, Option.bind_eq_bind, Option.pure_def, Option.isSome_bind,
      Option.isSome_some]

theorem isSome_read?_eq (side : Side) (t : Text) :
    (read? side t).isSome = (read? .first t).isSome := by
  simp only [read?, Option.bind_eq_bind, Option.isSome_bind, isSome_ofWritten?_eq side]

theorem read?_ne_none_iff {side : Side} {t : Text}
    (closes : ∀ c, t.getLast? = some c → Text.isBlank c = false) :
    read? side t ≠ none ↔
      (∀ c, t.head? = some c → Text.isBlank c = false) ∧ millis? .first t ≠ none := by
  have either : read? side t ≠ none ↔ read? .first t ≠ none := by
    rw [← Option.isSome_iff_ne_none, ← Option.isSome_iff_ne_none, isSome_read?_eq]
  rw [either]
  constructor
  · intro found
    obtain ⟨d, read⟩ := Option.ne_none_iff_exists'.1 found
    exact ⟨(plain_of_read? read).trimmed.1, by simp [millis?_of_read? read]⟩
  · rintro ⟨opens, accepted⟩ missing
    have trimmed : Text.Trimmed t := ⟨opens, closes⟩
    rw [millis?, trimmed.trim_eq, missing] at accepted
    exact accepted rfl

end Logbook.DateBound
