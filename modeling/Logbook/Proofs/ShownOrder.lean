import Logbook.Proofs.Chronology
import Logbook.Proofs.ReadBack
import Logbook.Proofs.TimeBounds

/-! Date bounds and the stamps that are shown, compared as texts. A bound in canonical form keeps
the entries whose stamp, cut to the length of the bound, does not come before it, or not after it,
in the order of a dictionary. -/

namespace Logbook

open Calendar Stamp

inductive Grain where
  | day
  | second
  | milli
deriving DecidableEq, Repr

namespace Grain

def size : Grain → Int
  | day => 86400000
  | second => 1000
  | milli => 1

def pattern : Grain → Pattern
  | day => Pattern.date
  | second => Pattern.date ++ [.mark ' '] ++ Pattern.clock
  | milli => Pattern.date ++ [.mark ' '] ++ Pattern.clock ++ Pattern.fraction '.' 3 3

def floor (g : Grain) (millis : Int) : Int := g.size * (millis / g.size)

inductive Parts : Grain → DateBound.Written → Prop where
  | day {day : Text} (date : Pattern.date.Fits day) : Parts .day ⟨day, none⟩
  | second {day time : Text} (date : Pattern.date.Fits day) (clock : Pattern.clock.Fits time) :
      Parts .second ⟨day, some (time, none)⟩
  | milli {day time f : Text} (date : Pattern.date.Fits day) (clock : Pattern.clock.Fits time)
      (fraction : (Pattern.fraction '.' 3 3).Fits f) : Parts .milli ⟨day, some (time, some f)⟩

theorem exists_parts {g : Grain} {b : Text} (fits : g.pattern.Fits b) :
    ∃ w, g.Parts w ∧ w.text = b := by
  cases g with
  | day => exact ⟨_, .day fits, rfl⟩
  | second =>
    obtain ⟨_, time, rfl, front, clock⟩ := Pattern.fits_append.1 fits
    obtain ⟨day, _, rfl, date, _, _, rfl, rfl, rfl⟩ := Pattern.fits_append.1 front
    exact ⟨_, .second date clock, by simp [DateBound.Written.text]⟩
  | milli =>
    obtain ⟨_, f, rfl, front, fraction⟩ := Pattern.fits_append.1 fits
    obtain ⟨_, time, rfl, front, clock⟩ := Pattern.fits_append.1 front
    obtain ⟨day, _, rfl, date, _, _, rfl, rfl, rfl⟩ := Pattern.fits_append.1 front
    exact ⟨_, .milli date clock fraction, by simp [DateBound.Written.text]⟩

namespace Parts

variable {g : Grain} {w w' : DateBound.Written} (h : g.Parts w)
include h

theorem wellFormed : w.WellFormed := by
  cases h with
  | day date => exact ⟨date, by simp, by simp⟩
  | second date clock => exact ⟨date, by rintro _ _ ⟨⟩; exact clock, by simp⟩
  | milli date clock fraction =>
    exact ⟨date, by rintro _ _ ⟨⟩; exact clock, by rintro _ _ ⟨⟩; exact .inr fraction⟩

theorem read?_text (side : Side) : DateBound.read? side w.text = DateBound.ofWritten? side w :=
  DateBound.read?_of_wellFormed side h.wellFormed

theorem millis?_text (side : Side) :
    DateBound.millis? side w.text = (DateBound.ofWritten? side w).map DateBound.millis :=
  DateBound.millis?_of_wellFormed side h.wellFormed

theorem length_eq (h' : g.Parts w') : w.text.length = w'.text.length := by
  have day : ∀ {t}, Pattern.date.Fits t → t.length = 10 := fun fits => fits.length_eq (by decide)
  have time : ∀ {t}, Pattern.clock.Fits t → t.length = 8 := fun fits => fits.length_eq (by decide)
  have rest : ∀ {t}, (Pattern.fraction '.' 3 3).Fits t → t.length = 4 :=
    fun fits => fits.length_eq (by decide)
  cases h with
  | day date =>
    cases h' with
    | day date' => exact (day date).trans (day date').symm
  | second date clock =>
    cases h' with
    | second date' clock' =>
      simp [DateBound.Written.text, day date, day date', time clock, time clock']
  | milli date clock fraction =>
    cases h' with
    | milli date' clock' fraction' =>
      simp [DateBound.Written.text, day date, day date', time clock, time clock', rest fraction,
        rest fraction']

end Parts

section

variable {day time : Text} {fraction : Option Text} {side : Side} {x : DateBound} {d : Date}
  {c : Clock}

def wholeDay : Side → Clock
  | .first => .midnight
  | .last => .endOfDay

theorem ofWritten?_day (read : Stamp.date? day = some d) :
    DateBound.ofWritten? side ⟨day, none⟩ = some ⟨day, Instant.millisOf d (wholeDay side)⟩ := by
  simp only [DateBound.ofWritten?, read]
  cases side <;> rfl

theorem date?_of_ofWritten?_day (h : DateBound.ofWritten? side ⟨day, none⟩ = some x) :
    ∃ d, Stamp.date? day = some d ∧ x.millis = Instant.millisOf d (wholeDay side) := by
  obtain ⟨d, read, -⟩ := Option.bind_eq_some_iff.1 h
  rw [ofWritten?_day read] at h
  cases h
  exact ⟨d, read, rfl⟩

theorem ofWritten?_time (date : Stamp.date? day = some d)
    (clock : Stamp.clock? (time ++ fraction.getD []) = some c) :
    DateBound.ofWritten? side ⟨day, some (time, fraction)⟩ =
      some ⟨day ++ [' '] ++ (time ++ fraction.getD []), if side = .last ∧ fraction = none then
        DateBound.endOfSecond (Instant.millisOf d c) else Instant.millisOf d c⟩ := by
  simp only [DateBound.ofWritten?, date, clock]
  rfl

theorem millis_of_ofWritten?_time
    (h : DateBound.ofWritten? side ⟨day, some (time, fraction)⟩ = some x) :
    ∃ d c, Stamp.date? day = some d ∧ Stamp.clock? (time ++ fraction.getD []) = some c ∧
      x.millis = if side = .last ∧ fraction = none then
        DateBound.endOfSecond (Instant.millisOf d c) else Instant.millisOf d c := by
  obtain ⟨d, date, rest⟩ := Option.bind_eq_some_iff.1 h
  obtain ⟨c, clock, -⟩ := Option.bind_eq_some_iff.1 rest
  rw [ofWritten?_time date clock] at h
  cases h
  exact ⟨d, c, date, clock, rfl⟩

theorem date?_of_ofWritten?_time
    (h : DateBound.ofWritten? .first ⟨day, some (time, fraction)⟩ = some x) :
    ∃ d c, Stamp.date? day = some d ∧ Stamp.clock? (time ++ fraction.getD []) = some c ∧
      x.millis = Instant.millisOf d c := by
  obtain ⟨d, c, date, clock, millis⟩ := millis_of_ofWritten?_time h
  exact ⟨d, c, date, clock, by simpa using millis⟩

end

theorem compare_timed {day day' time time' f f' : Text} {d d' : Date} {c c' : Clock}
    (date : Pattern.date.Fits day) (date' : Pattern.date.Fits day')
    (clock : Pattern.clock.Fits time) (clock' : Pattern.clock.Fits time')
    (read_d : Stamp.date? day = some d) (read_d' : Stamp.date? day' = some d')
    (read_c : Stamp.clock? (time ++ f) = some c) (read_c' : Stamp.clock? (time' ++ f') = some c')
    (fractions : ∀ n n', milli? f = some n → milli? f' = some n' → compare f f' = compare n n') :
    compare (day ++ ' ' :: (time ++ f)) (day' ++ ' ' :: (time' ++ f')) =
      compare (Instant.millisOf d c) (Instant.millisOf d' c') := by
  have length : day.length = day'.length :=
    (date.length_eq (by decide)).trans (date'.length_eq (by decide)).symm
  rw [Text.compare_append length, Text.compare_cons_self,
    compare_of_date? date date' read_d read_d',
    compare_of_clock? clock clock' read_c read_c' fractions, Instant.compare_millisOf]

theorem compare_shown {d d' : Date} (h : d.IsWritten) (h' : d'.IsWritten) (c c' : Clock) :
    compare (Instant.shown d c) (Instant.shown d' c') =
      compare (Instant.millisOf d c) (Instant.millisOf d' c') := by
  have clock : ∀ c : Clock, Stamp.clock? (c.secondText ++ c.fractionText) = some c := by
    intro c
    rw [← c.text_eq, c.clock?_text]
  rw [Instant.shown, Instant.shown, c.text_eq, c'.text_eq]
  apply compare_timed h.fits_text h'.fits_text c.fits_secondText c'.fits_secondText h.date?_text
    h'.date?_text (clock c) (clock c')
  exact fun _ _ => compare_of_milli? (c.fits_fractionText le_rfl) (c'.fits_fractionText le_rfl)

theorem Parts.compare_text {g : Grain} {w w' : DateBound.Written} {x x' : DateBound}
    (h : g.Parts w) (h' : g.Parts w') (read : DateBound.ofWritten? .first w = some x)
    (read' : DateBound.ofWritten? .first w' = some x') :
    compare w.text w'.text = compare x.millis x'.millis := by
  cases h with
  | day date =>
    cases h' with
    | day date' =>
      obtain ⟨d, read_d, millis⟩ := date?_of_ofWritten?_day read
      obtain ⟨d', read_d', millis'⟩ := date?_of_ofWritten?_day read'
      rw [millis, millis', Instant.compare_millisOf, compare_eq_iff_eq.2 rfl, Ordering.then_eq]
      exact compare_of_date? date date' read_d read_d'
  | second date clock =>
    cases h' with
    | second date' clock' =>
      obtain ⟨d, c, read_d, read_c, millis⟩ := date?_of_ofWritten?_time read
      obtain ⟨d', c', read_d', read_c', millis'⟩ := date?_of_ofWritten?_time read'
      rw [millis, millis']
      apply compare_timed date date' clock clock' read_d read_d' read_c read_c'
      rintro _ _ ⟨⟩ ⟨⟩
      rfl
  | milli date clock fraction =>
    cases h' with
    | milli date' clock' fraction' =>
      obtain ⟨d, c, read_d, read_c, millis⟩ := date?_of_ofWritten?_time read
      obtain ⟨d', c', read_d', read_c', millis'⟩ := date?_of_ofWritten?_time read'
      rw [millis, millis']
      apply compare_timed date date' clock clock' read_d read_d' read_c read_c'
      exact fun _ _ => compare_of_milli? fraction fraction'

theorem Parts.ends {g : Grain} {w : DateBound.Written} {x : DateBound} (h : g.Parts w)
    (read : DateBound.ofWritten? .first w = some x) :
    g.floor x.millis = x.millis ∧ ∃ y, DateBound.ofWritten? .last w = some y ∧
      y.millis = x.millis + (g.size - 1) := by
  cases h with
  | day date =>
    obtain ⟨d, read_d, millis⟩ := date?_of_ofWritten?_day read
    rw [millis]
    refine ⟨?_, _, ofWritten?_day read_d, ?_⟩
    · simp only [floor, size, Instant.millisOf, wholeDay, Clock.midnight, Clock.millis]
      omega
    · simp only [size, Instant.millisOf, wholeDay, Clock.midnight, Clock.endOfDay, Clock.millis]
      omega
  | second date clock =>
    obtain ⟨d, c, read_d, read_c, millis⟩ := date?_of_ofWritten?_time read
    have milli := milli_eq_zero clock read_c
    rw [millis]
    refine ⟨?_, _, ofWritten?_time read_d read_c, ?_⟩
    · simp only [floor, size, Instant.millisOf, Clock.millis, milli]
      omega
    · simp only [size, DateBound.endOfSecond, if_true, and_self]
      omega
  | milli date clock fraction =>
    obtain ⟨d, c, read_d, read_c, millis⟩ := date?_of_ofWritten?_time read
    refine ⟨by simp [floor, size], _, ofWritten?_time read_d read_c, ?_⟩
    simp [size, millis]

theorem exists_front (g : Grain) {d : Date} (h : d.IsWritten) (c : Clock) :
    ∃ w, g.Parts w ∧ w.text <+: Instant.shown d c ∧
      ∃ x, DateBound.ofWritten? .first w = some x ∧
        x.millis = g.floor (Instant.millisOf d c) := by
  have shown : Instant.shown d c = d.text ++ ' ' :: (c.secondText ++ c.fractionText) := by
    rw [Instant.shown, c.text_eq]
  cases g with
  | day =>
    have short := c.millis_lt
    refine ⟨⟨d.text, none⟩, .day h.fits_text, List.prefix_append _ _, _,
      ofWritten?_day h.date?_text, ?_⟩
    simp only [floor, size, Instant.millisOf, wholeDay, Clock.midnight]
    simp only [Clock.millis] at short ⊢
    omega
  | second =>
    have milli := c.milli_lt
    have read := c.clock?_secondText
    rw [← List.append_nil c.secondText, ← Option.getD_none (a := ([] : Text))] at read
    refine ⟨⟨d.text, some (c.secondText, none)⟩, .second h.fits_text c.fits_secondText, ?_, _,
      ofWritten?_time h.date?_text read, ?_⟩
    · refine ⟨c.fractionText, ?_⟩
      rw [shown]
      simp [DateBound.Written.text]
    · simp only [reduceCtorEq, false_and, if_false, floor, size, Instant.millisOf, Clock.millis]
      omega
  | milli =>
    have read : Stamp.clock? (c.secondText ++ (some c.fractionText).getD []) = some c := by
      rw [Option.getD_some, ← c.text_eq, c.clock?_text]
    refine ⟨⟨d.text, some (c.secondText, some c.fractionText)⟩,
      .milli h.fits_text c.fits_secondText (c.fits_fractionText le_rfl), ?_, _,
      ofWritten?_time h.date?_text read, ?_⟩
    · rw [shown]
      simp [DateBound.Written.text]
    · simp [floor, size]

theorem le_floor_iff {g : Grain} {m n : Int} (h : g.floor n = n) : n ≤ g.floor m ↔ n ≤ m := by
  cases g <;> simp only [floor, size] at h ⊢ <;> omega

theorem floor_le_iff {g : Grain} {m n : Int} (h : g.floor n = n) :
    g.floor m ≤ n ↔ m ≤ n + (g.size - 1) := by
  cases g <;> simp only [floor, size] at h ⊢ <;> omega

namespace Parts

variable {g : Grain} {w : DateBound.Written} {x y : DateBound} {d : Date} (h : g.Parts w)
  (first : DateBound.ofWritten? .first w = some x) (written : d.IsWritten) (c : Clock)
include h first written

theorem compare_front :
    compare w.text ((Instant.shown d c).take w.text.length) =
      compare x.millis (g.floor (Instant.millisOf d c)) := by
  obtain ⟨w', h', front, x', read', millis⟩ := exists_front g written c
  have cut : (Instant.shown d c).take w.text.length = w'.text := by
    rw [h.length_eq h', ← List.prefix_iff_eq_take.1 front]
  rw [cut, h.compare_text h' first read', millis]

theorem le_front_iff :
    w.text ≤ (Instant.shown d c).take w.text.length ↔ x.millis ≤ Instant.millisOf d c :=
  (Text.le_iff_of_compare (h.compare_front first written c)).trans (le_floor_iff (h.ends first).1)

theorem front_le_iff (last : DateBound.ofWritten? .last w = some y) :
    (Instant.shown d c).take w.text.length ≤ w.text ↔ Instant.millisOf d c ≤ y.millis := by
  obtain ⟨whole, _, read, millis⟩ := h.ends first
  rw [last] at read
  cases read
  rw [millis]
  exact (Text.ge_iff_of_compare (h.compare_front first written c)).trans (floor_le_iff whole)

theorem prefix_iff (last : DateBound.ofWritten? .last w = some y) :
    w.text <+: Instant.shown d c ↔
      x.millis ≤ Instant.millisOf d c ∧ Instant.millisOf d c ≤ y.millis := by
  rw [List.prefix_iff_eq_take, le_antisymm_iff, h.le_front_iff first written,
    h.front_le_iff first written c last]

end Parts
end Grain

namespace DateRange

theorem contains_between_some (first last : Option DateBound) (row : Nat) (ms : Int) :
    (between first last).contains row (some ms) =
      (first.all (·.millis ≤ ms) && last.all (ms ≤ ·.millis)) := by
  cases first <;> cases last <;> rfl

end DateRange

namespace Filter

theorem read_between {l r : Text} {first last : Option DateBound}
    (hl : Spells .first l (first.map .date)) (hr : Spells .last r (last.map .date))
    (some_side : first ≠ none ∨ last ≠ none) :
    read (l ++ ':' :: ':' :: r) = { dates := some (.between first last) } := by
  rw [read_of_means (DateRange.means_between hl hr some_side)]
  rfl

theorem read_sides {b : Text} {x y : DateBound} (first : DateBound.read? .first b = some x)
    (last : DateBound.read? .last b = some y) :
    read ('#' :: b ++ "::".toList) = { dates := some (.between (some x) none) } ∧
    read ("::#".toList ++ b) = { dates := some (.between none (some y)) } ∧
    read ('#' :: b ++ "::#".toList ++ b) = { dates := some (.between (some x) (some y)) } := by
  have from_x : Spells .first ('#' :: b) (some (.date x)) := spells_date first
  have to_y : Spells .last ('#' :: b) (some (.date y)) := spells_date last
  refine ⟨?_, ?_, ?_⟩
  · exact read_between from_x .absent (.inl (Option.some_ne_none x))
  · exact read_between (l := []) .absent to_y (.inr (Option.some_ne_none y))
  · rw [List.append_assoc]
    exact read_between from_x to_y (.inl (Option.some_ne_none x))

end Filter

/-- The date and the time of day that are shown for an entry, with the first day of 1970 in place
of a date that is missing. -/
def Entry.shown? (e : Entry) : Option Text := do
  let c ← e.instant.map Instant.clockText
  return (e.instant.bind Instant.dateText).getD Date.epoch.text ++ ' ' :: c

theorem Entry.shown?_of_mem {t : Text} {e : Entry} (he : e ∈ assemble (Source.ofText t).lines) :
    e.shown? = none ∧ e.millis = none ∨
      ∃ d c, d.IsWritten ∧ e.shown? = some (Instant.shown d c) ∧
        e.millis = some (Instant.millisOf d c) := by
  cases instant : e.instant with
  | none => exact .inl ⟨by simp [Entry.shown?, instant], by simp [Entry.millis, instant]⟩
  | some i =>
    have written := Assembler.kept_instant.assemble _ e he i instant
    refine .inr ⟨i.date.getD Date.epoch, i.clock, ?_, ?_, ?_⟩
    · cases date : i.date with
      | none => exact ⟨by decide, by decide⟩
      | some d => exact written.date d date
    · cases date : i.date <;>
        simp [Entry.shown?, instant, Instant.dateText, Instant.clockText, Instant.shown, date]
    · rw [Entry.millis, instant, Option.map_some, written.eq_of]
      rfl

theorem Entry.eq_shown {t s : Text} {e : Entry} (he : e ∈ assemble (Source.ofText t).lines)
    (h : e.shown? = some s) :
    ∃ d c, d.IsWritten ∧ s = Instant.shown d c ∧ e.millis = some (Instant.millisOf d c) := by
  rcases Entry.shown?_of_mem he with ⟨none_shown, -⟩ | ⟨d, c, written, shown, millis⟩
  · rw [none_shown] at h
    contradiction
  · rw [shown] at h
    cases h
    exact ⟨d, c, written, rfl, millis⟩

/-- Bounds compare with entries as their texts do with the stamps that are shown, cut to the same
length. From a bound to the same bound are the entries whose stamp begins with it, and stamps are
in the order of their milliseconds. -/
theorem dates_compare_as_shown [Regex.Engine] (t : Text) :
    let entries := assemble (Source.ofText t).lines
    (∀ (g : Grain) (b : Text), g.pattern.Fits b → (DateBound.millis? .first b).isSome →
      (∀ e ∈ entries, ∀ s, e.shown? = some s → ∀ o,
        View.passes (Filter.read ('#' :: b ++ "::".toList)) o e =
          (View.passes {} o e && decide (b ≤ s.take b.length)) ∧
        View.passes (Filter.read ("::#".toList ++ b)) o e =
          (View.passes {} o e && decide (s.take b.length ≤ b))) ∧
      (View.evaluate entries (Filter.read ('#' :: b ++ "::#".toList ++ b)) {}).entriesOf entries =
        entries.filter fun e => e.shown?.any b.isPrefixOf) ∧
    ∀ e ∈ entries, ∀ e' ∈ entries, ∀ s s', e.shown? = some s → e'.shown? = some s' →
      ∃ m m', e.millis = some m ∧ e'.millis = some m' ∧ (m < m' ↔ s < s') := by
  intro entries
  constructor
  · intro g b fits accepted
    obtain ⟨w, parts, rfl⟩ := Grain.exists_parts fits
    rw [parts.millis?_text, Option.isSome_map] at accepted
    obtain ⟨x, first⟩ := Option.isSome_iff_exists.1 accepted
    obtain ⟨-, y, last, -⟩ := parts.ends first
    obtain ⟨read_from, read_to, read_both⟩ := Filter.read_sides
      ((parts.read?_text .first).trans first) ((parts.read?_text .last).trans last)
    constructor
    · intro e he s hs o
      obtain ⟨d, c, written, rfl, millis⟩ := Entry.eq_shown he hs
      rw [read_from, read_to, Filter.passes_dates, Filter.passes_dates, millis,
        DateRange.contains_between_some, DateRange.contains_between_some]
      simp [parts.le_front_iff first written c, parts.front_le_iff first written c last]
    · rw [read_both, View.entriesOf_of_context_zero _ _ rfl]
      apply List.filter_congr
      intro e he
      rw [Filter.passes_dates, Filter.passes_empty, Bool.true_and]
      rcases Entry.shown?_of_mem he with ⟨none_shown, no_time⟩ | ⟨d, c, written, shown, millis⟩
      · rw [none_shown, no_time]
        rfl
      · rw [shown, millis, DateRange.contains_between_some, Bool.eq_iff_iff]
        simp [parts.prefix_iff first written c last]
  · intro e he e' he' s s' hs hs'
    obtain ⟨d, c, written, rfl, millis⟩ := Entry.eq_shown he hs
    obtain ⟨d', c', written', rfl, millis'⟩ := Entry.eq_shown he' hs'
    exact ⟨_, _, millis, millis',
      (Text.lt_iff_of_compare (Grain.compare_shown written written' c c')).symm⟩

theorem dates_compare_as_shown_second :
    let _ : Regex.Engine := .upTo 1000
    let t := "2024-02-29 23:59:58.007 up\n  more\n01/03/24 00:00:00.000 on".toList
    let b := "2024-02-29 23:59:58".toList
    let f := Filter.read ('#' :: b ++ "::#".toList ++ b)
    let s := "2024-02-29 23:59:58.007".toList
    let s' := "2024-03-01 00:00:00.000".toList
    let entries := assemble (Source.ofText t).lines
    Grain.second.pattern.Fits b ∧ (DateBound.millis? .first b).isSome ∧
    ∃ e ∈ entries, ∃ e' ∈ entries, e.shown? = some s ∧ e'.shown? = some s' ∧
      (∀ o, View.passes (Filter.read ('#' :: b ++ "::".toList)) o e =
        (View.passes {} o e && decide (b ≤ s.take b.length))) ∧
      (∀ o, View.passes (Filter.read ("::#".toList ++ b)) o e' =
        (View.passes {} o e' && decide (s'.take b.length ≤ b))) ∧
      (View.evaluate entries f {}).entriesOf entries =
        entries.filter (fun e => e.shown?.any b.isPrefixOf) ∧
      ∃ m m', e.millis = some m ∧ e'.millis = some m' ∧ (m < m' ↔ s < s') := by
  intro _ t b f s s' entries
  have whole : (Stamp.Pattern.scan Grain.second.pattern).run b = some (b, []) := by decide +kernel
  have fits : Grain.second.pattern.Fits b := (Stamp.Pattern.fits_of_run whole).2
  have accepted : (DateBound.millis? .first b).isSome := by decide +kernel
  obtain ⟨bounds, ordered⟩ := dates_compare_as_shown t
  obtain ⟨sides, both⟩ := bounds .second b fits accepted
  obtain ⟨e, found, shown⟩ := Option.map_eq_some_iff.1
    (by decide +kernel : entries[0]?.map Entry.shown? = some (some s))
  obtain ⟨e', found', shown'⟩ := Option.map_eq_some_iff.1
    (by decide +kernel : entries[1]?.map Entry.shown? = some (some s'))
  have he := List.mem_of_getElem? found
  have he' := List.mem_of_getElem? found'
  exact ⟨fits, accepted, e, he, e', he', shown, shown', fun o => (sides e he s shown o).1,
    fun o => (sides e' he' s' shown' o).2, both, ordered e he e' he' s s' shown shown'⟩

/-- The range of a day keeps more than the entries with that date: a stamp that has no date, with
none before it, counts as one on the first day of 1970. -/
theorem undated_within_first_day :
    let _ : Regex.Engine := .upTo 1000
    let entries := assemble (Source.ofText "10:00:01.250 up".toList).lines
    let b := "1970-01-01".toList
    let f := Filter.read ('#' :: b ++ "::#".toList ++ b)
    Grain.day.pattern.Fits b ∧ (DateBound.millis? .first b).isSome ∧
    ∃ e ∈ (View.evaluate entries f {}).entriesOf entries,
      e.instant.bind Instant.dateText = none := by
  intro _ entries b f
  have whole : (Stamp.Pattern.scan Grain.day.pattern).run b = some (b, []) := by decide +kernel
  exact ⟨(Stamp.Pattern.fits_of_run whole).2, by decide +kernel, by decide +kernel⟩

end Logbook
