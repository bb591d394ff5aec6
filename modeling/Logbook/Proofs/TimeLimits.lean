import Logbook.Proofs.Gaps
import Logbook.Proofs.ShownOrder

/-! How large times get. Whatever text they come from, entries and date bounds have times of the
years 0 to 9999, so their differences fit into 64 bits, and into the 53 digits of a floating-point
number. -/

namespace Logbook

open Calendar

namespace Binary64

def IsExactly (x : Binary64) (i : Int) : Prop :=
  ∃ rank < infinityRank, x = number (i < 0) rank ∧ units rank = i.natAbs * unit

theorem units_of_mantissa {m : Nat} (ge : groupSize ≤ m) (lt : m < 2 * groupSize) (k : Nat) :
    units (k * groupSize + m) = m * 2 ^ k := by
  obtain ⟨r, rfl⟩ := Nat.exists_eq_add_of_le ge
  have small : r < groupSize := by omega
  have positive : 0 < groupSize := by rw [groupSize_eq]; decide
  have parts : k * groupSize + (groupSize + r) = (k + 1) * groupSize + r := by ring
  have quotient : ((k + 1) * groupSize + r) / groupSize = k + 1 := by
    rw [Nat.add_comm, Nat.add_mul_div_right _ _ positive, Nat.div_eq_of_lt small, Nat.zero_add]
  have remainder : ((k + 1) * groupSize + r) % groupSize = r := by
    rw [Nat.add_comm, Nat.add_mul_mod_self_right, Nat.mod_eq_of_lt small]
  have full : ¬ (k + 1) * groupSize + r < groupSize := by
    rw [Nat.succ_mul]
    omega
  rw [parts, units, if_neg full, quotient, remainder, Nat.shiftLeft_eq, Nat.add_sub_cancel]

theorem exists_units_eq {n : Nat} (h : n < 2 ^ 53) :
    ∃ rank < infinityRank, units rank = n * unit := by
  rcases Nat.eq_zero_or_pos n with rfl | positive
  · exact ⟨0, by decide, by decide⟩
  have log : n.log2 ≤ 52 := Nat.lt_succ_iff.1 ((Nat.log2_lt positive.ne').2 h)
  have lower : 2 ^ n.log2 ≤ n := Nat.log2_self_le positive.ne'
  have upper : n < 2 ^ (n.log2 + 1) := Nat.lt_log2_self
  -- Shifted up to 53 digits, the number is a mantissa of the exponent that undoes the shift.
  obtain ⟨s, digits⟩ := Nat.exists_eq_add_of_le log
  have ge : groupSize ≤ n * 2 ^ s :=
    calc groupSize = 2 ^ n.log2 * 2 ^ s := by rw [groupSize_eq, ← Nat.pow_add, ← digits]
      _ ≤ n * 2 ^ s := Nat.mul_le_mul_right _ lower
  have lt : n * 2 ^ s < 2 * groupSize :=
    calc n * 2 ^ s < 2 ^ (n.log2 + 1) * 2 ^ s :=
          Nat.mul_lt_mul_of_pos_right upper (Nat.two_pow_pos s)
      _ = 2 * groupSize := by
          rw [groupSize_eq, ← Nat.pow_add, Nat.add_right_comm, ← digits, Nat.pow_succ']
  have small : s ≤ 52 := by omega
  refine ⟨(1074 - s) * groupSize + n * 2 ^ s, ?_, ?_⟩
  · rw [infinityRank]
    have exponent : (1074 - s) * groupSize ≤ 1074 * groupSize :=
      Nat.mul_le_mul_right _ (Nat.sub_le 1074 s)
    omega
  · rw [units_of_mantissa ge lt, unit_eq, Nat.mul_assoc, ← Nat.pow_add]
    congr 2
    omega

theorem isExactly_ofInt {i : Int} (h : i.natAbs < 2 ^ 53) : (ofInt i).IsExactly i := by
  obtain ⟨rank, finite, magnitude⟩ := exists_units_eq h
  refine ⟨rank, finite, ?_, magnitude⟩
  rw [ofInt, nearest_eq (by decide) finite.le (by rw [magnitude, Nat.mul_one])]

end Binary64

def InWrittenYears (ms : Int) : Prop := -62167219200000 ≤ ms ∧ ms ≤ 253402300799999

theorem inWrittenYears_millisOf {d : Date} (h : d.IsWritten) (c : Clock) :
    InWrittenYears (Instant.millisOf d c) := by
  have first := Date.daysBeforeYear_mono h.1
  have last := Date.daysBeforeYear_mono (Int.add_le_add_right h.2 1)
  have after := d.daysBeforeYear_le
  have before := d.absoluteDay_lt
  have clock := c.millis_lt
  have zero : Date.daysBeforeYear 0 = -366 := by decide
  have beyond : Date.daysBeforeYear (9999 + 1) = 3652059 := by decide
  have epoch : Date.epoch.absoluteDay = 719162 := by decide
  rw [zero] at first
  rw [beyond] at last
  rw [InWrittenYears, Instant.millisOf, Date.epochDay, epoch]
  omega

theorem InWrittenYears.natAbs_sub_lt {earlier later : Int} (h : InWrittenYears earlier)
    (h' : InWrittenYears later) : (later - earlier).natAbs < 2 ^ 53 := by
  obtain ⟨ge, le⟩ := h
  obtain ⟨ge', le'⟩ := h'
  omega

namespace DateBound

/-- A bound stands for a millisecond of the calendar. Where the end of a second is meant, that is the
last one of the second: no fraction was written that it could add to. -/
theorem exists_millisOf {side : Side} {t : Text} {x : DateBound} (h : read? side t = some x) :
    ∃ d c, d.IsWritten ∧ x.millis = Instant.millisOf d c := by
  obtain ⟨⟨day, _ | ⟨time, fraction⟩⟩, shaped, bound, -⟩ := exists_written h
  · obtain ⟨d, read, millis⟩ := Grain.date?_of_ofWritten?_day bound
    exact ⟨d, _, Stamp.isWritten_of_date? shaped.day read, millis⟩
  · obtain ⟨d, c, read, clock, millis⟩ := Grain.millis_of_ofWritten?_time bound
    have day := Stamp.isWritten_of_date? shaped.day read
    by_cases whole : side = .last ∧ fraction = none
    · obtain ⟨rfl, rfl⟩ := whole
      have begun := Stamp.milli_eq_zero (shaped.time time none rfl) clock
      refine ⟨d, { c with milli := 999, milli_lt := by decide }, day, ?_⟩
      rw [millis, if_pos ⟨rfl, rfl⟩]
      simp only [endOfSecond, Instant.millisOf, Clock.millis, begun]
      omega
    · exact ⟨d, c, day, by rw [millis, if_neg whole]⟩

theorem inWrittenYears {side : Side} {t : Text} {x : DateBound} (h : read? side t = some x) :
    InWrittenYears x.millis := by
  obtain ⟨d, c, written, same⟩ := exists_millisOf h
  rw [same]
  exact inWrittenYears_millisOf written c

end DateBound

def DateRange.InWrittenYears (r : DateRange) : Prop :=
  ∀ x, r.first = some (.date x) ∨ r.last = some (.date x) → Logbook.InWrittenYears x.millis

theorem DateRange.Readable.inWrittenYears {r : DateRange} (h : r.Readable) : r.InWrittenYears := by
  rintro x (first | last)
  · obtain ⟨t, read⟩ := h.first _ first
    exact DateBound.inWrittenYears read
  · obtain ⟨t, read⟩ := h.last _ last
    exact DateBound.inWrittenYears read

theorem Filter.Segment.inWrittenYears_of {t : Text} {r : DateRange}
    (h : Segment.of t = .dates r) : r.InWrittenYears := by
  rcases of_cases t with other | ⟨_, -, -, other⟩ | ⟨_, -, other⟩ | ⟨sides, readable, range⟩ | other
  · simp [other] at h
  · simp [other] at h
  · simp [other] at h
  · rw [range] at h
    rcases sides.toSegment_cases with ⟨dates, -⟩ | ⟨rows, -, same⟩
    · rw [dates] at h
      cases h
      exact readable.inWrittenYears
    · simp [same] at h
  · simp [other] at h

theorem Entry.inWrittenYears {t : Text} {e : Entry} (he : e ∈ assemble (Source.ofText t).lines)
    {ms : Int} (h : e.millis = some ms) : InWrittenYears ms := by
  rcases shown?_of_mem he with ⟨-, no_time⟩ | ⟨d, c, written, -, millis⟩
  · rw [no_time] at h
    contradiction
  · rw [millis] at h
    cases h
    exact inWrittenYears_millisOf written c

namespace View

theorem exists_of_mem_times {v : View} {entries : List Entry} {ms : Int}
    (h : some ms ∈ v.times entries) : ∃ e ∈ entries, e.millis = some ms := by
  obtain ⟨r, -, time⟩ := List.mem_map.1 h
  obtain ⟨e, found, millis⟩ := Option.bind_eq_some_iff.1 time
  exact ⟨e, List.mem_of_getElem? found, millis⟩

end View

/-- Times of entries and of date bounds are of the years 0 to 9999. So the end of a second can be
taken in 64 bits, and the difference of any two times that are compared for a gap is the same in 64
bits, stays below 2 to the 53rd and is exact as a floating-point number. -/
theorem times_bounded [Regex.Engine] :
    (∀ log, ∀ e ∈ assemble (Source.ofText log).lines, ∀ ms, e.millis = some ms →
      InWrittenYears ms) ∧
    (∀ side b ms, DateBound.millis? side b = some ms → InWrittenYears ms) ∧
    (∀ b ms, DateBound.millis? .first b = some ms →
      (Int64.ofInt ms + 999).toInt = DateBound.endOfSecond ms) ∧
    (∀ s r, Filter.Segment.of s = .dates r → r.InWrittenYears) ∧
    (∀ t r, (Filter.read t).dates = some r → r.InWrittenYears) ∧
    ∀ log f o,
      let entries := assemble (Source.ofText log).lines
      let times := (View.evaluate entries f o).times entries
      ∀ earlier later, some earlier ∈ times → some later ∈ times →
        (later - earlier).natAbs < 2 ^ 53 ∧
        (Int64.ofInt later - Int64.ofInt earlier).toInt = later - earlier ∧
        (Binary64.ofInt (later - earlier)).IsExactly (later - earlier) := by
  have bounds : ∀ side b ms, DateBound.millis? side b = some ms → InWrittenYears ms := by
    intro side b ms read
    obtain ⟨x, bound, rfl⟩ := Option.map_eq_some_iff.1 read
    exact DateBound.inWrittenYears bound
  refine ⟨fun log e he ms => Entry.inWrittenYears he, bounds, ?_,
    fun s r => Filter.Segment.inWrittenYears_of,
    fun t r dates => ((Filter.canonical_read t).dates r dates).1.inWrittenYears, ?_⟩
  · intro b ms read
    obtain ⟨ge, le⟩ := bounds .first b ms read
    have sum : Int64.ofInt ms + 999 = Int64.ofInt (ms + 999) := (Int64.ofInt_add ms 999).symm
    rw [sum, Int64.toInt_ofInt_of_le (by omega) (by omega)]
    rfl
  · intro log f o entries times earlier later h h'
    obtain ⟨e, he, millis⟩ := View.exists_of_mem_times h
    obtain ⟨e', he', millis'⟩ := View.exists_of_mem_times h'
    have close := (Entry.inWrittenYears he millis).natAbs_sub_lt (Entry.inWrittenYears he' millis')
    refine ⟨close, ?_, Binary64.isExactly_ofInt close⟩
    rw [← Int64.ofInt_sub, Int64.toInt_ofInt_of_le (by omega) (by omega)]

theorem times_bounded_first_and_last :
    let _ : Regex.Engine := .upTo 1000
    let log := "0000-01-01 00:00:00 up\n31/12/9999 23:59:59.999 down".toList
    let entries := assemble (Source.ofText log).lines
    let times := (View.evaluate entries (Filter.read "#gap=1".toList) {}).times entries
    let opening : DateBound := ⟨"0000-01-01".toList, -62167219200000⟩
    let closing : DateBound := ⟨"9999-12-31 23:59:59".toList, 253402300799999⟩
    let since : DateRange := .between (some opening) none
    let both : DateRange := .between (some opening) (some closing)
    entries.map Entry.millis = [some opening.millis, some closing.millis] ∧
    (∀ e ∈ entries, ∀ ms, e.millis = some ms → InWrittenYears ms) ∧
    DateBound.millis? .last closing.text = some closing.millis ∧ InWrittenYears closing.millis ∧
    DateBound.millis? .first closing.text = some 253402300799000 ∧
    (Int64.ofInt 253402300799000 + 999).toInt = DateBound.endOfSecond 253402300799000 ∧
    Filter.Segment.of "#0000-01-01::".toList = .dates since ∧ since.InWrittenYears ∧
    (Filter.read "#0000-01-01::||::#9999-12-31 23:59:59".toList).dates = some both ∧
    both.InWrittenYears ∧
    some opening.millis ∈ times ∧ some closing.millis ∈ times ∧
    (closing.millis - opening.millis).natAbs < 2 ^ 53 ∧
    (Int64.ofInt closing.millis - Int64.ofInt opening.millis).toInt =
      closing.millis - opening.millis ∧
    (Binary64.ofInt (closing.millis - opening.millis)).IsExactly
      (closing.millis - opening.millis) := by
  intro _ log entries times opening closing since both
  obtain ⟨ofEntries, ofBounds, ends, ofSegments, ofFilters, apart⟩ := times_bounded
  have last : DateBound.millis? .last closing.text = some closing.millis := by decide +kernel
  have first : DateBound.millis? .first closing.text = some 253402300799000 := by decide +kernel
  have shown : times = [some opening.millis, some closing.millis] := by decide +kernel
  have opens : some opening.millis ∈ times := by simp [shown]
  have closes : some closing.millis ∈ times := by simp [shown]
  have segment : Filter.Segment.of "#0000-01-01::".toList = .dates since := by decide +kernel
  have dates : (Filter.read "#0000-01-01::||::#9999-12-31 23:59:59".toList).dates = some both := by
    decide +kernel
  exact ⟨by decide +kernel, ofEntries log, last, ofBounds _ _ _ last, first, ends _ _ first,
    segment, ofSegments _ _ segment, dates, ofFilters _ _ dates, opens, closes,
    apart log (Filter.read "#gap=1".toList) {} _ _ opens closes⟩

end Logbook
