import Logbook.Proofs.ByteReading
import Logbook.Proofs.DayCount
import Logbook.Proofs.ReadBack
import Logbook.Proofs.StampParts

/-! The instant of a stamp that is found in a line. There is one just in case its parts have the
numbers of a day and of a time of day in ASCII digits; it is that day and time, counted in
milliseconds and written out again. -/

namespace Logbook

open Calendar Text Numeral

theorem Numeral.writes_padded {width n : Nat}
    (fits : (Stamp.Piece.digits width width).Fits (padded width n)) :
    Writes width (padded width n) n :=
  writes_of_read? fits (read?_padded (le_refl n) width)

namespace Stamp

structure Kind.Valid (k : Kind) (n : Parts) : Prop where
  month : k.isTimeOnly = false → 1 ≤ value n.month ∧ value n.month ≤ 12
  day : k.isTimeOnly = false →
    1 ≤ value n.day ∧ value n.day ≤ daysInMonth (k.year n) (value n.month)
  hour : value n.hour < 24
  minute : value n.minute < 60
  second : value n.second < 60

section

variable {k : Kind} {n : Parts} (shapes : k.Shapes n)
include shapes

theorem milli_lt (ascii : AsciiDigits (k.write n)) : value (n.fraction.take 3) < 1000 := by
  have fraction := ((asciiDigits_timeText shapes.fraction).1 (asciiDigits_write.1 ascii).2).2
  have front : (Piece.digits 0 3).Fits (n.fraction.take 3) :=
    ⟨Nat.zero_le _, List.length_take_le 3 n.fraction,
      fun c hc => shapes.fraction.2.2 c (List.mem_of_mem_take hc)⟩
  exact value_lt front fun c hc => fraction c (List.mem_of_mem_take hc)

theorem year_le (ascii : AsciiDigits (k.write n)) (dated : k.isTimeOnly = false) :
    (k.year n : Int) ≤ maxYear := by
  have digits := (asciiDigits_dayText.1 ((asciiDigits_write.1 ascii).1 dated)).1
  have short : k.yearDigits ≤ 4 := by
    unfold Kind.yearDigits
    split <;> decide
  have bound : value n.year < 10 ^ 4 :=
    (value_lt (shapes.date dated).1 digits).trans_le (Nat.pow_le_pow_right (by decide) short)
  have limit : maxYear = 262142 := rfl
  unfold Kind.year
  split <;> omega

theorem exists_numbers_iff (anchor : Option Date) (ascii : AsciiDigits (k.write n)) :
    (∃ i, Numbers k n anchor i) ↔ k.Valid n := by
  constructor
  · rintro ⟨i, numbers⟩
    refine ⟨fun dated => ?_, fun dated => ?_, ?_, ?_, ?_⟩
    · obtain ⟨d, -, -, month, -⟩ := numbers.day.own dated
      exact month ▸ ⟨d.month_pos, d.month_le⟩
    · obtain ⟨d, -, year, month, day⟩ := numbers.day.own dated
      exact year ▸ month ▸ day ▸ ⟨d.day_pos, d.day_le⟩
    · exact numbers.hour ▸ i.clock.hour_lt
    · exact numbers.minute ▸ i.clock.minute_lt
    · exact numbers.second ▸ i.clock.second_lt
  · rintro ⟨month, day, hour, minute, second⟩
    -- That there are so few digits keeps the fraction below a second and the year in the calendar.
    let c : Clock := ⟨value n.hour, value n.minute, value n.second, value (n.fraction.take 3),
      hour, minute, second, milli_lt shapes ascii⟩
    cases timeOnly : k.isTimeOnly with
    | true => exact ⟨.of anchor c, ⟨by simp [timeOnly], fun _ => rfl⟩, rfl, rfl, rfl, rfl, rfl⟩
    | false =>
      have low : minYear ≤ k.year n := by
        have limit : minYear = -262143 := rfl
        omega
      let d : Date := ⟨k.year n, value n.month, value n.day, low, year_le shapes ascii timeOnly,
        (month timeOnly).1, (month timeOnly).2, (day timeOnly).1, (day timeOnly).2⟩
      exact ⟨.of (some d) c, ⟨fun _ => ⟨d, rfl, rfl, rfl, rfl⟩, by simp [timeOnly]⟩, rfl, rfl,
        rfl, rfl, rfl⟩

end

/-- The instant is that of the parts: on the day of the stamp or else on the one that goes along,
in milliseconds since the first day of 1970, with both texts in digits of a fixed number. -/
structure Tells (k : Kind) (n : Parts) (anchor : Option Date) (i : Instant) : Prop where
  day : OnDay k n anchor i.date
  millis : ∃ days, (i.date.getD Date.epoch).IsDay days ∧
    i.millis = 86400000 * days +
      1000 * ((value n.hour * 60 + value n.minute) * 60 + value n.second : Nat) +
        value (n.fraction.take 3)
  date_text : ∀ d, i.date = some d → ∃ year month day, ∃ number : Nat,
    i.dateText = some (year ++ '-' :: (month ++ '-' :: day)) ∧ d.year = number ∧
      Writes 4 year number ∧ Writes 2 month d.month ∧ Writes 2 day d.day
  no_date_text : i.dateText = none ↔ k.isTimeOnly = true ∧ anchor = none
  clock_text : ∃ hour minute second milli,
    i.clockText = hour ++ ':' :: (minute ++ ':' :: (second ++ '.' :: milli)) ∧
      Writes 2 hour (value n.hour) ∧ Writes 2 minute (value n.minute) ∧
      Writes 2 second (value n.second) ∧ Writes 3 milli (value (n.fraction.take 3))

theorem Numbers.tells {k : Kind} {n : Parts} {anchor : Option Date} {i : Instant}
    (numbers : Numbers k n anchor i) (written : i.IsWritten) : Tells k n anchor i where
  day := numbers.day
  millis := by
    refine ⟨_, Date.isDay_iff.2 rfl, ?_⟩
    rw [numbers.eq_of, ← numbers.hour, ← numbers.minute, ← numbers.second, ← numbers.milli]
    simp only [Instant.of, Instant.millisOf, Clock.millis]
    push_cast
    ring
  date_text d date := by
    obtain ⟨low, high⟩ := written.date d date
    obtain ⟨hy, hm, hd⟩ := (written.date d date).fits_parts
    refine ⟨_, _, _, d.year.natAbs, ?_, by omega, writes_padded hy, writes_padded hm,
      writes_padded hd⟩
    rw [Instant.dateText, date, Option.map_some, (written.date d date).text_eq]
  no_date_text := by
    rw [Instant.dateText, Option.map_eq_none_iff]
    cases timeOnly : k.isTimeOnly with
    | true => rw [numbers.day.other timeOnly, eq_self, true_and]
    | false =>
      obtain ⟨d, date, -⟩ := numbers.day.own timeOnly
      simp [date]
  clock_text := by
    obtain ⟨hh, hm, hs⟩ := i.clock.fits_parts
    have hf : (Piece.digits 3 3).Fits (Text.padded 3 i.clock.milli) :=
      Piece.fits_padded (by decide) (i.clock.milli_lt.trans_le (by decide))
    rw [← numbers.hour, ← numbers.minute, ← numbers.second, ← numbers.milli]
    refine ⟨_, _, _, _, ?_, writes_padded hh, writes_padded hm, writes_padded hs,
      writes_padded hf⟩
    rw [Instant.clockText, Clock.text_eq]
    simp [Clock.secondText, Clock.fractionText]

/-- A stamp that is found in a line names an instant just in case its digits are ASCII digits and
their numbers are those of a day and of a time of day; the instant is then the one they tell. Read
in bytes, with whatever digits, the stamp does not put an end to the program. -/
theorem instant?_of_found {line : Text} {s : Stamp} (found : find? line = some s)
    {anchor : Option Date} (day : ∀ d, anchor = some d → d.IsWritten) :
    (instantInBytes s.kind anchor s.text).run = .ok (instant? s.kind anchor s.text) ∧
    ∃ n, s.kind.Shapes n ∧ s.text = s.kind.write n ∧
      ((instant? s.kind anchor s.text).isSome ↔ AsciiDigits s.text ∧ s.kind.Valid n) ∧
      ∀ i, instant? s.kind anchor s.text = some i → Tells s.kind n anchor i := by
  obtain ⟨n, shapes, text⟩ := Kind.exists_parts (fits_of_find? found)
  refine ⟨congrArg OptionT.run (instantInBytes_eq _ _ _), n, shapes, text, ?_, fun i instant => ?_⟩
  · rw [Option.isSome_iff_exists, text]
    simp only [instant?_eq_some_iff shapes]
    rw [exists_and_left]
    exact and_congr_right fun ascii => exists_numbers_iff shapes anchor ascii
  · have written := isWritten_of_instant? day (fits_of_find? found) instant
    rw [text, instant?_eq_some_iff shapes] at instant
    exact instant.2.tells written

theorem instant?_of_found_leap_day :
    let line := "up 29/02/24 23:59:58.007".toList
    let s : Stamp := ⟨.slashShortYear, "up ".toList, "29/02/24 23:59:58.007".toList⟩
    let anchor := some Date.epoch
    find? line = some s ∧ (∀ d, anchor = some d → d.IsWritten) ∧
      (instantInBytes s.kind anchor s.text).run = .ok (instant? s.kind anchor s.text) ∧
      ∃ n i, s.kind.Shapes n ∧ s.text = s.kind.write n ∧ AsciiDigits s.text ∧ s.kind.Valid n ∧
        instant? s.kind anchor s.text = some i ∧ i.millis = 1709251198007 ∧
        Tells s.kind n anchor i := by
  intro line s anchor
  have found : find? line = some s := by decide +kernel
  have day : ∀ d, anchor = some d → d.IsWritten := by
    intro d same
    obtain rfl : Date.epoch = d := Option.some_inj.1 same
    exact ⟨by decide, by decide⟩
  obtain ⟨i, instant, millis⟩ := Option.map_eq_some_iff.1
    (by decide +kernel : (instant? s.kind anchor s.text).map Instant.millis = some 1709251198007)
  obtain ⟨bytes, n, shapes, text, valid, tells⟩ := instant?_of_found found day
  obtain ⟨ascii, numbers⟩ := valid.1 (by rw [instant]; rfl)
  exact ⟨found, day, bytes, n, i, shapes, text, ascii, numbers, instant, millis, tells i instant⟩

end Stamp
end Logbook
