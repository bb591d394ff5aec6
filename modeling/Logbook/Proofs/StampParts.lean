import Logbook.Proofs.Chronology

/-! The parts of a stamp, which are its runs of digits. What has the pattern of a kind is written in
the parts that the kind has, and an instant is read from it just in case all digits are those of
ASCII and the instant has the numbers that they write. -/

namespace Logbook

open Calendar

namespace Text

def AsciiDigits (t : Text) : Prop := ∀ c ∈ t, isDigit c = true → c.isDigit = true

theorem asciiDigits_append {s t : Text} :
    AsciiDigits (s ++ t) ↔ AsciiDigits s ∧ AsciiDigits t := List.forall_mem_append

theorem asciiDigits_mark {c : Char} (mark : isDigit c = false) {t : Text} :
    AsciiDigits (c :: t) ↔ AsciiDigits t := by
  rw [AsciiDigits, List.forall_mem_cons]
  exact and_iff_right fun digit => absurd (mark.symm.trans digit) Bool.false_ne_true

end Text

open Text

namespace Numeral

def value (t : Text) : Nat := Nat.ofDigitChars 10 t 0

section

variable {least most : Nat} {t : Text} (fits : (Stamp.Piece.digits least most).Fits t)
  (ascii : AsciiDigits t)
include fits ascii

theorem digits_of_fits : ∀ c ∈ t, c.isDigit = true := fun c hc => ascii c hc (fits.2.2 c hc)

theorem value_lt : value t < 10 ^ most := by
  have bound := lt_of_readDigits (readDigits_eq_ok (digits_of_fits fits ascii) (le_refl (value t)))
  rw [Nat.zero_add, Nat.one_mul] at bound
  exact bound.trans_le (Nat.pow_le_pow_right (by decide) fits.2.1)

end

section

variable {width limit : Nat} {t : Text} (fits : (Stamp.Piece.digits width width).Fits t)
  (positive : 0 < width) (small : 10 ^ width ≤ limit)
include fits positive small

theorem read?_eq_some_iff {n : Nat} :
    read? limit t = some n ↔ AsciiDigits t ∧ value t = n := by
  constructor
  · intro h
    obtain ⟨-, digits, number⟩ := writes_of_read? fits h
    exact ⟨fun c hc _ => digits c hc, number⟩
  · rintro ⟨ascii, rfl⟩
    have nonempty : t ≠ [] := List.ne_nil_of_length_pos (positive.trans_le fits.1)
    have bound : value t ≤ limit := (value_lt fits ascii).le.trans small
    exact read?_eq_some nonempty (digits_of_fits fits ascii) bound

theorem readInt?_eq_some_iff {n : Int} :
    readInt? limit t = some n ↔ AsciiDigits t ∧ (value t : Int) = n := by
  rw [readInt?_eq (fits.notMem (by decide)), Option.map_eq_some_iff]
  simp only [read?_eq_some_iff fits positive small]
  constructor
  · rintro ⟨m, ⟨ascii, rfl⟩, rfl⟩
    exact ⟨ascii, rfl⟩
  · rintro ⟨ascii, rfl⟩
    exact ⟨_, ⟨ascii, rfl⟩, rfl⟩

end

end Numeral

open Numeral

namespace Calendar

theorem Date.ofParts?_eq_some_iff {year : Int} {month day : Nat} {d : Date} :
    ofParts? year month day = some d ↔ d.year = year ∧ d.month = month ∧ d.day = day := by
  constructor
  · exact parts_of_ofParts?
  · rintro ⟨rfl, rfl, rfl⟩
    exact d.ofParts?_self

theorem Clock.ofParts?_eq_some_iff {hour minute second milli : Nat} {c : Clock} :
    ofParts? hour minute second milli = some c ↔
      c.hour = hour ∧ c.minute = minute ∧ c.second = second ∧ c.milli = milli := by
  constructor
  · exact parts_of_ofParts?
  · rintro ⟨rfl, rfl, rfl, rfl⟩
    exact c.ofParts?_self

end Calendar

namespace Stamp

/-- The runs of digits of a stamp. Where its kind has no date or no fraction, these count for
nothing. -/
structure Parts where
  year : Text
  month : Text
  day : Text
  hour : Text
  minute : Text
  second : Text
  fraction : Text

namespace Kind

def isSlashed : Kind → Bool
  | .slashShortYear | .slashLongYear => true
  | _ => false

def yearDigits (k : Kind) : Nat := if k = .slashShortYear then 2 else 4

def fractionDigits : Kind → Nat × Nat
  | .dateSeconds | .isoSeconds => (0, 0)
  | .dateFraction => (3, 6)
  | _ => (3, 3)

def fractionPiece (k : Kind) : Piece := .digits k.fractionDigits.1 k.fractionDigits.2

structure Shapes (k : Kind) (n : Parts) : Prop where
  date : k.isTimeOnly = false → (Piece.digits k.yearDigits k.yearDigits).Fits n.year ∧
    (Piece.digits 2 2).Fits n.month ∧ (Piece.digits 2 2).Fits n.day
  hour : (Piece.digits 2 2).Fits n.hour
  minute : (Piece.digits 2 2).Fits n.minute
  second : (Piece.digits 2 2).Fits n.second
  fraction : k.fractionPiece.Fits n.fraction

def dayText (k : Kind) (year month day : Text) : Text :=
  if k.isSlashed then day ++ '/' :: (month ++ '/' :: year)
  else year ++ '-' :: (month ++ '-' :: day)

def fractionText (k : Kind) (digits : Text) : Text :=
  match k with
  | .dateSeconds | .isoSeconds => []
  | .dateColonMillis | .timeColonMillis => ':' :: digits
  | _ => '.' :: digits

def timeText (k : Kind) (hour minute second fraction : Text) : Text :=
  hour ++ ':' :: (minute ++ ':' :: second) ++ k.fractionText fraction

def write (k : Kind) (n : Parts) : Text :=
  let time := k.timeText n.hour n.minute n.second n.fraction
  if k.isTimeOnly then time else k.dayText n.year n.month n.day ++ k.separator :: time

def day (k : Kind) : Pattern :=
  if k.isSlashed then Pattern.numbers '/' 2 2 k.yearDigits
  else Pattern.numbers '-' k.yearDigits 2 2

def fraction : Kind → Pattern
  | .dateSeconds | .isoSeconds => []
  | .dateColonMillis | .timeColonMillis => Pattern.fraction ':' 3 3
  | .dateFraction => Pattern.fraction '.' 3 6
  | _ => Pattern.fraction '.' 3 3

def time (k : Kind) : Pattern := Pattern.clock ++ k.fraction

theorem pattern_of_timeOnly {k : Kind} (h : k.isTimeOnly = true) : k.pattern = k.time := by
  cases k <;> first | rfl | contradiction

theorem pattern_of_dated {k : Kind} (h : k.isTimeOnly = false) :
    k.pattern = k.day ++ .mark k.separator :: k.time := by
  cases k <;> first | rfl | contradiction

theorem exists_fraction {k : Kind} {t : Text} (fits : k.fraction.Fits t) :
    ∃ digits, k.fractionPiece.Fits digits ∧ t = k.fractionText digits := by
  have marked : ∀ {c : Char} {least most : Nat}, (Pattern.fraction c least most).Fits t →
      ∃ digits, (Piece.digits least most).Fits digits ∧ t = c :: digits := by
    rintro c least most ⟨_, _, rfl, rfl, digits, _, rfl, piece, rfl⟩
    exact ⟨digits, piece, by simp⟩
  have nothing : (Piece.digits 0 0).Fits [] := ⟨le_rfl, le_rfl, List.forall_mem_nil _⟩
  cases k with
  | dateSeconds => exact ⟨[], nothing, fits⟩
  | isoSeconds => exact ⟨[], nothing, fits⟩
  | _ => exact marked fits

theorem exists_time {k : Kind} {t : Text} (fits : k.time.Fits t) :
    ∃ hour minute second fraction, t = k.timeText hour minute second fraction ∧
      (Piece.digits 2 2).Fits hour ∧ (Piece.digits 2 2).Fits minute ∧
      (Piece.digits 2 2).Fits second ∧ k.fractionPiece.Fits fraction := by
  obtain ⟨_, _, rfl, clock, more⟩ := Pattern.fits_append.1 fits
  rw [Pattern.clock_eq] at clock
  obtain ⟨hour, minute, second, rfl, hh, hm, hs⟩ := Pattern.fits_numbers.1 clock
  obtain ⟨digits, hf, rfl⟩ := exists_fraction more
  exact ⟨hour, minute, second, digits, rfl, hh, hm, hs, hf⟩

theorem exists_day {k : Kind} {t : Text} (fits : k.day.Fits t) :
    ∃ year month day, t = k.dayText year month day ∧
      (Piece.digits k.yearDigits k.yearDigits).Fits year ∧ (Piece.digits 2 2).Fits month ∧
      (Piece.digits 2 2).Fits day := by
  unfold Kind.day at fits
  split at fits
  · next slashed =>
    obtain ⟨day, month, year, rfl, hd, hm, hy⟩ := Pattern.fits_numbers.1 fits
    exact ⟨year, month, day, by rw [dayText, if_pos slashed], hy, hm, hd⟩
  · next dashed =>
    obtain ⟨year, month, day, rfl, hy, hm, hd⟩ := Pattern.fits_numbers.1 fits
    exact ⟨year, month, day, by rw [dayText, if_neg dashed], hy, hm, hd⟩

theorem exists_parts {k : Kind} {t : Text} (fits : k.pattern.Fits t) :
    ∃ n, k.Shapes n ∧ t = k.write n := by
  cases timeOnly : k.isTimeOnly with
  | true =>
    rw [pattern_of_timeOnly timeOnly] at fits
    obtain ⟨hour, minute, second, fraction, rfl, hh, hm, hs, hf⟩ := exists_time fits
    refine ⟨⟨[], [], [], hour, minute, second, fraction⟩, ⟨?_, hh, hm, hs, hf⟩, ?_⟩
    · simp [timeOnly]
    · simp [write, timeOnly]
  | false =>
    rw [pattern_of_dated timeOnly] at fits
    obtain ⟨_, _, rfl, date, _, _, rfl, rfl, clock⟩ := Pattern.fits_append.1 fits
    obtain ⟨year, month, day, rfl, dated⟩ := exists_day date
    obtain ⟨hour, minute, second, fraction, rfl, hh, hm, hs, hf⟩ := exists_time clock
    refine ⟨⟨year, month, day, hour, minute, second, fraction⟩,
      ⟨fun _ => dated, hh, hm, hs, hf⟩, ?_⟩
    simp [write, timeOnly]

def year (k : Kind) (n : Parts) : Nat :=
  if k = .slashShortYear then 2000 + value n.year else value n.year

end Kind

theorem read?_two {t : Text} (fits : (Piece.digits 2 2).Fits t) {n : Nat} :
    read? max32 t = some n ↔ AsciiDigits t ∧ value t = n :=
  read?_eq_some_iff fits (by decide) (by decide)

theorem readInt?_year {k : Kind} {t : Text} (fits : (Piece.digits k.yearDigits k.yearDigits).Fits t)
    {n : Int} : readInt? maxSigned32 t = some n ↔ AsciiDigits t ∧ (value t : Int) = n := by
  refine readInt?_eq_some_iff fits ?_ ?_
  all_goals
    unfold Kind.yearDigits
    split <;> decide

theorem Kind.date?_eq (k : Kind) (t : Text) :
    k.date? t = if k.isSlashed then slashDate? t else Stamp.date? t := by
  cases k <;> rfl

theorem milli?_marked {c : Char} (mark : c = ':' ∨ c = '.') {most : Nat} {digits : Text}
    (fits : (Piece.digits 3 most).Fits digits) {m : Nat} :
    milli? (c :: digits) = some m ↔ AsciiDigits digits ∧ value (digits.take 3) = m := by
  have length : (digits.take 3).length = 3 := by simp [fits.1]
  have whole : (digits.take 3).rightpad 3 '0' = digits.take 3 := by simp [List.rightpad, length]
  have nonempty : digits ≠ [] := List.ne_nil_of_length_pos (by have := fits.1; omega)
  have front : (Piece.digits 3 3).Fits (digits.take 3) :=
    ⟨length.ge, length.le, fun c hc => fits.2.2 c (List.mem_of_mem_take hc)⟩
  rw [milli?, Option.ite_none_right_eq_some, whole,
    read?_eq_some_iff front (by decide) (by decide), List.all_eq_true]
  constructor
  · rintro ⟨⟨-, -, digits_ascii⟩, -, number⟩
    exact ⟨fun c hc _ => digits_ascii c hc, number⟩
  · rintro ⟨ascii, number⟩
    exact ⟨⟨mark, nonempty, digits_of_fits fits ascii⟩,
      fun c hc => ascii c (List.mem_of_mem_take hc), number⟩

theorem milli?_eq_some_iff {k : Kind} {digits : Text} (fits : k.fractionPiece.Fits digits)
    {m : Nat} :
    milli? (k.fractionText digits) = some m ↔ AsciiDigits digits ∧ value (digits.take 3) = m := by
  have nothing : (Piece.digits 0 0).Fits digits →
      (milli? [] = some m ↔ AsciiDigits digits ∧ value (digits.take 3) = m) := by
    rintro ⟨-, short, -⟩
    obtain rfl := List.length_eq_zero_iff.1 (Nat.le_zero.1 short)
    rw [milli?, Option.some_inj]
    exact (and_iff_right (List.forall_mem_nil _)).symm
  cases k with
  | dateSeconds => exact nothing fits
  | isoSeconds => exact nothing fits
  | dateColonMillis => exact milli?_marked (.inl rfl) fits
  | timeColonMillis => exact milli?_marked (.inl rfl) fits
  | _ => exact milli?_marked (.inr rfl) fits

theorem asciiDigits_fractionText {k : Kind} {digits : Text} (fits : k.fractionPiece.Fits digits) :
    AsciiDigits (k.fractionText digits) ↔ AsciiDigits digits := by
  have nothing : (Piece.digits 0 0).Fits digits → (AsciiDigits [] ↔ AsciiDigits digits) := by
    rintro ⟨-, short, -⟩
    rw [List.length_eq_zero_iff.1 (Nat.le_zero.1 short)]
  cases k with
  | dateSeconds => exact nothing fits
  | isoSeconds => exact nothing fits
  | _ => exact asciiDigits_mark (by decide)

theorem asciiDigits_timeText {k : Kind} {hour minute second fraction : Text}
    (fits : k.fractionPiece.Fits fraction) :
    AsciiDigits (k.timeText hour minute second fraction) ↔
      (AsciiDigits hour ∧ AsciiDigits minute ∧ AsciiDigits second) ∧ AsciiDigits fraction := by
  have colon : Text.isDigit ':' = false := by decide
  simp only [Kind.timeText, asciiDigits_append, asciiDigits_mark colon,
    asciiDigits_fractionText fits]

theorem asciiDigits_dayText {k : Kind} {year month day : Text} :
    AsciiDigits (k.dayText year month day) ↔
      AsciiDigits year ∧ AsciiDigits month ∧ AsciiDigits day := by
  have slash : Text.isDigit '/' = false := by decide
  have dash : Text.isDigit '-' = false := by decide
  unfold Kind.dayText
  split
  · simp only [asciiDigits_append, asciiDigits_mark slash]
    exact ⟨fun ⟨d, m, y⟩ => ⟨y, m, d⟩, fun ⟨y, m, d⟩ => ⟨d, m, y⟩⟩
  · simp only [asciiDigits_append, asciiDigits_mark dash]

theorem asciiDigits_write {k : Kind} {n : Parts} :
    AsciiDigits (k.write n) ↔
      (k.isTimeOnly = false → AsciiDigits (k.dayText n.year n.month n.day)) ∧
        AsciiDigits (k.timeText n.hour n.minute n.second n.fraction) := by
  have separator : Text.isDigit k.separator = false := by cases k <;> decide
  cases timeOnly : k.isTimeOnly with
  | true => simp [Kind.write, timeOnly]
  | false => simp [Kind.write, timeOnly, asciiDigits_append, asciiDigits_mark separator]

theorem clock?_eq_some_iff {k : Kind} {n : Parts} (shapes : k.Shapes n) {c : Clock} :
    clock? (k.timeText n.hour n.minute n.second n.fraction) = some c ↔
      AsciiDigits (k.timeText n.hour n.minute n.second n.fraction) ∧ c.hour = value n.hour ∧
        c.minute = value n.minute ∧ c.second = value n.second ∧
        c.milli = value (n.fraction.take 3) := by
  obtain ⟨-, hh, hm, hs, hf⟩ := shapes
  have length := Pattern.length_clock hh hm hs
  have parts := threeParts?_append (c := ':') (hh.notMem (by decide)) (hm.notMem (by decide))
    n.second
  have long : 8 ≤ (n.hour ++ ':' :: (n.minute ++ ':' :: n.second)).length +
      (k.fractionText n.fraction).length := by
    rw [length]
    exact Nat.le_add_right ..
  rw [asciiDigits_timeText hf, clock?, Kind.timeText, List.take_left' length,
    List.drop_left' length, List.length_append, guard, if_pos long, parts]
  simp only [Option.bind_eq_bind, Option.pure_def, Option.bind_some, Option.bind_eq_some_iff,
    read?_two hh, read?_two hm, read?_two hs, milli?_eq_some_iff hf, Clock.ofParts?_eq_some_iff]
  constructor
  · rintro ⟨_, ⟨ah, rfl⟩, _, ⟨am, rfl⟩, _, ⟨as', rfl⟩, _, ⟨af, rfl⟩, numbers⟩
    exact ⟨⟨⟨ah, am, as'⟩, af⟩, numbers⟩
  · rintro ⟨⟨⟨ah, am, as'⟩, af⟩, numbers⟩
    exact ⟨_, ⟨ah, rfl⟩, _, ⟨am, rfl⟩, _, ⟨as', rfl⟩, _, ⟨af, rfl⟩, numbers⟩

section Date

variable {k : Kind} {n : Parts} (hy : (Piece.digits k.yearDigits k.yearDigits).Fits n.year)
  (hm : (Piece.digits 2 2).Fits n.month) (hd : (Piece.digits 2 2).Fits n.day) {d : Date}
include hy hm hd

theorem slashDate?_eq_some_iff :
    slashDate? (n.day ++ '/' :: (n.month ++ '/' :: n.year)) = some d ↔
      (AsciiDigits n.year ∧ AsciiDigits n.month ∧ AsciiDigits n.day) ∧ d.year = k.year n ∧
        d.month = value n.month ∧ d.day = value n.day := by
  have parts := threeParts?_append (c := '/') (hd.notMem (by decide)) (hm.notMem (by decide))
    n.year
  have year : (if n.year.length = 2 then (value n.year : Int) + 2000 else value n.year) =
      k.year n := by
    rw [hy.length_eq, Kind.yearDigits, Kind.year]
    split <;> simp [Int.add_comm]
  rw [slashDate?, parts, ← year]
  simp only [Option.bind_eq_bind, Option.bind_some, Option.bind_eq_some_iff, read?_two hd,
    read?_two hm, readInt?_year hy, Date.ofParts?_eq_some_iff]
  constructor
  · rintro ⟨_, ⟨ad, rfl⟩, _, ⟨am, rfl⟩, _, ⟨ay, rfl⟩, numbers⟩
    exact ⟨⟨ay, am, ad⟩, numbers⟩
  · rintro ⟨⟨ay, am, ad⟩, numbers⟩
    exact ⟨_, ⟨ad, rfl⟩, _, ⟨am, rfl⟩, _, ⟨ay, rfl⟩, numbers⟩

theorem date?_eq_some_iff (dashed : ¬ k.isSlashed) :
    date? (n.year ++ '-' :: (n.month ++ '-' :: n.day)) = some d ↔
      (AsciiDigits n.year ∧ AsciiDigits n.month ∧ AsciiDigits n.day) ∧ d.year = k.year n ∧
        d.month = value n.month ∧ d.day = value n.day := by
  have parts := threeParts?_append (c := '-') (hy.notMem (by decide)) (hm.notMem (by decide))
    n.day
  have year : k.year n = value n.year := by
    refine if_neg ?_
    rintro rfl
    exact dashed rfl
  rw [date?, parts, year]
  simp only [Option.bind_eq_bind, Option.bind_some, Option.bind_eq_some_iff, read?_two hd,
    read?_two hm, readInt?_year hy, Date.ofParts?_eq_some_iff]
  constructor
  · rintro ⟨_, ⟨ay, rfl⟩, _, ⟨am, rfl⟩, _, ⟨ad, rfl⟩, numbers⟩
    exact ⟨⟨ay, am, ad⟩, numbers⟩
  · rintro ⟨⟨ay, am, ad⟩, numbers⟩
    exact ⟨_, ⟨ay, rfl⟩, _, ⟨am, rfl⟩, _, ⟨ad, rfl⟩, numbers⟩

end Date

theorem Kind.date?_eq_some_iff {k : Kind} {n : Parts} (shapes : k.Shapes n)
    (dated : k.isTimeOnly = false) {d : Date} :
    k.date? (k.dayText n.year n.month n.day) = some d ↔
      AsciiDigits (k.dayText n.year n.month n.day) ∧ d.year = k.year n ∧
        d.month = value n.month ∧ d.day = value n.day := by
  obtain ⟨hy, hm, hd⟩ := shapes.date dated
  rw [asciiDigits_dayText, Kind.date?_eq, Kind.dayText]
  split
  · exact slashDate?_eq_some_iff hy hm hd
  · next dashed => exact Stamp.date?_eq_some_iff hy hm hd dashed

/-- The day is that of the stamp, where it has one, and otherwise the one that goes along. -/
structure OnDay (k : Kind) (n : Parts) (anchor date : Option Date) : Prop where
  own : k.isTimeOnly = false → ∃ d : Date, date = some d ∧ d.year = k.year n ∧
    d.month = value n.month ∧ d.day = value n.day
  other : k.isTimeOnly = true → date = anchor

structure Numbers (k : Kind) (n : Parts) (anchor : Option Date) (i : Instant) : Prop where
  day : OnDay k n anchor i.date
  hour : i.clock.hour = value n.hour
  minute : i.clock.minute = value n.minute
  second : i.clock.second = value n.second
  milli : i.clock.milli = value (n.fraction.take 3)
  eq_of : i = .of i.date i.clock

section

variable {k : Kind} {n : Parts} (shapes : k.Shapes n)
include shapes

theorem cut?_write (dated : k.isTimeOnly = false) :
    Text.cut? k.separator (k.write n) =
      some (k.dayText n.year n.month n.day,
        k.timeText n.hour n.minute n.second n.fraction) := by
  obtain ⟨hy, hm, hd⟩ := shapes.date dated
  have digit : Text.isDigit k.separator = false := by cases k <;> decide
  have marks : k.separator ≠ '/' ∧ k.separator ≠ '-' := by cases k <;> decide
  have absent : k.separator ∉ k.dayText n.year n.month n.day := by
    unfold Kind.dayText
    split <;> simp [hy.notMem digit, hm.notMem digit, hd.notMem digit, marks]
  rw [Kind.write, dated]
  exact Text.cut?_append absent _

theorem instant?_eq_some_iff {anchor : Option Date} {i : Instant} :
    instant? k anchor (k.write n) = some i ↔ AsciiDigits (k.write n) ∧ Numbers k n anchor i := by
  cases timeOnly : k.isTimeOnly with
  | true =>
    have text : k.write n = k.timeText n.hour n.minute n.second n.fraction := if_pos timeOnly
    rw [text, instant?, timeOnly, if_pos rfl]
    simp only [Option.bind_eq_bind, Option.pure_def, Option.bind_eq_some_iff,
      clock?_eq_some_iff shapes, Option.some_inj]
    constructor
    · rintro ⟨c, ⟨ascii, hour, minute, second, milli⟩, rfl⟩
      exact ⟨ascii, ⟨by simp [timeOnly], fun _ => rfl⟩, hour, minute, second, milli, rfl⟩
    · rintro ⟨ascii, numbers⟩
      refine ⟨i.clock, ⟨ascii, numbers.hour, numbers.minute, numbers.second, numbers.milli⟩, ?_⟩
      rw [← numbers.day.other timeOnly]
      exact numbers.eq_of.symm
  | false =>
    rw [instant?, timeOnly, if_neg Bool.false_ne_true, cut?_write shapes timeOnly,
      asciiDigits_write, timeOnly]
    simp only [Option.bind_eq_bind, Option.pure_def, Option.bind_some, Option.bind_eq_some_iff,
      Kind.date?_eq_some_iff shapes timeOnly, clock?_eq_some_iff shapes, Option.some_inj,
      forall_const]
    constructor
    · rintro ⟨d, ⟨ascii, day⟩, c, ⟨ascii', hour, minute, second, milli⟩, rfl⟩
      exact ⟨⟨ascii, ascii'⟩, ⟨fun _ => ⟨d, rfl, day⟩, by simp [timeOnly]⟩, hour, minute,
        second, milli, rfl⟩
    · rintro ⟨⟨ascii, ascii'⟩, numbers⟩
      obtain ⟨d, date, day⟩ := numbers.day.own timeOnly
      refine ⟨d, ⟨ascii, day⟩, i.clock,
        ⟨ascii', numbers.hour, numbers.minute, numbers.second, numbers.milli⟩, ?_⟩
      rw [← date]
      exact numbers.eq_of.symm

end

end Stamp
end Logbook
