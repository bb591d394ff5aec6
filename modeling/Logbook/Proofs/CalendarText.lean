import Logbook.Proofs.Digits
import Logbook.Proofs.Pattern
import Logbook.Stamp.Instant

/-! Dates and times of day in digits. A time of day is written in a shape that is read, and reads
back; so is a date, as long as its year has four digits. Any date that a stamp names is of that
sort, also where its own year has only two. -/

namespace Logbook

open Calendar

theorem Numeral.readInt?_eq {limit : Nat} {t : Text} (h : '-' ∉ t) :
    readInt? limit t = (read? limit t).map Nat.cast := by
  unfold readInt?
  split
  · simp at h
  · simp at h
  · cases read? limit t <;> rfl

namespace Stamp

theorem Piece.fits_padded {width n : Nat} (positive : 0 < width) (h : n < 10 ^ width) :
    (digits width width).Fits (Text.padded width n) := by
  have length := Text.length_padded positive h
  refine ⟨length.ge, length.le, fun c hc => ?_⟩
  exact Text.isDigit_of_ascii (Text.isDigit_of_mem_padded hc)

namespace Pattern

def numbers (c : Char) (k l m : Nat) : Pattern :=
  [.digits k k, .mark c, .digits l l, .mark c, .digits m m]

theorem date_eq : date = numbers '-' 4 2 2 := rfl

theorem slashDate_eq (year : Nat) : slashDate year = numbers '/' 2 2 year := rfl

theorem clock_eq : clock = numbers ':' 2 2 2 := rfl

theorem fits_numbers {c : Char} {k l m : Nat} {t : Text} :
    (numbers c k l m).Fits t ↔ ∃ x y z, t = x ++ c :: (y ++ c :: z) ∧
      (Piece.digits k k).Fits x ∧ (Piece.digits l l).Fits y ∧ (Piece.digits m m).Fits z := by
  constructor
  · rintro ⟨x, _, rfl, hx, _, _, rfl, rfl, y, _, rfl, hy, _, _, rfl, rfl, z, _, rfl, hz, rfl⟩
    exact ⟨x, y, z, by simp, hx, hy, hz⟩
  · rintro ⟨x, y, z, rfl, hx, hy, hz⟩
    exact ⟨x, _, rfl, hx, [c], _, rfl, rfl, y, _, rfl, hy, [c], _, rfl, rfl,
      z, [], by simp, hz, rfl⟩

theorem length_clock {x y z : Text} (hx : (Piece.digits 2 2).Fits x)
    (hy : (Piece.digits 2 2).Fits y) (hz : (Piece.digits 2 2).Fits z) :
    (x ++ ':' :: (y ++ ':' :: z)).length = 8 := by
  simp [hx.length_eq, hy.length_eq, hz.length_eq]

end Pattern

theorem threeParts?_append {c : Char} {x y : Text} (hx : c ∉ x) (hy : c ∉ y) (z : Text) :
    threeParts? c (x ++ c :: (y ++ c :: z)) = some (x, y, z) := by
  simp [threeParts?, Text.cut?_append hx, Text.cut?_append hy]

theorem threeParts?_of_fits {c : Char} {k l m : Nat} {t : Text} (mark : Text.isDigit c = false)
    (fits : (Pattern.numbers c k l m).Fits t) :
    ∃ x y z, threeParts? c t = some (x, y, z) ∧
      (Piece.digits k k).Fits x ∧ (Piece.digits l l).Fits y ∧ (Piece.digits m m).Fits z := by
  obtain ⟨x, y, z, rfl, hx, hy, hz⟩ := Pattern.fits_numbers.1 fits
  exact ⟨x, y, z, threeParts?_append (hx.notMem mark) (hy.notMem mark) z, hx, hy, hz⟩

theorem lt_of_readInt? {limit width : Nat} {t : Text} {year : Int}
    (fits : (Piece.digits width width).Fits t) (h : Numeral.readInt? limit t = some year) :
    0 ≤ year ∧ year < 10 ^ width := by
  rw [Numeral.readInt?_eq (fits.notMem (by decide))] at h
  obtain ⟨n, number, rfl⟩ := Option.map_eq_some_iff.1 h
  have bound := Numeral.lt_of_read? number
  rw [fits.length_eq] at bound
  exact ⟨Int.natCast_nonneg n, by exact_mod_cast bound⟩

end Stamp

namespace Calendar

theorem daysInMonth_le (year : Int) (month : Nat) : daysInMonth year month ≤ 31 := by
  unfold daysInMonth
  split
  · split <;> decide
  all_goals decide

namespace Date

theorem ofParts?_self (d : Date) : ofParts? d.year d.month d.day = some d :=
  dif_pos ⟨⟨d.year_ge, d.year_le⟩, ⟨d.month_pos, d.month_le⟩, d.day_pos, d.day_le⟩

theorem parts_of_ofParts? {year : Int} {month day : Nat} {d : Date}
    (h : ofParts? year month day = some d) : d.year = year ∧ d.month = month ∧ d.day = day := by
  unfold ofParts? at h
  split at h
  · cases h
    exact ⟨rfl, rfl, rfl⟩
  · contradiction

def IsWritten (d : Date) : Prop := 0 ≤ d.year ∧ d.year ≤ 9999

theorem IsWritten.text_eq {d : Date} (h : d.IsWritten) :
    d.text = Text.padded 4 d.year.natAbs ++
      '-' :: (Text.padded 2 d.month ++ '-' :: Text.padded 2 d.day) := by
  have year : yearText d.year = Text.padded 4 d.year.natAbs := by
    rw [yearText, if_neg (Int.not_lt.2 h.1), if_pos h.2]
  rw [text, year]
  simp

section

variable {d : Date} (h : d.IsWritten)
include h

theorem IsWritten.fits_parts :
    (Stamp.Piece.digits 4 4).Fits (Text.padded 4 d.year.natAbs) ∧
      (Stamp.Piece.digits 2 2).Fits (Text.padded 2 d.month) ∧
      (Stamp.Piece.digits 2 2).Fits (Text.padded 2 d.day) := by
  have year : d.year.natAbs < 10 ^ 4 := by
    obtain ⟨low, high⟩ := h
    omega
  have month : d.month < 10 ^ 2 := d.month_le.trans_lt (by decide)
  have day : d.day < 10 ^ 2 := (d.day_le.trans (daysInMonth_le _ _)).trans_lt (by decide)
  exact ⟨Stamp.Piece.fits_padded (by decide) year, Stamp.Piece.fits_padded (by decide) month,
    Stamp.Piece.fits_padded (by decide) day⟩

theorem IsWritten.fits_text : Stamp.Pattern.date.Fits d.text := by
  rw [Stamp.Pattern.date_eq, Stamp.Pattern.fits_numbers]
  exact ⟨_, _, _, h.text_eq, h.fits_parts⟩

theorem IsWritten.date?_text : Stamp.date? d.text = some d := by
  obtain ⟨hy, hm, hd⟩ := h.fits_parts
  have parts := Stamp.threeParts?_append (c := '-') (hy.notMem (by decide)) (hm.notMem (by decide))
    (Text.padded 2 d.day)
  have small : d.year.natAbs ≤ Numeral.maxSigned32 := by
    obtain ⟨low, high⟩ := h
    have limit : Numeral.maxSigned32 = 2147483647 := rfl
    omega
  have year : Numeral.readInt? Numeral.maxSigned32 (Text.padded 4 d.year.natAbs) = some d.year := by
    rw [Numeral.readInt?_eq (hy.notMem (by decide)), Numeral.read?_padded small]
    exact congrArg some (Int.natAbs_of_nonneg h.1)
  have month : d.month ≤ Numeral.max32 := d.month_le.trans (by decide)
  have day : d.day ≤ Numeral.max32 := (d.day_le.trans (daysInMonth_le _ _)).trans (by decide)
  rw [Stamp.date?, h.text_eq, parts]
  simp [year, Numeral.read?_padded month, Numeral.read?_padded day, ofParts?_self]

end

end Date

namespace Clock

theorem ofParts?_self (c : Clock) : ofParts? c.hour c.minute c.second c.milli = some c :=
  dif_pos ⟨⟨c.hour_lt, c.minute_lt⟩, c.second_lt, c.milli_lt⟩

def secondText (c : Clock) : Text :=
  Text.padded 2 c.hour ++ ':' :: (Text.padded 2 c.minute ++ ':' :: Text.padded 2 c.second)

def fractionText (c : Clock) : Text := '.' :: Text.padded 3 c.milli

theorem text_eq (c : Clock) : c.text = c.secondText ++ c.fractionText := by
  simp [text, secondText, fractionText]

theorem fits_parts (c : Clock) :
    (Stamp.Piece.digits 2 2).Fits (Text.padded 2 c.hour) ∧
      (Stamp.Piece.digits 2 2).Fits (Text.padded 2 c.minute) ∧
      (Stamp.Piece.digits 2 2).Fits (Text.padded 2 c.second) :=
  ⟨Stamp.Piece.fits_padded (by decide) (c.hour_lt.trans (by decide)),
    Stamp.Piece.fits_padded (by decide) (c.minute_lt.trans (by decide)),
    Stamp.Piece.fits_padded (by decide) (c.second_lt.trans (by decide))⟩

theorem fits_secondText (c : Clock) : Stamp.Pattern.clock.Fits c.secondText := by
  rw [Stamp.Pattern.clock_eq, Stamp.Pattern.fits_numbers]
  exact ⟨_, _, _, rfl, c.fits_parts⟩

theorem fits_fractionText (c : Clock) {most : Nat} (h : 3 ≤ most) :
    (Stamp.Pattern.fraction '.' 3 most).Fits c.fractionText := by
  obtain ⟨long, short, digits⟩ : (Stamp.Piece.digits 3 3).Fits (Text.padded 3 c.milli) :=
    Stamp.Piece.fits_padded (by decide) (c.milli_lt.trans_le (by decide))
  exact ⟨['.'], _, rfl, rfl, _, [], (List.append_nil _).symm, ⟨long, short.trans h, digits⟩, rfl⟩

theorem length_secondText (c : Clock) : c.secondText.length = 8 := by
  obtain ⟨hh, hm, hs⟩ := c.fits_parts
  exact Stamp.Pattern.length_clock hh hm hs

theorem milli?_fractionText (c : Clock) : Stamp.milli? c.fractionText = some c.milli := by
  have length : (Text.padded 3 c.milli).length = 3 :=
    Text.length_padded (by decide) (c.milli_lt.trans_le (by decide))
  have nonempty : Text.padded 3 c.milli ≠ [] := List.ne_nil_of_length_pos (by omega)
  have digits : (Text.padded 3 c.milli).all Char.isDigit = true := by
    rw [List.all_eq_true]
    exact fun d hd => Text.isDigit_of_mem_padded hd
  have whole : ((Text.padded 3 c.milli).take 3).rightpad 3 '0' = Text.padded 3 c.milli := by
    rw [List.take_of_length_le length.le]
    simp [List.rightpad, length]
  have small : c.milli ≤ Numeral.max32 := c.milli_lt.le.trans (by decide)
  rw [fractionText, Stamp.milli?, if_pos ⟨.inr rfl, nonempty, digits⟩, whole,
    Numeral.read?_padded small]

theorem clock?_append (c : Clock) {f : Text} {n : Nat} (h : Stamp.milli? f = some n) :
    Stamp.clock? (c.secondText ++ f) = ofParts? c.hour c.minute c.second n := by
  obtain ⟨hh, hm, -⟩ := c.fits_parts
  have parts : Stamp.threeParts? ':' c.secondText = some _ :=
    Stamp.threeParts?_append (hh.notMem (by decide)) (hm.notMem (by decide)) _
  have long : 8 ≤ c.secondText.length + f.length := by
    rw [length_secondText]
    omega
  have hour : c.hour ≤ Numeral.max32 := c.hour_lt.le.trans (by decide)
  have minute : c.minute ≤ Numeral.max32 := c.minute_lt.le.trans (by decide)
  have second : c.second ≤ Numeral.max32 := c.second_lt.le.trans (by decide)
  rw [Stamp.clock?, List.take_left' c.length_secondText, List.drop_left' c.length_secondText,
    parts]
  simp [guard, long, Numeral.read?_padded hour, Numeral.read?_padded minute,
    Numeral.read?_padded second, h]

theorem clock?_text (c : Clock) : Stamp.clock? c.text = some c := by
  rw [text_eq, clock?_append c c.milli?_fractionText, ofParts?_self]

theorem clock?_secondText (c : Clock) :
    Stamp.clock? c.secondText = some { c with milli := 0, milli_lt := by decide } := by
  have read := clock?_append c (f := []) rfl
  rw [List.append_nil] at read
  rw [read]
  exact ofParts?_self { c with milli := 0, milli_lt := by decide }

end Clock

end Calendar

namespace Stamp

theorem isWritten_of_date? {t : Text} {d : Date} (fits : Pattern.date.Fits t)
    (h : date? t = some d) : d.IsWritten := by
  rw [Pattern.date_eq] at fits
  obtain ⟨y, m, n, parts, year_fits, -, -⟩ := threeParts?_of_fits (by decide) fits
  rw [date?, parts, Option.bind_eq_bind, Option.bind_some] at h
  obtain ⟨year, read, h⟩ := Option.bind_eq_some_iff.1 h
  obtain ⟨month, -, h⟩ := Option.bind_eq_some_iff.1 h
  obtain ⟨day, -, h⟩ := Option.bind_eq_some_iff.1 h
  have bounds := lt_of_readInt? year_fits read
  rw [Date.IsWritten, (Date.parts_of_ofParts? h).1]
  omega

theorem isWritten_of_slashDate? {year : Nat} (lengths : year = 2 ∨ year = 4) {t : Text} {d : Date}
    (fits : (Pattern.slashDate year).Fits t) (h : slashDate? t = some d) : d.IsWritten := by
  rw [Pattern.slashDate_eq] at fits
  obtain ⟨n, m, y, parts, -, -, year_fits⟩ := threeParts?_of_fits (by decide) fits
  rw [slashDate?, parts, Option.bind_eq_bind, Option.bind_some] at h
  obtain ⟨day, -, h⟩ := Option.bind_eq_some_iff.1 h
  obtain ⟨month, -, h⟩ := Option.bind_eq_some_iff.1 h
  obtain ⟨number, read, h⟩ := Option.bind_eq_some_iff.1 h
  have bounds := lt_of_readInt? year_fits read
  have length : y.length = year := year_fits.length_eq
  rw [Date.IsWritten, (Date.parts_of_ofParts? h).1, length]
  rcases lengths with rfl | rfl
  · rw [if_pos rfl]
    omega
  · rw [if_neg (by decide)]
    omega

/-- A kind with a date begins with it, up to a mark that is not in the date. -/
theorem Kind.pattern_eq (k : Kind) (h : k.isTimeOnly = false) :
    ∃ day rest : Pattern, k.pattern = day ++ .mark k.separator :: rest ∧
      .mark k.separator ∉ day ∧
        ∀ {t : Text} {d : Date}, day.Fits t → k.date? t = some d → d.IsWritten := by
  cases k with
  | dateColonMillis => exact ⟨Pattern.date, _, rfl, by decide, isWritten_of_date?⟩
  | dateFraction => exact ⟨Pattern.date, _, rfl, by decide, isWritten_of_date?⟩
  | dateSeconds => exact ⟨Pattern.date, _, rfl, by decide, isWritten_of_date?⟩
  | slashShortYear =>
    exact ⟨Pattern.slashDate 2, _, rfl, by decide, isWritten_of_slashDate? (.inl rfl)⟩
  | slashLongYear =>
    exact ⟨Pattern.slashDate 4, _, rfl, by decide, isWritten_of_slashDate? (.inr rfl)⟩
  | timeColonMillis => contradiction
  | timeDotMillis => contradiction
  | isoMillis => exact ⟨Pattern.date, _, rfl, by decide, isWritten_of_date?⟩
  | isoSeconds => exact ⟨Pattern.date, _, rfl, by decide, isWritten_of_date?⟩

end Stamp
end Logbook
