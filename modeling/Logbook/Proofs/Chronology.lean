import Logbook.Proofs.CalendarText

/-! Dates, times of day and their texts in order. Days and milliseconds compare part by part, the
largest part first. So do texts in which each part has its length, since digits of one length
compare as the numbers they write. -/

namespace Logbook

open Calendar

/-- What is compared by `a` and `b` first, and by `o` where these are the same. -/
theorem compare_then {α β : Type} [LinearOrder α] [LinearOrder β] {a b : α} {x y : β} {o : Ordering}
    (less : a < b → x < y) (greater : b < a → y < x) (same : a = b → compare x y = o) :
    compare x y = (compare a b).then o := by
  rcases lt_trichotomy a b with h | h | h
  · rw [compare_lt_iff_lt.2 h, compare_lt_iff_lt.2 (less h), Ordering.lt_then]
  · rw [compare_eq_iff_eq.2 h, same h, Ordering.eq_then]
  · rw [compare_gt_iff_gt.2 h, compare_gt_iff_gt.2 (greater h), Ordering.gt_then]

theorem compare_congr {α β : Type} [LinearOrder α] [LinearOrder β] {a b : α} {x y : β}
    (less : a < b → x < y) (greater : b < a → y < x) (same : a = b → x = y) :
    compare x y = compare a b := by
  rw [compare_then less greater fun h => compare_eq_iff_eq.2 (same h), Ordering.then_eq]

namespace Text

theorem compare_lt_iff {s t : Text} : compare s t = .lt ↔ s < t := by
  induction s generalizing t with
  | nil => cases t <;> simp
  | cons c s ih =>
    cases t with
    | nil => simp
    | cons d t =>
      rw [List.compare_cons_cons, Ordering.then_eq_lt, ih, List.cons_lt_cons_iff,
        compare_lt_iff_lt, compare_eq_iff_eq]

theorem compare_append {x y : Text} (length : x.length = y.length) (s t : Text) :
    compare (x ++ s) (y ++ t) = (compare x y).then (compare s t) := by
  induction x generalizing y with
  | nil =>
    obtain rfl := List.length_eq_zero_iff.1 length.symm
    rfl
  | cons c x ih =>
    obtain ⟨d, y, rfl⟩ := List.exists_cons_of_length_eq_add_one length.symm
    rw [List.cons_append, List.cons_append, List.compare_cons_cons, List.compare_cons_cons,
      ih (by simpa using length), Ordering.then_assoc]

theorem compare_cons_self (c : Char) (s t : Text) : compare (c :: s) (c :: t) = compare s t := by
  rw [List.compare_cons_cons, compare_eq_iff_eq.2 rfl, Ordering.eq_then]

section

variable {α : Type} [LinearOrder α] {s t : Text} {m n : α} (h : compare s t = compare m n)
include h

theorem lt_iff_of_compare : s < t ↔ m < n := by
  rw [← compare_lt_iff, h, compare_lt_iff_lt]

theorem eq_iff_of_compare : s = t ↔ m = n := by
  rw [← Std.LawfulEqOrd.compare_eq_iff_eq (a := s), h, compare_eq_iff_eq]

theorem le_iff_of_compare : s ≤ t ↔ m ≤ n := by
  rw [le_iff_lt_or_eq, le_iff_lt_or_eq, ← eq_iff_of_compare h]
  exact or_congr_left (lt_iff_of_compare h)

theorem ge_iff_of_compare : t ≤ s ↔ n ≤ m := by
  rw [← not_lt, ← not_lt]
  exact not_congr (lt_iff_of_compare h)

end

end Text

namespace Numeral

theorem compare_digit {c d : Char} (hc : c.isDigit = true) (hd : d.isDigit = true) (m n : Nat) :
    compare (10 * m + digitValue c) (10 * n + digitValue d) =
      (compare m n).then (compare c d) := by
  rw [Text.ascii_isDigit_iff] at hc hd
  have zero : '0'.toNat = 48 := rfl
  unfold digitValue
  apply compare_then
  · omega
  · omega
  · rintro rfl
    have order : ∀ x y : Char, x < y ↔ x.toNat < y.toNat := fun x y => Iff.rfl
    apply compare_congr
    · rw [order]
      omega
    · rw [order]
      omega
    · rintro rfl
      rfl

theorem compare_ofDigitChars {s t : Text} (length : s.length = t.length)
    (hs : ∀ c ∈ s, c.isDigit = true) (ht : ∀ c ∈ t, c.isDigit = true) (m n : Nat) :
    compare (Nat.ofDigitChars 10 s m) (Nat.ofDigitChars 10 t n) =
      (compare m n).then (compare s t) := by
  induction s generalizing t m n with
  | nil =>
    obtain rfl := List.length_eq_zero_iff.1 length.symm
    simp
  | cons c s ih =>
    obtain ⟨d, t, rfl⟩ := List.exists_cons_of_length_eq_add_one length.symm
    rw [List.forall_mem_cons] at hs ht
    have first := compare_digit hs.1 ht.1 m n
    rw [Nat.ofDigitChars_cons, Nat.ofDigitChars_cons, ih (by simpa using length) hs.2 ht.2,
      List.compare_cons_cons, ← Ordering.then_assoc, ← first]
    rfl

structure Writes (width : Nat) (t : Text) (n : Nat) : Prop where
  length : t.length = width
  digits : ∀ c ∈ t, c.isDigit = true
  value : Nat.ofDigitChars 10 t 0 = n

theorem Writes.compare_eq {width m n : Nat} {s t : Text} (hs : Writes width s m)
    (ht : Writes width t n) : compare s t = compare m n := by
  have same := compare_ofDigitChars (hs.length.trans ht.length.symm) hs.digits ht.digits 0 0
  rw [hs.value, ht.value] at same
  exact same.symm

theorem writes_of_read? {limit width n : Nat} {t : Text}
    (fits : (Stamp.Piece.digits width width).Fits t) (h : read? limit t = some n) :
    Writes width t n := by
  obtain ⟨digits, value⟩ := digits_of_read? (fits.notMem (by decide)) h
  exact ⟨fits.length_eq, digits, value⟩

theorem writes_of_readInt? {limit width : Nat} {n : Int} {t : Text}
    (fits : (Stamp.Piece.digits width width).Fits t) (h : readInt? limit t = some n) :
    ∃ m : Nat, n = m ∧ Writes width t m := by
  rw [readInt?_eq (fits.notMem (by decide))] at h
  obtain ⟨m, number, rfl⟩ := Option.map_eq_some_iff.1 h
  exact ⟨m, rfl, writes_of_read? fits number⟩

theorem compare_parts {k l a b a' b' : Nat} {x y x' y' : Text} (hx : Writes k x a)
    (hy : Writes l y b) (hx' : Writes k x' a') (hy' : Writes l y' b') (c : Char) (z z' : Text) :
    compare (x ++ c :: (y ++ c :: z)) (x' ++ c :: (y' ++ c :: z')) =
      (compare a a').then ((compare b b').then (compare z z')) := by
  rw [Text.compare_append (hx.length.trans hx'.length.symm), Text.compare_cons_self,
    Text.compare_append (hy.length.trans hy'.length.symm), Text.compare_cons_self,
    hx.compare_eq hx', hy.compare_eq hy']

end Numeral

namespace Calendar

namespace Date

def daysInYear (year : Int) : Nat := if isLeap year then 366 else 365

theorem daysBeforeYear_succ (year : Int) :
    daysBeforeYear (year + 1) = daysBeforeYear year + daysInYear year := by
  simp only [daysBeforeYear, daysInYear, isLeap, Bool.and_eq_true, Bool.or_eq_true,
    decide_eq_true_eq]
  split <;> omega

theorem daysBeforeYear_mono {year year' : Int} (h : year ≤ year') :
    daysBeforeYear year ≤ daysBeforeYear year' := by
  unfold daysBeforeYear
  omega

theorem daysBeforeMonth_succ (year : Int) {month : Nat} (pos : 1 ≤ month) :
    daysBeforeMonth year (month + 1) = daysBeforeMonth year month + daysInMonth year month := by
  obtain ⟨m, rfl⟩ := Nat.exists_eq_add_of_le' pos
  rfl

theorem daysBeforeMonth_add_le (year : Int) {month month' : Nat} (pos : 1 ≤ month)
    (h : month < month') :
    daysBeforeMonth year month + daysInMonth year month ≤ daysBeforeMonth year month' := by
  induction h with
  | refl => exact (daysBeforeMonth_succ year pos).ge
  | @step m h ih =>
    have later : 1 ≤ m := pos.trans (Nat.le_of_succ_le h)
    rw [Nat.succ_eq_add_one, daysBeforeMonth_succ year later]
    omega

theorem daysBeforeMonth_thirteen (year : Int) : daysBeforeMonth year 13 = daysInYear year := by
  unfold daysInYear
  cases h : isLeap year <;> simp [daysBeforeMonth, daysInMonth, h]

theorem absoluteDay_lt (d : Date) : d.absoluteDay < daysBeforeYear (d.year + 1) := by
  have month := daysBeforeMonth_add_le d.year d.month_pos (Nat.lt_succ_of_le d.month_le)
  have day := d.day_le
  rw [daysBeforeMonth_thirteen] at month
  rw [absoluteDay, daysBeforeYear_succ]
  omega

theorem daysBeforeYear_le (d : Date) : daysBeforeYear d.year ≤ d.absoluteDay := by
  have day := d.day_pos
  rw [absoluteDay]
  omega

theorem absoluteDay_lt_of_year {d d' : Date} (h : d.year < d'.year) :
    d.absoluteDay < d'.absoluteDay :=
  calc d.absoluteDay < daysBeforeYear (d.year + 1) := d.absoluteDay_lt
    _ ≤ daysBeforeYear d'.year := daysBeforeYear_mono h
    _ ≤ d'.absoluteDay := d'.daysBeforeYear_le

theorem absoluteDay_lt_of_month {d d' : Date} (year : d.year = d'.year) (h : d.month < d'.month) :
    d.absoluteDay < d'.absoluteDay := by
  have month := daysBeforeMonth_add_le d.year d.month_pos h
  have last := d.day_le
  have first := d'.day_pos
  rw [absoluteDay, absoluteDay, ← year]
  omega

theorem compare_epochDay (d d' : Date) :
    compare d.epochDay d'.epochDay =
      (compare d.year d'.year).then ((compare d.month d'.month).then (compare d.day d'.day)) := by
  unfold epochDay
  apply compare_then
  · exact fun h => Int.sub_lt_sub_right (absoluteDay_lt_of_year h) _
  · exact fun h => Int.sub_lt_sub_right (absoluteDay_lt_of_year h) _
  intro year
  apply compare_then
  · exact fun h => Int.sub_lt_sub_right (absoluteDay_lt_of_month year h) _
  · exact fun h => Int.sub_lt_sub_right (absoluteDay_lt_of_month year.symm h) _
  intro month
  unfold absoluteDay
  rw [year, month]
  apply compare_congr
  · omega
  · omega
  · intro day
    rw [day]

end Date

namespace Clock

theorem parts_of_ofParts? {hour minute second milli : Nat} {c : Clock}
    (h : ofParts? hour minute second milli = some c) :
    c.hour = hour ∧ c.minute = minute ∧ c.second = second ∧ c.milli = milli := by
  unfold ofParts? at h
  split at h
  · cases h
    exact ⟨rfl, rfl, rfl, rfl⟩
  · contradiction

theorem compare_millis (c c' : Clock) :
    compare c.millis c'.millis = (compare c.hour c'.hour).then ((compare c.minute c'.minute).then
      ((compare c.second c'.second).then (compare c.milli c'.milli))) := by
  obtain ⟨h, m, s, f, -, hm, hs, hf⟩ := c
  obtain ⟨h', m', s', f', -, hm', hs', hf'⟩ := c'
  unfold millis
  dsimp only
  apply compare_then
  · omega
  · omega
  rintro rfl
  apply compare_then
  · omega
  · omega
  rintro rfl
  apply compare_then
  · omega
  · omega
  rintro rfl
  apply compare_congr
  · omega
  · omega
  · rintro rfl
    rfl

theorem millis_lt (c : Clock) : c.millis < 86400000 := by
  obtain ⟨h, m, s, f, hh, hm, hs, hf⟩ := c
  unfold millis
  dsimp only
  omega

end Clock

end Calendar

namespace Stamp

theorem date?_parts {t : Text} {d : Date} (fits : Pattern.date.Fits t) (h : date? t = some d) :
    ∃ x y z, ∃ year : Nat, t = x ++ '-' :: (y ++ '-' :: z) ∧ d.year = year ∧
      Numeral.Writes 4 x year ∧ Numeral.Writes 2 y d.month ∧ Numeral.Writes 2 z d.day := by
  rw [Pattern.date_eq] at fits
  obtain ⟨x, y, z, rfl, hx, hy, hz⟩ := Pattern.fits_numbers.1 fits
  have parts := threeParts?_append (c := '-') (hx.notMem (by decide)) (hy.notMem (by decide)) z
  rw [date?, parts, Option.bind_eq_bind, Option.bind_some] at h
  obtain ⟨year, read_year, h⟩ := Option.bind_eq_some_iff.1 h
  obtain ⟨month, read_month, h⟩ := Option.bind_eq_some_iff.1 h
  obtain ⟨day, read_day, h⟩ := Option.bind_eq_some_iff.1 h
  obtain ⟨n, rfl, writes_year⟩ := Numeral.writes_of_readInt? hx read_year
  obtain ⟨year_eq, rfl, rfl⟩ := Date.parts_of_ofParts? h
  exact ⟨x, y, z, n, rfl, year_eq, writes_year, Numeral.writes_of_read? hy read_month,
    Numeral.writes_of_read? hz read_day⟩

theorem compare_of_date? {t t' : Text} {d d' : Date} (fits : Pattern.date.Fits t)
    (fits' : Pattern.date.Fits t') (h : date? t = some d) (h' : date? t' = some d') :
    compare t t' = compare d.epochDay d'.epochDay := by
  obtain ⟨x, y, z, n, rfl, year, hx, hy, hz⟩ := date?_parts fits h
  obtain ⟨x', y', z', n', rfl, year', hx', hy', hz'⟩ := date?_parts fits' h'
  have years : compare (n : Int) n' = compare n n' := by
    apply compare_congr <;> omega
  rw [Numeral.compare_parts hx hy hx' hy', hz.compare_eq hz', Date.compare_epochDay, year, year',
    years]

theorem clock?_parts {u f : Text} {c : Clock} (fits : Pattern.clock.Fits u)
    (h : clock? (u ++ f) = some c) :
    ∃ x y z, u = x ++ ':' :: (y ++ ':' :: z) ∧ Numeral.Writes 2 x c.hour ∧
      Numeral.Writes 2 y c.minute ∧ Numeral.Writes 2 z c.second ∧ milli? f = some c.milli := by
  rw [Pattern.clock_eq] at fits
  obtain ⟨x, y, z, rfl, hx, hy, hz⟩ := Pattern.fits_numbers.1 fits
  have length := Pattern.length_clock hx hy hz
  have parts := threeParts?_append (c := ':') (hx.notMem (by decide)) (hy.notMem (by decide)) z
  obtain ⟨⟨⟩, -, h⟩ := Option.bind_eq_some_iff.1 h
  rw [List.take_left' length, List.drop_left' length, parts, Option.bind_eq_bind,
    Option.bind_some] at h
  obtain ⟨hour, read_hour, h⟩ := Option.bind_eq_some_iff.1 h
  obtain ⟨minute, read_minute, h⟩ := Option.bind_eq_some_iff.1 h
  obtain ⟨second, read_second, h⟩ := Option.bind_eq_some_iff.1 h
  obtain ⟨milli, read_milli, h⟩ := Option.bind_eq_some_iff.1 h
  obtain ⟨rfl, rfl, rfl, rfl⟩ := Clock.parts_of_ofParts? h
  exact ⟨x, y, z, rfl, Numeral.writes_of_read? hx read_hour, Numeral.writes_of_read? hy read_minute,
    Numeral.writes_of_read? hz read_second, read_milli⟩

theorem milli_eq_zero {u : Text} {c : Clock} (fits : Pattern.clock.Fits u)
    (h : clock? (u ++ []) = some c) : c.milli = 0 := by
  obtain ⟨-, -, -, -, -, -, -, no_fraction⟩ := clock?_parts fits h
  exact (Option.some.inj no_fraction).symm

theorem compare_of_clock? {u u' f f' : Text} {c c' : Clock} (fits : Pattern.clock.Fits u)
    (fits' : Pattern.clock.Fits u') (h : clock? (u ++ f) = some c)
    (h' : clock? (u' ++ f') = some c')
    (fractions : ∀ n n', milli? f = some n → milli? f' = some n' → compare f f' = compare n n') :
    compare (u ++ f) (u' ++ f') = compare c.millis c'.millis := by
  obtain ⟨x, y, z, rfl, hx, hy, hz, milli⟩ := clock?_parts fits h
  obtain ⟨x', y', z', rfl, hx', hy', hz', milli'⟩ := clock?_parts fits' h'
  simp only [List.append_assoc, List.cons_append]
  rw [Numeral.compare_parts hx hy hx' hy', Text.compare_append (hz.length.trans hz'.length.symm),
    hz.compare_eq hz', fractions _ _ milli milli', Clock.compare_millis]

theorem compare_of_milli? {f f' : Text} {n n' : Nat} (fits : (Pattern.fraction '.' 3 3).Fits f)
    (fits' : (Pattern.fraction '.' 3 3).Fits f') (h : milli? f = some n)
    (h' : milli? f' = some n') : compare f f' = compare n n' := by
  have writes : ∀ {g m}, (Pattern.fraction '.' 3 3).Fits g → milli? g = some m →
      ∃ ds, g = '.' :: ds ∧ Numeral.Writes 3 ds m := by
    rintro g m ⟨_, _, rfl, rfl, ds, _, rfl, piece, rfl⟩ read
    have length : ds.length = 3 := piece.length_eq
    have whole : (ds.take 3).rightpad 3 '0' = ds := by
      rw [List.take_of_length_le length.le]
      simp [List.rightpad, length]
    rw [List.append_nil, List.singleton_append, milli?] at read
    split at read
    · rw [whole] at read
      exact ⟨ds, by simp, Numeral.writes_of_read? piece read⟩
    · contradiction
  obtain ⟨ds, rfl, written⟩ := writes fits h
  obtain ⟨ds', rfl, written'⟩ := writes fits' h'
  rw [Text.compare_cons_self, written.compare_eq written']

end Stamp

theorem Instant.compare_millisOf (d d' : Date) (c c' : Clock) :
    compare (millisOf d c) (millisOf d' c') =
      (compare d.epochDay d'.epochDay).then (compare c.millis c'.millis) := by
  have short := c.millis_lt
  have short' := c'.millis_lt
  unfold millisOf
  apply compare_then
  · omega
  · omega
  intro day
  rw [day]
  apply compare_congr
  · omega
  · omega
  · intro same
    rw [same]

end Logbook
