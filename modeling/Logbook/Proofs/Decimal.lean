import Logbook.Binary64.Decimal
import Logbook.Proofs.Digits
import Logbook.Proofs.Scan

/-! A number is written so that it reads back as itself. Where a shortest decimal was found, that is
what it was sought for; the exact expansion reads back because no rounding is needed. -/

namespace Logbook.Binary64

theorem groupSize_eq : groupSize = 2 ^ 52 := Nat.one_shiftLeft 52

theorem unit_eq : unit = 2 ^ 1074 := by decide +kernel

theorem tenTo_eq (n : Nat) : tenTo n = 10 ^ n := rfl

/-- The exponent and the mantissa of a magnitude, as its rank has them. -/
theorem units_eq (rank : Nat) : ∃ k m, units rank = m * 2 ^ k ∧ rank = k * groupSize + m ∧
    (units rank).log2 - 52 = k ∧ m < 2 * groupSize := by
  unfold units
  rw [groupSize_eq]
  split
  · next small =>
    -- Below the first full group the rank is the magnitude itself.
    have log : rank.log2 - 52 = 0 := by
      by_cases zero : rank = 0
      · simp [zero]
      · have := (Nat.log2_lt zero).2 small
        omega
    exact ⟨0, rank, by simp, by simp, log, by omega⟩
  · next large =>
    have mantissa : rank % 2 ^ 52 < 2 ^ 52 := Nat.mod_lt _ (by decide)
    -- The mantissa has 53 binary digits, so the exponent is what the magnitude has beyond them.
    have log : ∀ k, ((2 ^ 52 + rank % 2 ^ 52) * 2 ^ k).log2 = 52 + k := by
      intro k
      have step : 0 < 2 ^ k := Nat.two_pow_pos k
      rw [Nat.log2_eq_iff (Nat.mul_pos (by omega) step).ne', Nat.add_right_comm, Nat.pow_add,
        Nat.pow_add]
      exact ⟨Nat.mul_le_mul_right _ (by omega), Nat.mul_lt_mul_of_pos_right (by omega) step⟩
    refine ⟨rank / 2 ^ 52 - 1, 2 ^ 52 + rank % 2 ^ 52, Nat.shiftLeft_eq .., ?_, ?_, by omega⟩
    · have := Nat.div_add_mod rank (2 ^ 52)
      have : 1 ≤ rank / 2 ^ 52 := by omega
      omega
    · rw [Nat.shiftLeft_eq, log]
      omega

theorem nearest_eq {num den rank : Nat} (positive : 0 < den) (finite : rank ≤ infinityRank)
    (exact : num * unit = units rank * den) : nearest num den = rank := by
  obtain ⟨k, m, magnitude, parts, log, -⟩ := units_eq rank
  have whole : num * unit / den = units rank := by
    rw [exact, Nat.mul_div_cancel _ positive]
  have step : 0 < den * 2 ^ k := Nat.mul_pos positive (Nat.two_pow_pos k)
  have scaled : num * unit = m * (den * 2 ^ k) := by
    rw [exact, magnitude, Nat.mul_assoc, Nat.mul_comm (2 ^ k)]
  have rounded : roundHalfEven (num * unit) (den * 2 ^ k) = m := by
    rw [roundHalfEven, scaled, Nat.mul_div_cancel _ step, Nat.mul_mod_left]
    exact if_pos step
  simp only [nearest]
  rw [whole, log, Nat.shiftLeft_eq, rounded, ← parts, Nat.min_eq_right finite]

theorem units_pos {rank : Nat} (h : 0 < rank) : 0 < units rank := by
  obtain ⟨k, m, magnitude, parts, log, -⟩ := units_eq rank
  by_contra zero
  rw [Nat.eq_zero_of_not_pos zero] at magnitude log
  have k_zero : k = 0 := by simpa using log.symm
  have m_zero : m = 0 := by simpa [k_zero] using magnitude.symm
  simp [parts, k_zero, m_zero] at h

theorem units_lt {rank : Nat} (h : rank < infinityRank) : units rank < 2 ^ 2099 := by
  obtain ⟨k, m, magnitude, parts, -, mantissa⟩ := units_eq rank
  rw [groupSize_eq] at parts mantissa
  rw [infinityRank, groupSize_eq] at h
  have grows : ∀ j, k ≤ j → 2 ^ k ≤ 2 ^ j := fun j => Nat.pow_le_pow_right (by decide)
  have exponent : k ≤ 2046 := by omega
  calc units rank = m * 2 ^ k := magnitude
    _ < 2 ^ 53 * 2 ^ k := Nat.mul_lt_mul_of_pos_right (by omega) (Nat.two_pow_pos k)
    _ ≤ 2 ^ 53 * 2 ^ 2046 := Nat.mul_le_mul_left _ (grows 2046 exponent)
    _ = 2 ^ 2099 := by decide +kernel

theorem ofDigits_zeros (k : Nat) (ds : Text) (e : Int) :
    ofDigits (List.replicate k '0' ++ ds) e = ofDigits ds e := by
  have significant : (List.replicate k '0' ++ ds).dropWhile (· = '0') = ds.dropWhile (· = '0') :=
    List.dropWhile_append_of_pos (by simp)
  simp only [ofDigits, significant]

theorem ofDigits_ofNat {n : Nat} (h : 0 < n) (e : Int) :
    ofDigits (Text.ofNat n) e =
      if (Text.ofNat n).length + e < -330 then 0
      else if 310 < (Text.ofNat n).length + e then infinityRank
      else if 0 ≤ e then nearest (n * 10 ^ e.toNat) 1
      else nearest n (10 ^ (-e).toNat) := by
  have significant : (Text.ofNat n).dropWhile (· = '0') = Text.ofNat n := by
    have first := Text.head_ofNat h
    have stops : Scan.Stops (· = '0') (Text.ofNat n) := by
      intro c head
      rw [head] at first
      simpa using first
    exact stops.dropWhile
  have value : (Text.ofNat n).foldl (fun n c => 10 * n + Numeral.digitValue c) 0 = n :=
    Nat.ofDigitChars_ten_toDigits
  simp only [ofDigits, significant, value, Text.ofNat_ne_nil, false_or, tenTo_eq]

theorem ofDigits_ofNat_zero (e : Int) : ofDigits (Text.ofNat 0) e = 0 := by
  simp [ofDigits, Text.ofNat]

theorem ofDigits_shift (n k : Nat) :
    ofDigits (Text.ofNat (n * 10 ^ k)) 0 = ofDigits (Text.ofNat n) k := by
  rcases Nat.eq_zero_or_pos n with rfl | h
  · rw [Nat.zero_mul, ofDigits_ofNat_zero, ofDigits_ofNat_zero]
  · have shifted : 0 < n * 10 ^ k := Nat.mul_pos h (Nat.pow_pos (by decide))
    rw [ofDigits_ofNat shifted, ofDigits_ofNat h, Text.ofNat_mul_pow h]
    simp

theorem ofDigits_expansion {rank : Nat} (h : 0 < rank) (finite : rank < infinityRank) :
    ofDigits (Text.ofNat (units rank * Nat.pow 5 1074)) (-1074) = rank := by
  have five : 0 < Nat.pow 5 1074 := by decide +kernel
  have ten : ∀ k, 0 < 10 ^ k := fun k => Nat.pow_pos (by decide)
  have positive : 0 < units rank * Nat.pow 5 1074 := Nat.mul_pos (units_pos h) five
  have least : 10 ^ 743 ≤ units rank * Nat.pow 5 1074 :=
    calc 10 ^ 743 ≤ Nat.pow 5 1074 := by decide +kernel
      _ ≤ units rank * Nat.pow 5 1074 := Nat.le_mul_of_pos_left _ (units_pos h)
  have most : units rank * Nat.pow 5 1074 < 10 ^ 1384 :=
    calc units rank * Nat.pow 5 1074 < 2 ^ 2099 * Nat.pow 5 1074 :=
          Nat.mul_lt_mul_of_pos_right (units_lt finite) five
      _ ≤ 10 ^ 1384 := by decide +kernel
  have exact : units rank * Nat.pow 5 1074 * unit = units rank * 10 ^ 1074 := by
    have power : Nat.pow 5 1074 * 2 ^ 1074 = 10 ^ 1074 := by decide +kernel
    rw [unit_eq, Nat.mul_assoc, power]
  -- From 744 to 1384 digits, less 1074: neither too small nor too large to be computed.
  generalize units rank * Nat.pow 5 1074 = n at *
  have long : ¬ (Text.ofNat n).length ≤ 743 := by
    rw [Text.length_ofNat_le_iff (by decide)]
    exact Nat.not_lt.2 least
  have short : (Text.ofNat n).length ≤ 1384 := by
    rwa [Text.length_ofNat_le_iff (by decide)]
  rw [ofDigits_ofNat positive, if_neg (by omega), if_neg (by omega), if_neg (by decide),
    show (-(-1074 : Int)).toNat = 1074 from rfl]
  exact nearest_eq (ten 1074) finite.le exact

theorem shortest_cases (rank : Nat) :
    readsBack rank (shortest rank) = true ∨
      shortest rank = (units rank * Nat.pow 5 1074, -1074) := by
  rw [shortest]
  cases found : List.find? (readsBack rank) _ with
  | none => exact .inr (Option.getD_none ..)
  | some d => exact .inl (List.find?_some found)

theorem ofDigits_shortest {rank : Nat} (h : 0 < rank) (finite : rank < infinityRank) :
    ofDigits (Text.ofNat (shortest rank).1) (shortest rank).2 = rank := by
  rcases shortest_cases rank with back | expansion
  · simpa [readsBack] using back
  · rw [expansion]
    exact ofDigits_expansion h finite

section Reading

open Scan

variable {w f : Text}

theorem run_exponent_nil : scanExponent.run [] = none := rfl

theorem run_decimal (nonempty : w ≠ []) (digits : ∀ c ∈ w, c.isDigit = true) :
    scanDecimal.run w = some (ofDigits w 0, []) := by
  have whole : (many Char.isDigit).run w = some (w, []) := by
    simpa using run_many digits (stops_nil Char.isDigit)
  have fraction : (perhaps (do char '.'; many Char.isDigit)).run [] = some (none, []) := rfl
  have exponent := run_perhaps_of_none run_exponent_nil
  simp [scanDecimal, whole, fraction, exponent, nonempty]

theorem run_decimal_point (nonempty : w ≠ []) (whole : ∀ c ∈ w, c.isDigit = true)
    (rest : ∀ c ∈ f, c.isDigit = true) :
    scanDecimal.run (w ++ '.' :: f) = some (ofDigits (w ++ f) (-f.length), []) := by
  have before : (many Char.isDigit).run (w ++ '.' :: f) = some (w, '.' :: f) :=
    run_many whole (stops_cons (by decide) f)
  have after : (many Char.isDigit).run f = some (f, []) := by
    simpa using run_many rest (stops_nil Char.isDigit)
  have fraction : (perhaps (do char '.'; many Char.isDigit)).run ('.' :: f) = some (some f, []) :=
    run_perhaps_of_some (by simp [run_char_cons, after])
  have exponent := run_perhaps_of_none run_exponent_nil
  simp [scanDecimal, before, fraction, exponent, nonempty]

theorem asciiLower_ne {c : Char} (digit : c.isDigit = true) (r : Text) {d : Char}
    (letter : d.isAlpha = true) (w : Text) : Text.asciiLower (c :: r) ≠ d :: w := by
  intro eq
  rw [Text.asciiLower, List.map_cons, Text.toLower_of_isDigit digit, List.cons.injEq] at eq
  rw [← eq.1, Text.not_isAlpha_of_isDigit digit] at letter
  contradiction

theorem read?_of_run_decimal {c : Char} {r : Text} {rank : Nat} (digit : c.isDigit = true)
    (decimal : scanDecimal.run (c :: r) = some (rank, [])) :
    read? (c :: r) = some (number false rank) := by
  have unsigned : c ≠ '-' ∧ c ≠ '+' := by
    constructor <;> rintro rfl <;> contradiction
  have sign : scanSign.run (c :: r) = some (false, c :: r) := by
    have missing : (satisfy fun c => c = '-' || c = '+').run (c :: r) = none :=
      run_satisfy_of_stops (stops_cons (by simp [unsigned]) r)
    simp [scanSign, run_perhaps_of_none missing]
  have nan : Text.asciiLower (c :: r) ≠ "nan".toList := asciiLower_ne digit r (by decide) _
  have inf : Text.asciiLower (c :: r) ≠ "inf".toList := asciiLower_ne digit r (by decide) _
  have infinity : Text.asciiLower (c :: r) ≠ "infinity".toList :=
    asciiLower_ne digit r (by decide) _
  unfold read?
  rw [sign, Option.bind_eq_bind, Option.bind_some]
  simp only
  rw [if_neg nan, if_neg (not_or.2 ⟨inf, infinity⟩), decimal]
  rfl

theorem positional_cases (n : Nat) (e : Int) :
    (∀ c ∈ positional n e, c.isDigit = true) ∧ positional n e ≠ [] ∧
        ofDigits (positional n e) 0 = ofDigits (Text.ofNat n) e ∨
      ∃ w f, positional n e = w ++ '.' :: f ∧ w ≠ [] ∧ (∀ c ∈ w ++ f, c.isDigit = true) ∧
        ofDigits (w ++ f) (-f.length) = ofDigits (Text.ofNat n) e := by
  unfold positional
  split
  · next whole =>
    refine .inl ⟨fun c => Text.isDigit_of_mem_ofNat, Text.ofNat_ne_nil _, ?_⟩
    rw [tenTo_eq, ofDigits_shift, Int.toNat_of_nonneg whole]
  · next negative =>
    have digits := @Text.isDigit_of_mem_padded ((-e).toNat + 1) n
    have long := Text.le_length_padded ((-e).toNat + 1) n
    have same : ofDigits (Text.padded ((-e).toNat + 1) n) e = ofDigits (Text.ofNat n) e := by
      rw [Text.padded_eq, ofDigits_zeros]
    simp only
    generalize Text.padded ((-e).toNat + 1) n = ds at *
    refine .inr ⟨ds.take (ds.length - (-e).toNat), ds.drop (ds.length - (-e).toNat), by simp, ?_⟩
    have places : -((ds.drop (ds.length - (-e).toNat)).length : Int) = e := by
      rw [List.length_drop]
      omega
    rw [List.take_append_drop, places]
    refine ⟨?_, fun c => digits, same⟩
    simp only [ne_eq, List.take_eq_nil_iff, not_or]
    exact ⟨by omega, List.ne_nil_of_length_pos (by omega)⟩

theorem mem_positional {n : Nat} {e : Int} {c : Char} (h : c ∈ positional n e) :
    c.isDigit = true ∨ c = '.' := by
  rcases positional_cases n e with ⟨digits, -, -⟩ | ⟨w, f, parts, -, digits, -⟩
  · exact .inl (digits c h)
  · rw [parts, List.mem_append, List.mem_cons] at h
    rcases h with whole | rfl | rest
    · exact .inl (digits c (List.mem_append_left f whole))
    · exact .inr rfl
    · exact .inl (digits c (List.mem_append_right w rest))

theorem positional_ne_nil (n : Nat) (e : Int) : positional n e ≠ [] := by
  rcases positional_cases n e with ⟨-, nonempty, -⟩ | ⟨w, f, parts, -, -, -⟩
  · exact nonempty
  · simp [parts]

theorem mem_text {g : Binary64} (finite : g.isFinite = true) {c : Char} (h : c ∈ g.text) :
    c.isDigit = true ∨ c = '.' ∨ c = '-' := by
  cases g with
  | nan => contradiction
  | number negative rank =>
    rw [isFinite, decide_eq_true_eq] at finite
    have magnitude : c = '-' ∨ c = '0' ∨ c ∈ positional (shortest rank).1 (shortest rank).2 := by
      simp only [text, if_pos finite] at h
      grind
    rcases magnitude with rfl | rfl | digits
    · simp
    · exact .inl rfl
    · exact (mem_positional digits).imp_right .inl

theorem text_ne_nil {g : Binary64} (finite : g.isFinite = true) : g.text ≠ [] := by
  cases g with
  | nan => contradiction
  | number negative rank =>
    rw [isFinite, decide_eq_true_eq] at finite
    simp only [text, if_pos finite]
    split <;> split <;> simp [positional_ne_nil]

theorem read?_positional (n : Nat) (e : Int) :
    read? (positional n e) = some (number false (ofDigits (Text.ofNat n) e)) := by
  rcases positional_cases n e with ⟨digits, nonempty, same⟩ | ⟨w, f, parts, nonempty, digits, same⟩
  · have decimal := run_decimal nonempty digits
    rw [same] at decimal
    obtain ⟨c, r, front⟩ := List.exists_cons_of_ne_nil nonempty
    rw [front] at decimal digits ⊢
    exact read?_of_run_decimal (digits c (by simp)) decimal
  · have decimal := run_decimal_point nonempty
      (fun c hc => digits c (List.mem_append_left f hc))
      (fun c hc => digits c (List.mem_append_right w hc))
    rw [same, ← parts] at decimal
    obtain ⟨c, r, rfl⟩ := List.exists_cons_of_ne_nil nonempty
    rw [parts] at decimal ⊢
    exact read?_of_run_decimal (digits c (by simp)) decimal

theorem read?_text {g : Binary64} (finite : g.isFinite = true) (h : g.isNonNegative = true) :
    read? g.text = some g := by
  cases g with
  | nan => contradiction
  | number negative rank =>
    rw [isFinite, decide_eq_true_eq] at finite
    by_cases zero : rank = 0
    · subst zero
      cases negative <;> decide
    · -- A negative number that is not less than zero is zero itself.
      have positive : negative = false := by
        cases negative with
        | false => rfl
        | true =>
          simp [isNonNegative, order] at h
          omega
      subst positive
      simp only [text, if_neg zero, if_pos finite]
      rw [if_neg (by decide), read?_positional,
        ofDigits_shortest (Nat.pos_of_ne_zero zero) finite]

end Reading

end Logbook.Binary64
