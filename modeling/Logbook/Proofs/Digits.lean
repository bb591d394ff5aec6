import Mathlib
import Logbook.Text.Fold
import Logbook.Text.Numeral

/-! Decimal digits. Those of any script are neither blanks nor letters with a case; those of ASCII
write a number so that it reads back as itself, within its limit. -/

namespace Logbook

namespace Text

theorem ascii_isDigit_iff {c : Char} : c.isDigit = true ↔ 48 ≤ c.toNat ∧ c.toNat ≤ 57 := by
  simp [Char.isDigit, UInt32.le_iff_toNat_le]

theorem isDigit_block {c : Char} (h : isDigit c = true) :
    c.isDigit = true ∨ 0x80 ≤ c.toNat ∧ ∃ z ∈ digitZeros, z ≤ c.toNat ∧ c.toNat < z + 10 := by
  unfold isDigit at h
  split at h
  · exact .inl h
  · next large => exact .inr ⟨Nat.not_lt.1 large, by simpa using h⟩

theorem not_isBlank_of_isDigit {c : Char} (h : isDigit c = true) : isBlank c = false := by
  have apart : ∀ z ∈ 0x30 :: digitZeros, ∀ r ∈ blankRanges, z + 10 ≤ r.1 ∨ r.2 < z := by decide
  obtain ⟨z, hz, first, last⟩ : ∃ z ∈ 0x30 :: digitZeros, z ≤ c.toNat ∧ c.toNat < z + 10 := by
    rcases isDigit_block h with ascii | ⟨-, z, hz, bounds⟩
    · rw [ascii_isDigit_iff] at ascii
      exact ⟨0x30, by simp, by omega, by omega⟩
    · exact ⟨z, by simp [hz], bounds⟩
  rw [isBlank, CodeRanges.has, List.any_eq_false]
  intro r hr inside
  have := apart z hz r hr
  simp only [Bool.and_eq_true, decide_eq_true_eq] at inside
  omega

theorem toLower_of_isDigit {c : Char} (h : c.isDigit = true) : c.toLower = c := by
  rw [ascii_isDigit_iff] at h
  have small : ¬ (c.val ≥ ('A' : Char).val ∧ c.val ≤ ('Z' : Char).val) := by
    simp only [ge_iff_le, UInt32.le_iff_toNat_le, not_and_or, Nat.not_le]
    exact .inl (Nat.lt_of_le_of_lt h.2 (by decide))
  rw [Char.toLower, dif_neg small]

theorem foldChar_of_isDigit {c : Char} (h : isDigit c = true) : foldChar c = c := by
  have apart : ∀ z ∈ digitZeros, ∀ r ∈ foldRuns, z + 10 ≤ r.first ∨ r.last < z := by decide +kernel
  rcases isDigit_block h with ascii | ⟨large, z, hz, first, last⟩
  · have small : c.toNat < 0x80 := by
      rw [ascii_isDigit_iff] at ascii
      omega
    rw [foldChar, if_pos small, toLower_of_isDigit ascii]
  · have missing : foldRuns.find? (·.has c) = none := by
      rw [List.find?_eq_none]
      intro r hr inside
      have := apart z hz r hr
      simp only [CaseRun.has, Bool.and_eq_true, decide_eq_true_eq] at inside
      omega
    rw [foldChar, if_neg (Nat.not_lt.2 large), CaseRun.map, missing]

theorem not_isAlpha_of_isDigit {c : Char} (h : c.isDigit = true) : c.isAlpha = false := by
  rw [ascii_isDigit_iff] at h
  simp [Char.isAlpha, Char.isUpper, Char.isLower, UInt32.le_iff_toNat_le]
  omega

theorem isDigit_of_mem_ofNat {n : Nat} {c : Char} (h : c ∈ ofNat n) : c.isDigit = true :=
  Nat.isDigit_of_mem_toDigits (by decide) (by decide) h

theorem ofNat_ne_nil (n : Nat) : ofNat n ≠ [] := Nat.toDigits_ne_nil

theorem length_ofNat_le_iff {n k : Nat} (h : 0 < k) : (ofNat n).length ≤ k ↔ n < 10 ^ k :=
  Nat.length_toDigits_le_iff (by decide) h

theorem ofNat_ten_mul {n : Nat} (h : 0 < n) : ofNat (10 * n) = ofNat n ++ ['0'] := by
  rw [ofNat, ← Nat.add_zero (10 * n), ← Nat.toDigits_append_toDigits (by decide) h (by decide),
    Nat.toDigits_zero, ofNat]

theorem ofNat_mul_pow {n : Nat} (h : 0 < n) (k : Nat) :
    ofNat (n * 10 ^ k) = ofNat n ++ List.replicate k '0' := by
  induction k with
  | zero => simp
  | succ k ih =>
    have shift : n * 10 ^ (k + 1) = 10 * (n * 10 ^ k) := by
      rw [Nat.pow_succ, Nat.mul_comm 10, Nat.mul_assoc]
    have positive : 0 < n * 10 ^ k := Nat.mul_pos h (Nat.pow_pos (by decide))
    rw [shift, ofNat_ten_mul positive, ih, List.append_assoc, List.replicate_succ']

theorem head_ofNat {n : Nat} (h : 0 < n) : (ofNat n).head? ≠ some '0' := by
  induction n using Nat.strongRecOn with
  | ind n ih =>
    rw [ofNat, Nat.toDigits_eq_if (by decide)]
    split
    · simp
      omega
    · have first := ih (n / 10) (by omega) (by omega)
      rw [List.head?_append_of_ne_nil _ Nat.toDigits_ne_nil]
      exact first

theorem padded_eq (width n : Nat) :
    padded width n = List.replicate (width - (ofNat n).length) '0' ++ ofNat n := rfl

theorem isDigit_of_mem_padded {width n : Nat} {c : Char} (h : c ∈ padded width n) :
    c.isDigit = true := by
  rw [padded_eq, List.mem_append, List.mem_replicate] at h
  rcases h with ⟨-, rfl⟩ | h
  · rfl
  · exact isDigit_of_mem_ofNat h

theorem le_length_padded (width n : Nat) : width ≤ (padded width n).length := by
  rw [padded_eq, List.length_append, List.length_replicate]
  omega

theorem length_padded {width n : Nat} (positive : 0 < width) (h : n < 10 ^ width) :
    (padded width n).length = width := by
  have short := (length_ofNat_le_iff positive).2 h
  rw [padded_eq, List.length_append, List.length_replicate]
  omega

end Text

namespace Numeral

theorem le_ofDigitChars (t : Text) (n : Nat) : n ≤ Nat.ofDigitChars 10 t n := by
  rw [Nat.ofDigitChars_eq_ofDigitChars_zero]
  have scaled : n ≤ 10 ^ t.length * n := Nat.le_mul_of_pos_left n (Nat.pow_pos (by decide))
  omega

theorem readDigits_eq_ok {limit n : Nat} {t : Text} (digits : ∀ c ∈ t, c.isDigit = true)
    (small : Nat.ofDigitChars 10 t n ≤ limit) :
    readDigits limit n t = .ok (Nat.ofDigitChars 10 t n) := by
  induction t generalizing n with
  | nil => rfl
  | cons c r ih =>
    have value : Nat.ofDigitChars 10 (c :: r) n = Nat.ofDigitChars 10 r (10 * n + digitValue c) :=
      Nat.ofDigitChars_cons
    rw [value] at small ⊢
    have bounded : ¬ limit < 10 * n + digitValue c := by
      have := le_ofDigitChars r (10 * n + digitValue c)
      omega
    rw [readDigits, if_neg (by simp [digits c (by simp)]), if_neg bounded]
    exact ih (fun d hd => digits d (by simp [hd])) small

theorem ofDigitChars_of_readDigits {limit m n : Nat} {t : Text} (h : readDigits limit m t = .ok n) :
    (∀ c ∈ t, c.isDigit = true) ∧ Nat.ofDigitChars 10 t m = n := by
  induction t generalizing m with
  | nil =>
    cases h
    simp
  | cons c r ih =>
    rw [readDigits] at h
    split at h
    · contradiction
    · next digit =>
      split at h
      · contradiction
      · obtain ⟨digits, value⟩ := ih h
        exact ⟨List.forall_mem_cons.2 ⟨by simpa using digit, digits⟩, value⟩

theorem readDigits_le {limit n m : Nat} {t : Text} (start : n ≤ limit)
    (h : readDigits limit n t = .ok m) : m ≤ limit := by
  induction t generalizing n with
  | nil =>
    cases h
    exact start
  | cons c r ih =>
    rw [readDigits] at h
    split at h
    · contradiction
    · split at h
      · contradiction
      · next small => exact ih (Nat.not_lt.1 small) h

theorem read_of_read? {limit n : Nat} {t : Text} (h : read? limit t = some n) :
    read limit t = .ok n := by
  unfold read? at h
  cases result : read limit t with
  | error fault =>
    rw [result] at h
    contradiction
  | ok m =>
    rw [result] at h
    cases h
    rfl

theorem le_of_read? {limit n : Nat} {t : Text} (h : read? limit t = some n) : n ≤ limit := by
  have ok := read_of_read? h
  unfold read at ok
  split at ok
  · contradiction
  · contradiction
  · exact readDigits_le (Nat.zero_le limit) ok
  · exact readDigits_le (Nat.zero_le limit) ok

theorem read?_eq_some {limit : Nat} {t : Text} (nonempty : t ≠ [])
    (digits : ∀ c ∈ t, c.isDigit = true) (small : Nat.ofDigitChars 10 t 0 ≤ limit) :
    read? limit t = some (Nat.ofDigitChars 10 t 0) := by
  have no_sign : '+' ∉ t := fun h => absurd (digits '+' h) (by decide)
  unfold read? read
  split
  · next empty => exact absurd rfl nonempty
  · next sign => simp at no_sign
  · next sign => simp at no_sign
  · rw [readDigits_eq_ok digits small]
    rfl

/-- Only digits of ASCII are read as a number, unless a sign is in front of them. -/
theorem digits_of_read? {limit n : Nat} {t : Text} (unsigned : '+' ∉ t)
    (h : read? limit t = some n) :
    (∀ c ∈ t, c.isDigit = true) ∧ Nat.ofDigitChars 10 t 0 = n := by
  have ok := read_of_read? h
  unfold read at ok
  split at ok
  · contradiction
  · contradiction
  · simp at unsigned
  · exact ofDigitChars_of_readDigits ok

theorem read?_eq_ite {limit : Nat} {t : Text} (nonempty : t ≠ [])
    (digits : ∀ c ∈ t, c.isDigit = true) :
    read? limit t =
      if Nat.ofDigitChars 10 t 0 ≤ limit then some (Nat.ofDigitChars 10 t 0) else none := by
  split
  · next small => exact read?_eq_some nonempty digits small
  · next large =>
    by_contra found
    obtain ⟨n, number⟩ := Option.ne_none_iff_exists'.1 found
    have unsigned : '+' ∉ t := fun h => absurd (digits '+' h) (by decide)
    rw [(digits_of_read? unsigned number).2] at large
    exact large (le_of_read? number)

theorem read?_padded {limit n : Nat} (h : n ≤ limit) (width : Nat) :
    read? limit (Text.padded width n) = some n := by
  have value : Nat.ofDigitChars 10 (Text.padded width n) 0 = n := by
    rw [Text.padded_eq, Nat.ofDigitChars_append, Nat.ofDigitChars_replicate_zero, Nat.mul_zero]
    exact Nat.ofDigitChars_ten_toDigits
  have nonempty : Text.padded width n ≠ [] := by
    rw [Text.padded_eq]
    exact List.append_ne_nil_of_right_ne_nil _ (Text.ofNat_ne_nil n)
  rw [read?_eq_some nonempty (fun c => Text.isDigit_of_mem_padded) (by rwa [value]), value]

theorem read?_ofNat {limit n : Nat} (h : n ≤ limit) : read? limit (Text.ofNat n) = some n := by
  simpa [Text.padded_eq] using read?_padded h 0

theorem lt_of_readDigits {limit m n : Nat} {t : Text} (h : readDigits limit m t = .ok n) :
    n < (m + 1) * 10 ^ t.length := by
  induction t generalizing m with
  | nil =>
    cases h
    simp
  | cons c r ih =>
    rw [readDigits] at h
    split at h
    · contradiction
    · next digit =>
      split at h
      · contradiction
      · have bound := ih h
        have value : digitValue c ≤ 9 := by
          have code := Text.ascii_isDigit_iff.1 (by simpa using digit)
          simp only [digitValue]
          have zero : '0'.toNat = 48 := rfl
          omega
        calc n < (10 * m + digitValue c + 1) * 10 ^ r.length := bound
          _ ≤ (10 * (m + 1)) * 10 ^ r.length := Nat.mul_le_mul_right _ (by omega)
          _ = (m + 1) * 10 ^ (c :: r).length := by
            rw [List.length_cons, Nat.pow_succ', Nat.mul_comm 10, Nat.mul_assoc]

theorem lt_of_read? {limit n : Nat} {t : Text} (h : read? limit t = some n) :
    n < 10 ^ t.length := by
  have ok := read_of_read? h
  unfold read at ok
  split at ok
  · contradiction
  · contradiction
  · next r =>
    have bound := lt_of_readDigits ok
    rw [List.length_cons, Nat.pow_succ']
    omega
  · simpa using lt_of_readDigits ok

end Numeral
end Logbook
