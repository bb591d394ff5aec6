import Mathlib.Data.Nat.Log
import Logbook.Proofs.Decimal

/-! Rounding keeps the order of numbers, within a group of magnitudes with equal steps and from one
group to the next. So a larger whole number exceeds whatever a smaller one does. -/

namespace Logbook.Binary64

section RoundHalfEven

variable {m n den : Nat}

theorem roundHalfEven_bounds (n den : Nat) :
    n / den ≤ roundHalfEven n den ∧ roundHalfEven n den ≤ n / den + 1 := by
  rw [roundHalfEven]
  split
  · omega
  · split <;> omega

theorem roundHalfEven_mono (h : m ≤ n) : roundHalfEven m den ≤ roundHalfEven n den := by
  rcases Nat.lt_or_eq_of_le (Nat.div_le_div_right (c := den) h) with below | same
  · have upper := (roundHalfEven_bounds m den).2
    have lower := (roundHalfEven_bounds n den).1
    omega
  · -- Between the same two whole numbers, what is left over decides.
    have left : m % den ≤ n % den := by
      have split_m := Nat.div_add_mod m den
      have split_n := Nat.div_add_mod n den
      rw [same] at split_m
      omega
    simp only [roundHalfEven, same]
    split_ifs <;> omega

end RoundHalfEven

def stepLog (u den : Nat) : Nat := (u / den).log2 - 52

section Nearest

variable {m n den : Nat}

theorem nearest_eq_stepLog (num den : Nat) :
    nearest num den = min infinityRank (stepLog (num * unit) den * groupSize +
      roundHalfEven (num * unit) (den * 2 ^ stepLog (num * unit) den)) := by
  rw [← Nat.shiftLeft_eq]
  rfl

/-- A fraction has 53 binary digits in its own steps, or fewer in the smallest ones. -/
theorem rounded_bounds (u den : Nat) :
    (0 < stepLog u den → groupSize ≤ roundHalfEven u (den * 2 ^ stepLog u den)) ∧
      roundHalfEven u (den * 2 ^ stepLog u den) ≤ 2 * groupSize := by
  obtain ⟨lower, upper⟩ := roundHalfEven_bounds u (den * 2 ^ stepLog u den)
  rw [← Nat.div_div_eq_div_mul] at lower upper
  rw [groupSize_eq]
  have step : 0 < 2 ^ stepLog u den := Nat.two_pow_pos _
  constructor
  · intro large
    have nonzero : u / den ≠ 0 := by
      intro zero
      simp [stepLog, zero] at large
    have digits : 2 ^ 52 * 2 ^ stepLog u den ≤ u / den := by
      rw [← Nat.pow_add, ← Nat.le_log2 nonzero]
      unfold stepLog at large ⊢
      omega
    exact ((Nat.le_div_iff_mul_le step).2 digits).trans lower
  · have digits : u / den < 2 ^ 53 * 2 ^ stepLog u den := by
      rw [← Nat.pow_add]
      refine Nat.lt_log2_self.trans_le (Nat.pow_le_pow_right (by decide) ?_)
      unfold stepLog
      omega
    have quotient := (Nat.div_lt_iff_lt_mul step).2 digits
    omega

theorem stepLog_mono (den : Nat) (h : m ≤ n) : stepLog m den ≤ stepLog n den := by
  have logs : (m / den).log2 ≤ (n / den).log2 := by
    rw [Nat.log2_eq_log_two, Nat.log2_eq_log_two]
    exact Nat.log_mono_right (Nat.div_le_div_right h)
  exact Nat.sub_le_sub_right logs 52

theorem nearest_mono (h : m ≤ n) : nearest m den ≤ nearest n den := by
  rw [nearest_eq_stepLog, nearest_eq_stepLog]
  have scaled : m * unit ≤ n * unit := Nat.mul_le_mul_right unit h
  generalize m * unit = u at *
  generalize n * unit = v at *
  apply min_le_min_left
  rcases Nat.lt_or_eq_of_le (stepLog_mono den scaled) with coarser | same
  · -- The smaller one ends at most where the next group begins, and the larger one is beyond that.
    have upper := (rounded_bounds u den).2
    have lower := (rounded_bounds v den).1 (by omega)
    have groups : (stepLog u den + 1) * groupSize ≤ stepLog v den * groupSize :=
      Nat.mul_le_mul_right groupSize coarser
    rw [Nat.add_mul] at groups
    omega
  · rw [same]
    exact Nat.add_le_add_left (roundHalfEven_mono scaled) _

end Nearest

section OfInt

variable {i j : Int} {a : Binary64}

theorem order_ofInt (i : Int) :
    (ofInt i).order =
      some (if i < 0 then -(nearest i.natAbs 1 : Int) else nearest i.natAbs 1) := by
  simp [ofInt, order]

theorem order_ofInt_mono (h : i ≤ j) :
    ∃ x y, (ofInt i).order = some x ∧ (ofInt j).order = some y ∧ x ≤ y := by
  refine ⟨_, _, order_ofInt i, order_ofInt j, ?_⟩
  have above : 0 ≤ i → nearest i.natAbs 1 ≤ nearest j.natAbs 1 := fun _ => nearest_mono (by omega)
  have below : j < 0 → nearest j.natAbs 1 ≤ nearest i.natAbs 1 := fun _ => nearest_mono (by omega)
  split_ifs <;> omega

theorem gt_ofInt_mono (h : i ≤ j) (exceeds : (ofInt i).gt a = true) : (ofInt j).gt a = true := by
  obtain ⟨x, y, of_i, of_j, le⟩ := order_ofInt_mono h
  rw [gt, of_i] at exceeds
  rw [gt, of_j]
  cases bound : a.order with
  | none => simp [bound] at exceeds
  | some z =>
    simp only [bound, decide_eq_true_eq] at exceeds ⊢
    omega

end OfInt

end Logbook.Binary64
