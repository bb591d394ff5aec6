import Logbook.Proofs.Chronology

/-! Days counted one by one. The number of a day is that of the steps from the first day of 1970
to it, each to the day after, and negative where the steps lead from it to there. -/

namespace Logbook.Calendar

theorem daysInMonth_pos (year : Int) (month : Nat) : 1 ≤ daysInMonth year month := by
  unfold daysInMonth
  split
  · split <;> decide
  all_goals decide

namespace Date

def IsNext (d d' : Date) : Prop :=
  d'.year = d.year ∧ d'.month = d.month ∧ d'.day = d.day + 1 ∨
  d.day = daysInMonth d.year d.month ∧
    (d'.year = d.year ∧ d'.month = d.month + 1 ∧ d'.day = 1 ∨
      d.month = 12 ∧ d'.year = d.year + 1 ∧ d'.month = 1 ∧ d'.day = 1)

inductive Steps : Nat → Date → Date → Prop
  | same (d : Date) : Steps 0 d d
  | next {n : Nat} {d d' d'' : Date} (one : d.IsNext d') (rest : Steps n d' d'') :
      Steps (n + 1) d d''

def IsDay (d : Date) (n : Int) : Prop :=
  ∃ k : Nat, n = k ∧ Steps k epoch d ∨ n = -k ∧ Steps k d epoch

theorem absoluteDay_of_last {d : Date} (last : d.day = daysInMonth d.year d.month)
    (december : d.month = 12) : d.absoluteDay + 1 = daysBeforeYear (d.year + 1) := by
  have whole := daysBeforeMonth_succ d.year d.month_pos
  rw [december, daysBeforeMonth_thirteen] at whole
  rw [december] at last
  rw [absoluteDay, december, daysBeforeYear_succ]
  omega

theorem IsNext.epochDay_eq {d d' : Date} (h : d.IsNext d') : d'.epochDay = d.epochDay + 1 := by
  have one : d'.absoluteDay = d.absoluteDay + 1 := by
    rcases h with ⟨year, month, day⟩ | ⟨last, ⟨year, month, day⟩ | ⟨december, year, month, day⟩⟩
    · rw [absoluteDay, absoluteDay, year, month]
      omega
    · rw [absoluteDay, absoluteDay, year, month, day, daysBeforeMonth_succ d.year d.month_pos]
      omega
    · rw [absoluteDay_of_last last december, absoluteDay, year, month, day, daysBeforeMonth]
      simp
  rw [epochDay, epochDay, one]
  omega

theorem Steps.epochDay_eq {n : Nat} {d d' : Date} (h : Steps n d d') :
    d'.epochDay = d.epochDay + n := by
  induction h with
  | same d => simp
  | next one _ ih =>
    rw [ih, one.epochDay_eq]
    omega

theorem eq_of_epochDay {d d' : Date} (h : d.epochDay = d'.epochDay) : d = d' := by
  have same := compare_epochDay d d'
  rw [h, compare_eq_iff_eq.2 rfl] at same
  simp only [eq_comm (a := Ordering.eq), Ordering.then_eq_eq, compare_eq_iff_eq] at same
  obtain ⟨year, month, day⟩ := same
  cases d
  cases d'
  simp_all

/-- On the last day of a year it takes a later day to show that the calendar goes on. -/
theorem exists_next {d d' : Date} (h : d.epochDay < d'.epochDay) : ∃ e, d.IsNext e := by
  by_cases day : d.day < daysInMonth d.year d.month
  · exact ⟨⟨d.year, d.month, d.day + 1, d.year_ge, d.year_le, d.month_pos, d.month_le, by omega,
      day⟩, .inl ⟨rfl, rfl, rfl⟩⟩
  have last : d.day = daysInMonth d.year d.month := le_antisymm d.day_le (not_lt.1 day)
  by_cases month : d.month < 12
  · exact ⟨⟨d.year, d.month + 1, 1, d.year_ge, d.year_le, by omega, month, le_rfl,
      daysInMonth_pos _ _⟩, .inr ⟨last, .inl ⟨rfl, rfl, rfl⟩⟩⟩
  have december : d.month = 12 := le_antisymm d.month_le (not_lt.1 month)
  have year : d.year + 1 ≤ maxYear := by
    by_contra beyond
    have within := d'.year_le
    have no_later : daysBeforeYear (d'.year + 1) ≤ daysBeforeYear (d.year + 1) :=
      daysBeforeYear_mono (by omega)
    have before := d'.absoluteDay_lt
    have whole := absoluteDay_of_last last december
    unfold epochDay at h
    omega
  exact ⟨⟨d.year + 1, 1, 1, by have := d.year_ge; omega, year, le_rfl, by decide, le_rfl,
    daysInMonth_pos _ _⟩, .inr ⟨last, .inr ⟨december, rfl, rfl, rfl⟩⟩⟩

theorem steps_of_epochDay {n : Nat} {d d' : Date} (h : d'.epochDay = d.epochDay + n) :
    Steps n d d' := by
  induction n generalizing d with
  | zero =>
    have same : d.epochDay = d'.epochDay := by omega
    obtain rfl := eq_of_epochDay same
    exact .same d
  | succ n ih =>
    have later : d.epochDay < d'.epochDay := by omega
    obtain ⟨e, next⟩ := exists_next later
    exact .next next (ih (by rw [next.epochDay_eq]; omega))

theorem epochDay_epoch : epoch.epochDay = 0 := Int.sub_self _

theorem isDay_iff {d : Date} {n : Int} : d.IsDay n ↔ n = d.epochDay := by
  constructor
  · rintro ⟨k, ⟨rfl, steps⟩ | ⟨rfl, steps⟩⟩
    · have count := steps.epochDay_eq
      rw [epochDay_epoch] at count
      omega
    · have count := steps.epochDay_eq
      rw [epochDay_epoch] at count
      omega
  · rintro rfl
    rcases le_total 0 d.epochDay with after | before
    · refine ⟨d.epochDay.toNat, .inl ⟨by omega, steps_of_epochDay ?_⟩⟩
      rw [epochDay_epoch]
      omega
    · refine ⟨(-d.epochDay).toNat, .inr ⟨by omega, steps_of_epochDay ?_⟩⟩
      rw [epochDay_epoch]
      omega

end Date
end Logbook.Calendar
