import Logbook.Entry.Assembler
import Logbook.Filter.Reader
import Logbook.Proofs.Refilter

/-! Marks of gaps. They show in nothing else of a view. A row is marked when its time is too long
after that of the nearest row above it with a time, whatever rows without one stand in between, and
whatever the view leaves out. -/

namespace Logbook.View

section Times

variable {times : List (Option Int)} {k : Nat} {ms : Int}

def lastTime (previous : Option Int) (times : List (Option Int)) : Option Int :=
  times.foldl (fun before time => time <|> before) previous

theorem getElem?_gapMarks (gap : Binary64) (previous : Option Int) (times : List (Option Int))
    (k : Nat) :
    (gapMarks gap previous times)[k]? = times[k]?.map fun time =>
      time.any fun later => (lastTime previous (times.take k)).any (exceeds gap · later) := by
  induction times generalizing previous k with
  | nil => rfl
  | cons time times ih =>
    cases k with
    | zero => cases time <;> rfl
    | succ k =>
      cases time with
      | none => exact ih previous k
      | some ms => exact ih (some ms) k

/-- The nearest place before `k` that has a time has this one. -/
def TimeBefore (times : List (Option Int)) (k : Nat) (ms : Int) : Prop :=
  ∃ j < k, times[j]? = some (some ms) ∧
    ∀ i, j < i → i < k → ∀ time, times[i]? = some time → time = none

theorem timeBefore_succ :
    TimeBefore times (k + 1) ms ↔
      times[k]? = some (some ms) ∨
        (∀ time, times[k]? = some time → time = none) ∧ TimeBefore times k ms := by
  constructor
  · rintro ⟨j, before, found, between⟩
    rcases Nat.lt_succ_iff_lt_or_eq.1 before with lt | rfl
    · refine .inr ⟨between k lt (Nat.lt_succ_self k), j, lt, found, ?_⟩
      exact fun i after inside => between i after (Nat.lt_succ_of_lt inside)
    · exact .inl found
  · rintro (found | ⟨untimed, j, before, found, between⟩)
    · exact ⟨k, Nat.lt_succ_self k, found, fun i after inside => by omega⟩
    · refine ⟨j, Nat.lt_succ_of_lt before, found, fun i after inside => ?_⟩
      rcases Nat.lt_succ_iff_lt_or_eq.1 inside with lt | rfl
      · exact between i after lt
      · exact untimed

theorem lastTime_take_eq_some_iff :
    lastTime none (times.take k) = some ms ↔ TimeBefore times k ms := by
  induction k with
  | zero => simp [lastTime, TimeBefore]
  | succ k ih =>
    have step : lastTime none (times.take (k + 1)) =
        (times[k]?.join <|> lastTime none (times.take k)) := by
      rw [List.take_add_one, lastTime, List.foldl_append]
      cases times[k]? <;> rfl
    rw [step, timeBefore_succ, ← ih]
    rcases times[k]? with _ | _ | time <;> simp

theorem gapMarks_iff {gap : Binary64} :
    (gapMarks gap none times)[k]? = some true ↔
      ∃ earlier later, times[k]? = some (some later) ∧ TimeBefore times k earlier ∧
        exceeds gap earlier later = true := by
  rw [getElem?_gapMarks]
  simp only [Option.map_eq_some_iff, Option.any_eq_true, lastTime_take_eq_some_iff]
  constructor
  · rintro ⟨_, found, later, rfl, earlier, before, long⟩
    exact ⟨earlier, later, found, before, long⟩
  · rintro ⟨earlier, later, found, before, long⟩
    exact ⟨_, found, later, rfl, earlier, before, long⟩

end Times

def Row.time (entries : List Entry) (r : Row) : Option Int := entries[r.index]?.bind Entry.millis

def times (v : View) (entries : List Entry) : List (Option Int) := v.rows.map (Row.time entries)

section Marks

variable [Regex.Engine] {entries : List Entry} {f : Filter} {o : Options}

theorem times_evaluate :
    (evaluate entries f o).times entries = (kept entries f o).map (·.1.millis) := by
  calc (evaluate entries f o).times entries
      = (evaluate entries f o).indices.map (fun i => entries[i]?.bind Entry.millis) := by
        rw [times, indices, List.map_map]
        rfl
    _ = (kept entries f o).map (fun k => entries[k.2.1]?.bind Entry.millis) := by
        rw [indices_eq, List.map_map]
        rfl
    _ = (kept entries f o).map (·.1.millis) :=
        List.map_congr_left fun k hk => by rw [(mem_kept hk).1, Option.bind_some]

theorem afterGap_evaluate :
    (evaluate entries f o).rows.map Row.afterGap =
      gapFlags f ((evaluate entries f o).times entries) := by
  rw [times_evaluate, rows_eq, List.map_zipWith]
  exact List.ext_getElem (by simp [length_gapFlags]) (by simp)

theorem afterGap_iff {gap : Binary64} (given : f.gap = some gap) {k : Nat} {r : Row}
    (row : (evaluate entries f o).rows[k]? = some r) :
    r.afterGap = true ↔
      ∃ earlier later, r.time entries = some later ∧
        TimeBefore ((evaluate entries f o).times entries) k earlier ∧
        exceeds gap earlier later = true := by
  have flag := congrArg (·[k]?) (@afterGap_evaluate _ entries f o)
  have time : ((evaluate entries f o).times entries)[k]? = some (r.time entries) := by
    rw [times, List.getElem?_map, row, Option.map_some]
  simp only [gapFlags, given, List.getElem?_map, row, Option.map_some] at flag
  rw [← Option.some_inj, flag, gapMarks_iff, time]
  simp only [Option.some.injEq]

theorem afterGap_of_none (absent : f.gap = none) {r : Row}
    (member : r ∈ (evaluate entries f o).rows) : r.afterGap = false := by
  have flags := @afterGap_evaluate _ entries f o
  have flag := List.mem_map_of_mem (f := Row.afterGap) member
  rw [flags, gapFlags, absent] at flag
  obtain ⟨_, -, unmarked⟩ := List.mem_map.1 flag
  exact unmarked.symm

end Marks

/-- Whether and beyond what gaps are marked changes no rows, only their marks. A row is marked just
in case it has a time, some row above it has one, and from the nearest of these to its own time
more passes than the gap allows. -/
theorem gaps_marked [Regex.Engine] (entries : List Entry) (f : Filter) (o : Options) :
    (∀ gap : Option Binary64,
      (evaluate entries { f with gap := gap } o).rows.map (fun r => (r.index, r.isContext)) =
          (evaluate entries f o).rows.map (fun r => (r.index, r.isContext)) ∧
        (evaluate entries { f with gap := gap } o).matchCount =
          (evaluate entries f o).matchCount) ∧
    (f.gap = none → ∀ r ∈ (evaluate entries f o).rows, r.afterGap = false) ∧
    ∀ gap, f.gap = some gap → ∀ k r, (evaluate entries f o).rows[k]? = some r →
      (r.afterGap = true ↔
        ∃ earlier later, r.time entries = some later ∧
          TimeBefore ((evaluate entries f o).times entries) k earlier ∧
          (Binary64.ofInt (later - earlier)).gt (gap.scale 1000) = true) := by
  refine ⟨fun gap => ⟨?_, ?_⟩, fun absent r hr => afterGap_of_none absent hr,
    fun gap given k r row => afterGap_iff given row⟩
  · rw [evaluate_flags, evaluate_flags]
    rfl
  · rw [matchCount_eq, matchCount_eq]
    rfl

theorem gaps_marked_past_untimed :
    let _ : Regex.Engine := .upTo 1000
    let log := "2024-01-01 10:00:00 up\n2024-02-30 10:00:01 lost\n".toList ++
      "2024-01-01 10:00:02 noise\n2024-01-01 10:00:03 down".toList
    let entries := assemble (Source.ofText log).lines
    let f := Filter.read "!noise||#gap=2".toList
    let v := evaluate entries f {}
    v.rows = [⟨0, false, false⟩, ⟨1, false, false⟩, ⟨3, false, true⟩] ∧
    v.times entries = [some 1704103200000, none, some 1704103203000] ∧
    (∃ gap earlier later, f.gap = some gap ∧ Row.time entries ⟨3, false, true⟩ = some later ∧
      TimeBefore (v.times entries) 2 earlier ∧
      (Binary64.ofInt (later - earlier)).gt (gap.scale 1000) = true) ∧
    (∀ r ∈ (evaluate entries { f with gap := none } {}).rows, r.afterGap = false) ∧
    (evaluate entries { f with gap := none } {}).matchCount = v.matchCount := by
  intro _ log entries f v
  have rows : v.rows = [⟨0, false, false⟩, ⟨1, false, false⟩, ⟨3, false, true⟩] := by
    simp only [v, evaluate, mapInHalves_eq_map]
    decide +kernel
  have shown : v.times entries = [some 1704103200000, none, some 1704103203000] := by
    rw [times, rows]
    decide +kernel
  obtain ⟨gap, given⟩ : ∃ gap, f.gap = some gap := Option.isSome_iff_exists.1 (by decide +kernel)
  obtain ⟨others, -, marks⟩ := gaps_marked entries f {}
  obtain ⟨earlier, later, time, before, long⟩ := (marks gap given 2 _ (by rw [rows]; rfl)).1 rfl
  exact ⟨rows, shown, ⟨gap, earlier, later, given, time, before, long⟩,
    (gaps_marked entries { f with gap := none } {}).2.1 rfl, (others none).2⟩

end Logbook.View
