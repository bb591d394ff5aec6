import Logbook.Proofs.Gaps
import Logbook.Proofs.Rounding

/-! Views of one log with more and with less context. The wider view has all rows of the narrower
one, with the same marks of context. In a log in order of time a row is marked for a gap in the
wider view only if it is in the narrower one, where the row to compare with lies further back; the
first row with a time has none there to be compared with. -/

namespace Logbook.View

variable {entries : List Entry} {f : Filter} {o : Options} {v : View} {i : Nat} {a b : Int}

def InOrder (entries : List Entry) : Prop :=
  (entries.filterMap Entry.millis).Pairwise (· ≤ ·)

def IsFirstTimed (v : View) (entries : List Entry) (r : Row) : Prop :=
  r ∈ v.rows ∧ (r.time entries).isSome ∧ ∀ r' ∈ v.rows, r'.index < r.index → r'.time entries = none

/-- Of the rows with a time from above place `i` of the log, the last one has this time. -/
def LatestTime (v : View) (entries : List Entry) (i : Nat) (ms : Int) : Prop :=
  ∃ r ∈ v.rows, r.index < i ∧ r.time entries = some ms ∧
    ∀ r' ∈ v.rows, r'.index < i → (r'.time entries).isSome → r'.index ≤ r.index

section Places

variable {j k : Nat} {r r' : Row}

theorem getElem?_times (v : View) (entries : List Entry) (k : Nat) :
    (v.times entries)[k]? = v.rows[k]?.map (Row.time entries) := List.getElem?_map ..

theorem index_lt_iff (increasing : v.indices.Pairwise (· < ·)) (first : v.rows[j]? = some r)
    (second : v.rows[k]? = some r') : r.index < r'.index ↔ j < k := by
  have before : ∀ {j k : Nat} {r r' : Row}, v.rows[j]? = some r → v.rows[k]? = some r' → j < k →
      r.index < r'.index := by
    intro j k r r' first second lt
    obtain ⟨hj, rfl⟩ := List.getElem?_eq_some_iff.1 first
    obtain ⟨hk, rfl⟩ := List.getElem?_eq_some_iff.1 second
    exact List.pairwise_iff_getElem.1 (List.pairwise_map.1 increasing) j k hj hk lt
  refine ⟨fun lt => ?_, before first second⟩
  rcases Nat.lt_trichotomy j k with less | rfl | greater
  · exact less
  · cases first.symm.trans second
    exact absurd lt (lt_irrefl _)
  · exact absurd lt (before second first greater).asymm

theorem timeBefore_iff (increasing : v.indices.Pairwise (· < ·)) (row : v.rows[k]? = some r) :
    TimeBefore (v.times entries) k a ↔ LatestTime v entries r.index a := by
  simp only [TimeBefore, getElem?_times, Option.map_eq_some_iff]
  constructor
  · rintro ⟨j, before, ⟨r₀, place, time⟩, between⟩
    refine ⟨r₀, List.mem_of_getElem? place, (index_lt_iff increasing place row).2 before, time,
      fun r' member above timed => ?_⟩
    obtain ⟨j', place'⟩ := List.mem_iff_getElem?.1 member
    have before' := (index_lt_iff increasing place' row).1 above
    by_contra later
    have after := (index_lt_iff increasing place place').1 (Nat.not_le.1 later)
    have untimed := between j' after before' _ ⟨r', place', rfl⟩
    simp [untimed] at timed
  · rintro ⟨r₀, member, above, time, latest⟩
    obtain ⟨j, place⟩ := List.mem_iff_getElem?.1 member
    refine ⟨j, (index_lt_iff increasing place row).1 above, ⟨r₀, place, time⟩, ?_⟩
    rintro j' after before' _ ⟨r', place', rfl⟩
    by_contra timed
    have le := latest r' (List.mem_of_getElem? place')
      ((index_lt_iff increasing place' row).2 before') (Option.isSome_iff_ne_none.2 timed)
    exact absurd ((index_lt_iff increasing place place').2 after) (Nat.not_lt.2 le)

theorem exists_timeBefore {times : List (Option Int)} (before : j < k)
    (found : times[j]? = some (some a)) : ∃ ms, TimeBefore times k ms := by
  induction k with
  | zero => contradiction
  | succ k ih =>
    cases here : times[k]?.join with
    | some ms => exact ⟨ms, timeBefore_succ.2 (.inl (Option.join_eq_some_iff.1 here))⟩
    | none =>
      have untimed : ∀ time, times[k]? = some time → time = none := by
        rintro time place
        rwa [place] at here
      have lt : j < k := by
        refine Nat.lt_of_le_of_ne (Nat.le_of_lt_succ before) ?_
        rintro rfl
        exact absurd (untimed _ found) (by simp)
      obtain ⟨ms, latest⟩ := ih lt
      exact ⟨ms, timeBefore_succ.2 (.inr ⟨untimed, latest⟩)⟩

end Places

theorem exists_latestTime (increasing : v.indices.Pairwise (· < ·)) {r : Row} (member : r ∈ v.rows)
    (timed : (r.time entries).isSome) (later : ¬ IsFirstTimed v entries r) :
    ∃ ms, LatestTime v entries r.index ms := by
  obtain ⟨r', member', above, found⟩ : ∃ r' ∈ v.rows, r'.index < r.index ∧
      r'.time entries ≠ none := by
    simpa [IsFirstTimed, member, timed] using later
  obtain ⟨k, place⟩ := List.mem_iff_getElem?.1 member
  obtain ⟨j, place'⟩ := List.mem_iff_getElem?.1 member'
  obtain ⟨ms, time⟩ := Option.ne_none_iff_exists'.1 found
  have time_at : (v.times entries)[j]? = some (some ms) := by
    rw [getElem?_times, place', Option.map_some, time]
  obtain ⟨ms, latest⟩ := exists_timeBefore ((index_lt_iff increasing place' place).1 above) time_at
  exact ⟨ms, (timeBefore_iff increasing place).1 latest⟩

theorem InOrder.time_le (ordered : InOrder entries) {r r' : Row} (le : r.index ≤ r'.index)
    (time : r.time entries = some a) (time' : r'.time entries = some b) : a ≤ b := by
  obtain ⟨e, entry, time⟩ := Option.bind_eq_some_iff.1 time
  obtain ⟨e', entry', time'⟩ := Option.bind_eq_some_iff.1 time'
  rcases Nat.lt_or_eq_of_le le with lt | same
  · obtain ⟨inside, rfl⟩ := List.getElem?_eq_some_iff.1 entry
    obtain ⟨inside', rfl⟩ := List.getElem?_eq_some_iff.1 entry'
    exact List.pairwise_iff_getElem.1 (List.pairwise_filterMap.1 ordered) _ _ inside inside' lt
      a time b time'
  · rw [same, entry'] at entry
    cases entry
    exact (Option.some.inj (time.symm.trans time')).le

theorem LatestTime.le {wide : View} (ordered : InOrder entries)
    (all : ∀ r ∈ v.rows, ∃ r' ∈ wide.rows, r'.index = r.index)
    (narrower : LatestTime v entries i a) (wider : LatestTime wide entries i b) : a ≤ b := by
  obtain ⟨r, member, above, time, -⟩ := narrower
  obtain ⟨r₀, -, -, time₀, latest⟩ := wider
  obtain ⟨r', member', same⟩ := all r member
  have time' : r'.time entries = some a := by rwa [Row.time, same]
  have le := latest r' member' (same ▸ above) (by rw [time']; rfl)
  exact ordered.time_le le time' time₀

theorem afterGap_iff_latest [Regex.Engine] {gap : Binary64} (given : f.gap = some gap) {r : Row}
    (member : r ∈ (evaluate entries f o).rows) :
    r.afterGap = true ↔
      ∃ earlier later, r.time entries = some later ∧
        LatestTime (evaluate entries f o) entries r.index earlier ∧
        exceeds gap earlier later = true := by
  obtain ⟨k, place⟩ := List.mem_iff_getElem?.1 member
  simp only [afterGap_iff given place, timeBefore_iff indices_increasing place]

section Widths

variable [Regex.Engine] {n₁ n₂ : Nat}

theorem Near.mono (h : n₁ ≤ n₂) (near : Near entries f { o with context := n₁ } i) :
    Near entries f { o with context := n₂ } i := by
  obtain ⟨j, e, entry, pass, distance⟩ := near
  have same : passes f { o with context := n₂ } e = passes f { o with context := n₁ } e := rfl
  have pass' : Passes f { o with context := n₂ } e := passes_iff.1 (same.trans (passes_iff.2 pass))
  exact ⟨j, e, entry, pass', distance.trans (Int.ofNat_le.2 h)⟩

theorem exists_row_of_wider (h : n₁ ≤ n₂) {r : Row}
    (member : r ∈ (evaluate entries f { o with context := n₁ }).rows) :
    ∃ r' ∈ (evaluate entries f { o with context := n₂ }).rows,
      r'.index = r.index ∧ r'.isContext = r.isContext := by
  obtain ⟨e, entry, flag, near⟩ := mem_flags.1 (List.mem_map_of_mem member)
  have shown_too : (r.index, r.isContext) ∈ (evaluate entries f { o with context := n₂ }).rows.map
      fun r => (r.index, r.isContext) := mem_flags.2 ⟨e, entry, flag, near.mono h⟩
  obtain ⟨r', member', same⟩ := List.mem_map.1 shown_too
  obtain ⟨place, context⟩ := Prod.mk.inj same
  exact ⟨r', member', place, context⟩

end Widths

/-- With more context every row stays as it is, and as many entries match. In a log in order of
time more context can only explain a gap away, except above the first row with a time. -/
theorem context_widened [Regex.Engine] (entries : List Entry) (f : Filter) (o : Options)
    {n₁ n₂ : Nat} (h : n₁ ≤ n₂) :
    let narrow := evaluate entries f { o with context := n₁ }
    let wide := evaluate entries f { o with context := n₂ }
    (∀ r ∈ narrow.rows, ∃ r' ∈ wide.rows, r'.index = r.index ∧ r'.isContext = r.isContext) ∧
    wide.matchCount = narrow.matchCount ∧
    (InOrder entries → ∀ r ∈ narrow.rows, ∀ r' ∈ wide.rows, r'.index = r.index →
      ¬ IsFirstTimed narrow entries r → r'.afterGap = true → r.afterGap = true) := by
  intro narrow wide
  refine ⟨fun r => exists_row_of_wider h, ?_, ?_⟩
  · rw [matchCount_eq, matchCount_eq]
    rfl
  · intro ordered r member r' member' same later marked
    cases given : f.gap with
    | none =>
      rw [afterGap_of_none given member'] at marked
      contradiction
    | some gap =>
      obtain ⟨earlier', ms, time, latest', long⟩ :=
        (afterGap_iff_latest given member').1 marked
      rw [Row.time, same] at time
      rw [same] at latest'
      have timed : (r.time entries).isSome := by rw [Row.time, time]; rfl
      obtain ⟨earlier, latest⟩ := exists_latestTime indices_increasing member timed later
      have le : earlier ≤ earlier' := latest.le ordered
        (fun r hr => (exists_row_of_wider h hr).imp fun _ found => ⟨found.1, found.2.1⟩) latest'
      refine (afterGap_iff_latest given member).2 ⟨earlier, ms, time, latest, ?_⟩
      exact Binary64.gt_ofInt_mono (by omega) long

theorem context_widened_retries :
    let _ : Regex.Engine := .upTo 1000
    let log := "2024-01-01 10:00:00 boot\n2024-01-01 10:00:10 link down\n".toList ++
      "2024-01-01 10:00:20 retry\n2024-01-01 10:00:30 link down\n".toList ++
      "2024-01-01 10:00:34 retry\n2024-01-01 10:00:38 link down".toList
    let entries := assemble (Source.ofText log).lines
    let f := Filter.read "down||#gap=5".toList
    let narrow := evaluate entries f { context := 0 }
    let wide := evaluate entries f { context := 1 }
    InOrder entries ∧
    narrow.rows = [⟨1, false, false⟩, ⟨3, false, true⟩, ⟨5, false, true⟩] ∧
    wide.rows = [⟨0, true, false⟩, ⟨1, false, true⟩, ⟨2, true, true⟩, ⟨3, false, true⟩,
      ⟨4, true, false⟩, ⟨5, false, false⟩] ∧
    (∃ r' ∈ wide.rows, r'.index = 5 ∧ r'.isContext = false) ∧
    wide.matchCount = narrow.matchCount ∧
    IsFirstTimed narrow entries ⟨1, false, false⟩ ∧
    ¬ IsFirstTimed narrow entries ⟨3, false, true⟩ ∧
    (⟨3, false, true⟩ : Row).afterGap = true := by
  intro _ log entries f narrow wide
  have ordered : InOrder entries := by
    have times : entries.filterMap Entry.millis = [1704103200000, 1704103210000, 1704103220000,
        1704103230000, 1704103234000, 1704103238000] := by decide +kernel
    rw [InOrder, times]
    decide
  have narrow_rows : narrow.rows = [⟨1, false, false⟩, ⟨3, false, true⟩, ⟨5, false, true⟩] := by
    simp only [narrow, evaluate, mapInHalves_eq_map]
    decide +kernel
  have wide_rows : wide.rows = [⟨0, true, false⟩, ⟨1, false, true⟩, ⟨2, true, true⟩,
      ⟨3, false, true⟩, ⟨4, true, false⟩, ⟨5, false, false⟩] := by
    simp only [wide, evaluate, mapInHalves_eq_map]
    decide +kernel
  have first : IsFirstTimed narrow entries ⟨1, false, false⟩ := by
    rw [IsFirstTimed, narrow_rows]
    exact ⟨by simp, by decide +kernel, by simp⟩
  have later : ¬ IsFirstTimed narrow entries ⟨3, false, true⟩ := by
    rintro ⟨-, -, none_above⟩
    have untimed := none_above ⟨1, false, false⟩ (by simp [narrow_rows]) (by decide)
    exact absurd first.2.1 (by simp [untimed])
  have third : ⟨3, false, true⟩ ∈ narrow.rows := by simp [narrow_rows]
  have third' : ⟨3, false, true⟩ ∈ wide.rows := by simp [wide_rows]
  have last : ⟨5, false, true⟩ ∈ narrow.rows := by simp [narrow_rows]
  obtain ⟨stay, count, explained⟩ := context_widened entries f {} (Nat.zero_le 1)
  exact ⟨ordered, narrow_rows, wide_rows, stay _ last, count, first, later,
    explained ordered _ third _ third' rfl later rfl⟩

end Logbook.View
