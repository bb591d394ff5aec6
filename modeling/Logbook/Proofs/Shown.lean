import Mathlib.Algebra.Order.Group.Abs
import Mathlib.Algebra.Order.Group.Int
import Mathlib.Data.List.Basic
import Logbook.Proofs.Context

/-! What a view shows, said without the evaluator: which entries pass, which rows their
neighbourhoods give, and how rows are flagged and counted. -/

namespace Logbook

namespace Bound

/-- The bound allows what comes at or after it. A date needs a time to compare with. -/
def AllowsFrom (row : Nat) (millis : Option Int) : Bound → Prop
  | .row n => n ≤ row
  | .date d => ∃ ms, millis = some ms ∧ d.millis ≤ ms

def AllowsUpTo (row : Nat) (millis : Option Int) : Bound → Prop
  | .row n => row ≤ n
  | .date d => ∃ ms, millis = some ms ∧ ms ≤ d.millis

end Bound

theorem RowRange.contains_iff {r : RowRange} {row : Nat} :
    r.contains row = true ↔
      (∀ n, r.first = some n → n ≤ row) ∧ ∀ n, r.last = some n → row ≤ n := by
  simp [RowRange.contains, Option.all_eq_true]

theorem DateRange.contains_iff {r : DateRange} {row : Nat} {millis : Option Int} :
    r.contains row millis = true ↔
      (∀ b, r.first = some b → b.AllowsFrom row millis) ∧
        ∀ b, r.last = some b → b.AllowsUpTo row millis := by
  rw [DateRange.contains, Bool.and_eq_true]
  apply and_congr
  · cases r.first with
    | none => simp
    | some b => cases b <;> simp [Bound.AllowsFrom, Option.any_eq_true]
  · cases r.last with
    | none => simp
    | some b => cases b <;> simp [Bound.AllowsUpTo, Option.any_eq_true]

namespace View

variable {entries : List Entry} {f : Filter} {o : Options} {e : Entry}

theorem levels_iff {level : Option Level} :
    (o.levels.isAll || o.levels.allows level) = true ↔
      match level with
      | some l => l ∈ o.levels.shown
      | none => o.levels.unleveled = true := by
  have all_allows : o.levels.isAll = true → o.levels.allows level = true :=
    fun h => LevelSet.isAll_iff.1 h level
  rw [Bool.or_eq_true, or_iff_right_of_imp all_allows]
  cases level <;> simp [LevelSet.allows]

theorem inTime_iff {millis : Option Int} :
    inTime o millis = true ↔
      (o.timeStart.isSome ∨ o.timeEnd.isSome →
        ∃ ms, millis = some ms ∧ (∀ first, o.timeStart = some first → first ≤ ms) ∧
          ∀ last, o.timeEnd = some last → ms ≤ last) := by
  unfold inTime
  split
  · next unbounded =>
    simp only [Bool.and_eq_true, Option.isNone_iff_eq_none] at unbounded
    simp [unbounded]
  · next bounded =>
    have bounded : o.timeStart.isSome ∨ o.timeEnd.isSome := by
      cases hs : o.timeStart <;> cases he : o.timeEnd <;> simp_all
    simp [bounded, Option.any_eq_true, Option.all_eq_true]

theorem mem_zipIdx_zip {α β γ : Type} {as : List α} {bs : List β} {cs : List γ} {i : Nat} {a : α}
    {b : β} {c : γ} :
    ((a, i), b, c) ∈ as.zipIdx.zip (bs.zip cs) ↔
      as[i]? = some a ∧ bs[i]? = some b ∧ cs[i]? = some c := by
  simp only [List.mem_iff_getElem?, List.getElem?_zip_eq_some, List.getElem?_zipIdx,
    Option.map_eq_some_iff, Prod.mk.injEq, Nat.zero_add]
  constructor
  · rintro ⟨k, ⟨a', ha, rfl, rfl⟩, hb, hc⟩
    exact ⟨ha, hb, hc⟩
  · rintro ⟨ha, hb, hc⟩
    exact ⟨i, ⟨a, ha, rfl, rfl⟩, hb, hc⟩

theorem mem_shown {matched : List Bool} {n i : Nat} {m : Bool} :
    (e, i, m) ∈ shown matched n entries ↔
      entries[i]? = some e ∧ matched[i]? = some m ∧ (withContext n matched)[i]? = some true := by
  rw [shown, List.mem_map]
  constructor
  · rintro ⟨⟨⟨e', i'⟩, m', c⟩, kept, same⟩
    cases same
    obtain ⟨member, reach⟩ := List.mem_filter.1 kept
    obtain ⟨entry, mark, near⟩ := mem_zipIdx_zip.1 member
    exact ⟨entry, mark, near.trans (congrArg some reach)⟩
  · rintro ⟨entry, mark, near⟩
    exact ⟨((e, i), m, true), List.mem_filter.2 ⟨mem_zipIdx_zip.2 ⟨entry, mark, near⟩, rfl⟩, rfl⟩

theorem shown_increasing (matched : List Bool) (n : Nat) (entries : List Entry) :
    ((shown matched n entries).map fun k => k.2.1).Pairwise (· < ·) := by
  have places : (entries.zipIdx.zip (matched.zip (withContext n matched))).Pairwise
      fun p q => p.1.2 < q.1.2 := by
    rw [List.pairwise_iff_getElem]
    intro i j hi hj lt
    simpa using lt
  rw [shown, List.map_map, List.pairwise_map]
  exact places.filter _

theorem count_shown {matched : List Bool} (n : Nat) (same : matched.length = entries.length) :
    (shown matched n entries).countP (fun k => k.2.2) = matched.count true := by
  have marks : (entries.zipIdx.zip (matched.zip (withContext n matched))).map
      (fun p => p.2.1) = matched := by
    show List.map (Prod.fst ∘ Prod.snd) _ = matched
    rw [← List.map_map, List.map_snd_zip, List.map_fst_zip]
    · simp [length_withContext]
    · simp [length_withContext, same]
  -- Counting the matches among the shown is counting the matches that are shown.
  rw [shown, List.countP_map, List.countP_filter, List.count_eq_countP]
  conv => rhs; rw [← marks, List.countP_map]
  apply List.countP_congr
  rintro ⟨⟨e, i⟩, m, c⟩ member
  obtain ⟨-, mark, near⟩ := mem_zipIdx_zip.1 member
  cases m with
  | false => simp
  | true =>
    have : c = true := Option.some.inj (near.symm.trans (withContext_of_match mark))
    simp [this]

theorem length_gapMarks (gap : Binary64) (previous : Option Int) (times : List (Option Int)) :
    (gapMarks gap previous times).length = times.length := by
  fun_induction gapMarks gap previous times <;> simp_all

variable [Regex.Engine]

structure Passes (f : Filter) (o : Options) (e : Entry) : Prop where
  rows : ∀ r, f.rows = some r →
    (∀ n, r.first = some n → n ≤ e.lineNumber) ∧ ∀ n, r.last = some n → e.lineNumber ≤ n
  dates : ∀ r, f.dates = some r →
    (∀ b, r.first = some b → b.AllowsFrom e.lineNumber e.millis) ∧
      ∀ b, r.last = some b → b.AllowsUpTo e.lineNumber e.millis
  excludes : ∀ t ∈ f.excludes, ¬ t.isMatch e.message = true
  includes : f.includes = [] ∨ ∃ t ∈ f.includes, t.isMatch e.message = true
  level : match e.level with
    | some l => l ∈ o.levels.shown
    | none => o.levels.unleveled = true
  time : o.timeStart.isSome ∨ o.timeEnd.isSome →
    ∃ ms, e.millis = some ms ∧
      (∀ first, o.timeStart = some first → first ≤ ms) ∧ ∀ last, o.timeEnd = some last → ms ≤ last

theorem inTerms_iff {message : Text} :
    inTerms f message = true ↔
      (∀ t ∈ f.excludes, ¬ t.isMatch message = true) ∧
        (f.includes = [] ∨ ∃ t ∈ f.includes, t.isMatch message = true) := by
  simp [inTerms, List.isEmpty_iff]

theorem passes_iff : passes f o e = true ↔ Passes f o e := by
  simp only [passes, Bool.and_eq_true, Option.all_eq_true, RowRange.contains_iff,
    DateRange.contains_iff, inTerms_iff, levels_iff, inTime_iff]
  constructor
  · rintro ⟨⟨⟨⟨rows, dates⟩, excludes, includes⟩, level⟩, time⟩
    exact ⟨rows, dates, excludes, includes, level, time⟩
  · rintro ⟨rows, dates, excludes, includes, level, time⟩
    exact ⟨⟨⟨⟨rows, dates⟩, excludes, includes⟩, level⟩, time⟩

instance (f : Filter) (o : Options) (e : Entry) : Decidable (Passes f o e) :=
  decidable_of_iff _ passes_iff

theorem evaluate_flags :
    (evaluate entries f o).rows.map (fun r => (r.index, r.isContext)) =
      (shown (entries.map (passes f o)) o.context entries).map fun k => (k.2.1, !k.2.2) := by
  -- Marks of gaps are zipped in one for each row, so dropping them again drops no row.
  have forget {α β γ : Type} (g : α → γ) (as : List α) (bs : List β) (h : bs.length = as.length) :
      List.zipWith (fun a _ => g a) as bs = as.map g :=
    List.ext_getElem (by simp [h]) (by simp)
  simp only [evaluate, mapInHalves_eq_map, List.map_zipWith]
  apply forget
  split <;> simp [length_gapMarks]

def Near (entries : List Entry) (f : Filter) (o : Options) (i : Nat) : Prop :=
  ∃ (j : Nat) (e : Entry), entries[j]? = some e ∧ Passes f o e ∧ |(i : Int) - j| ≤ o.context

theorem withContext_passes_iff {i : Nat} :
    (withContext o.context (entries.map (passes f o)))[i]? = some true ↔
      i < entries.length ∧ Near entries f o i := by
  rw [withContext_iff, List.length_map]
  apply and_congr_right
  intro _
  apply exists_congr
  intro j
  have distance : |(i : Int) - j| ≤ o.context ↔ i ≤ j + o.context ∧ j ≤ i + o.context := by
    rw [abs_le]
    omega
  simp only [List.getElem?_map, Option.map_eq_some_iff, passes_iff, distance]
  constructor
  · rintro ⟨⟨e, entry, pass⟩, near⟩
    exact ⟨e, entry, pass, near⟩
  · rintro ⟨e, entry, pass, near⟩
    exact ⟨⟨e, entry, pass⟩, near⟩

theorem mem_flags {i : Nat} {c : Bool} :
    (i, c) ∈ (evaluate entries f o).rows.map (fun r => (r.index, r.isContext)) ↔
      ∃ e, entries[i]? = some e ∧ c = !passes f o e ∧ Near entries f o i := by
  rw [evaluate_flags, List.mem_map]
  constructor
  · rintro ⟨⟨e, k, m⟩, member, same⟩
    cases same
    obtain ⟨entry, mark, near⟩ := mem_shown.1 member
    rw [List.getElem?_map, entry] at mark
    exact ⟨e, entry, congrArg _ (Option.some.inj mark).symm, (withContext_passes_iff.1 near).2⟩
  · rintro ⟨e, entry, rfl, near⟩
    have inside : i < entries.length := (List.getElem?_eq_some_iff.1 entry).1
    have mark : (entries.map (passes f o))[i]? = some (passes f o e) := by
      rw [List.getElem?_map, entry, Option.map_some]
    exact ⟨_, mem_shown.2 ⟨entry, mark, withContext_passes_iff.2 ⟨inside, near⟩⟩, rfl⟩

theorem row_entry {r : Row} (h : r ∈ (evaluate entries f o).rows) :
    ∃ e, entries[r.index]? = some e ∧ r.isContext = !passes f o e := by
  obtain ⟨e, entry, flag, -⟩ := mem_flags.1 (List.mem_map_of_mem h)
  exact ⟨e, entry, flag⟩

theorem indices_eq :
    (evaluate entries f o).indices =
      (shown (entries.map (passes f o)) o.context entries).map fun k => k.2.1 := by
  have flags := congrArg (List.map Prod.fst) (@evaluate_flags entries f o _)
  rwa [List.map_map, List.map_map] at flags

theorem indices_increasing : (evaluate entries f o).indices.Pairwise (· < ·) := by
  rw [indices_eq]
  exact shown_increasing ..

theorem matchCount_eq : (evaluate entries f o).matchCount = entries.countP (passes f o) := by
  simp only [evaluate, mapInHalves_eq_map, List.count_eq_countP, List.countP_map]
  exact List.countP_congr (by simp)

theorem matchCount_eq_rows :
    (evaluate entries f o).matchCount =
      (evaluate entries f o).rows.countP fun r => !r.isContext := by
  have flags : (evaluate entries f o).rows.countP (fun r => !r.isContext) =
      (shown (entries.map (passes f o)) o.context entries).countP fun k => k.2.2 := by
    have := congrArg (List.countP fun p => !p.2) (@evaluate_flags entries f o _)
    simpa [List.countP_map, Function.comp_def] using this
  rw [flags, count_shown _ (by simp)]
  simp only [evaluate, mapInHalves_eq_map]

structure Declared (entries : List Entry) (f : Filter) (o : Options) (v : View) : Prop where
  index_iff : ∀ i, i ∈ v.indices ↔ i < entries.length ∧ Near entries f o i
  increasing : v.indices.Pairwise (· < ·)
  context_iff : ∀ r ∈ v.rows, ∃ e, entries[r.index]? = some e ∧
    (r.isContext = true ↔ ¬ Passes f o e)
  count_entries : v.matchCount = entries.countP fun e => decide (Passes f o e)
  count_rows : v.matchCount = v.rows.countP fun r => !r.isContext

/-- The evaluator shows what the filter and the options declare, however the entries are split. -/
theorem evaluate_declared (entries : List Entry) (f : Filter) (o : Options) :
    Declared entries f o (evaluate entries f o) ∧
      ∀ limit, evaluate entries f { o with splitAbove := limit } = evaluate entries f o := by
  refine ⟨⟨fun i => ?_, indices_increasing, fun r hr => ?_, ?_, matchCount_eq_rows⟩,
    fun limit => ?_⟩
  · have member : i ∈ (evaluate entries f o).indices ↔
        ∃ c, (i, c) ∈ (evaluate entries f o).rows.map (fun r => (r.index, r.isContext)) := by
      simp only [indices, List.mem_map, Prod.mk.injEq]
      exact ⟨fun ⟨r, hr, same⟩ => ⟨_, r, hr, same, rfl⟩, fun ⟨_, r, hr, same, _⟩ => ⟨r, hr, same⟩⟩
    simp only [member, mem_flags]
    constructor
    · rintro ⟨c, e, entry, -, near⟩
      exact ⟨(List.getElem?_eq_some_iff.1 entry).1, near⟩
    · rintro ⟨inside, near⟩
      exact ⟨_, entries[i], List.getElem?_eq_getElem inside, rfl, near⟩
  · obtain ⟨e, entry, flag⟩ := row_entry hr
    exact ⟨e, entry, by rw [flag, ← passes_iff]; simp⟩
  · rw [matchCount_eq]
    exact List.countP_congr fun e _ => by simp [passes_iff]
  · simp only [evaluate, mapInHalves_eq_map]
    rfl

end View
end Logbook
