import Logbook.Proofs.Shown

/-! The entries of a view as a log of their own: the same filter and options show all of them, with
the flags they had. Leaving out what is not shown only brings entries closer to their matches. -/

namespace Logbook.View

variable {entries : List Entry} {f : Filter} {o : Options}

def gapFlags (f : Filter) (times : List (Option Int)) : List Bool :=
  match f.gap with
  | none => times.map fun _ => false
  | some gap => gapMarks gap none times

theorem length_gapFlags (f : Filter) (times : List (Option Int)) :
    (gapFlags f times).length = times.length := by
  unfold gapFlags
  split
  · exact List.length_map _
  · exact length_gapMarks ..

theorem add_le_of_increasing {ns : List Nat} (h : ns.Pairwise (· < ·)) {i d a b : Nat}
    (first : ns[i]? = some a) (last : ns[i + d]? = some b) : a + d ≤ b := by
  induction d generalizing b with
  | zero => exact (Option.some.inj (first.symm.trans last)).le
  | succ d ih =>
    obtain ⟨inside, rfl⟩ := List.getElem?_eq_some_iff.1 last
    have before : i + d < ns.length := by omega
    have step : ns[i + d] < ns[i + (d + 1)] :=
      List.pairwise_iff_getElem.1 h _ _ before inside (by omega)
    have := ih (List.getElem?_eq_getElem before)
    omega

variable [Regex.Engine]

def kept (entries : List Entry) (f : Filter) (o : Options) : List (Entry × Nat × Bool) :=
  shown (entries.map (passes f o)) o.context entries

theorem rows_eq (entries : List Entry) (f : Filter) (o : Options) :
    (evaluate entries f o).rows =
      List.zipWith (fun k gap => ⟨k.2.1, !k.2.2, gap⟩) (kept entries f o)
        (gapFlags f ((kept entries f o).map (·.1.millis))) := by
  simp only [evaluate, mapInHalves_eq_map, kept, gapFlags, List.map_map]
  rfl

theorem length_rows (entries : List Entry) (f : Filter) (o : Options) :
    (evaluate entries f o).rows.length = (kept entries f o).length := by
  simp [rows_eq, length_gapFlags]

theorem mem_kept {k : Entry × Nat × Bool} (h : k ∈ kept entries f o) :
    entries[k.2.1]? = some k.1 ∧ k.2.2 = passes f o k.1 := by
  obtain ⟨e, i, m⟩ := k
  obtain ⟨entry, mark, -⟩ := mem_shown.1 h
  rw [List.getElem?_map, entry] at mark
  exact ⟨entry, (Option.some.inj mark).symm⟩

theorem entriesOf_evaluate (entries : List Entry) (f : Filter) (o : Options) :
    (evaluate entries f o).entriesOf entries = (kept entries f o).map Prod.fst := by
  calc (evaluate entries f o).entriesOf entries
      = (evaluate entries f o).indices.filterMap (entries[·]?) := by
        rw [indices, List.filterMap_map]
        simp [entriesOf]
    _ = (kept entries f o).filterMap (fun k => entries[k.2.1]?) := by
        rw [indices_eq, List.filterMap_map]
        rfl
    _ = (kept entries f o).filterMap (fun k => some k.1) :=
        List.filterMap_congr fun k hk => (mem_kept hk).1
    _ = (kept entries f o).map Prod.fst := by rw [← List.filterMap_eq_map']

theorem entriesOf_of_context_zero (entries : List Entry) (f : Filter) {o : Options}
    (h : o.context = 0) :
    (evaluate entries f o).entriesOf entries = entries.filter (passes f o) := by
  have marks : entries.zipIdx.zip ((entries.map (passes f o)).zip (entries.map (passes f o))) =
      entries.zipIdx.map fun p => (p, passes f o p.1, passes f o p.1) :=
    List.ext_getElem (by simp) (by simp)
  have firsts : entries.zipIdx.map Prod.fst = entries := by simp
  rw [entriesOf_evaluate, kept, h, shown, withContext, if_pos rfl, marks, List.filter_map,
    List.map_map, List.map_map]
  conv => rhs; rw [← firsts, List.filter_map]
  rfl

theorem marks_kept (entries : List Entry) (f : Filter) (o : Options) :
    ((kept entries f o).map Prod.fst).map (passes f o) = (kept entries f o).map (·.2.2) := by
  rw [List.map_map]
  exact List.map_congr_left fun k hk => (mem_kept hk).2.symm

/-- Each entry of a view is within the context of a match of the view itself. -/
theorem withContext_kept (entries : List Entry) (f : Filter) (o : Options) {p : Nat}
    (hp : p < (kept entries f o).length) :
    (withContext o.context ((kept entries f o).map (·.2.2)))[p]? = some true := by
  have increasing : ((kept entries f o).map (·.2.1)).Pairwise (· < ·) := shown_increasing ..
  have place : ∀ {q : Nat} {k : Entry × Nat × Bool}, (kept entries f o)[q]? = some k →
      ((kept entries f o).map (·.2.1))[q]? = some k.2.1 := by
    intro q k found
    rw [List.getElem?_map, found, Option.map_some]
  obtain ⟨⟨e, i, m⟩, here⟩ : ∃ k, (kept entries f o)[p]? = some k :=
    ⟨_, List.getElem?_eq_getElem hp⟩
  -- A match near `i` in the log is shown itself, so it has a position in the view.
  obtain ⟨-, -, near⟩ := mem_shown.1 (List.mem_of_getElem? here)
  obtain ⟨-, j, mark, before, after⟩ := (withContext_iff ..).1 near
  obtain ⟨e', entry, -⟩ := Option.map_eq_some_iff.1 ((List.getElem?_map ..).symm.trans mark)
  have member : (e', j, true) ∈ kept entries f o :=
    mem_shown.2 ⟨entry, mark, withContext_of_match mark⟩
  obtain ⟨q, there⟩ := List.mem_iff_getElem?.1 member
  refine (withContext_iff ..).2 ⟨by simpa using hp, q, by simp [there], ?_⟩
  rcases Nat.le_total p q with le | le
  · obtain ⟨d, rfl⟩ := Nat.exists_eq_add_of_le le
    have := add_le_of_increasing increasing (place here) (place there)
    simp only at this
    omega
  · obtain ⟨d, rfl⟩ := Nat.exists_eq_add_of_le le
    have := add_le_of_increasing increasing (place there) (place here)
    simp only at this
    omega

theorem kept_kept (entries : List Entry) (f : Filter) (o : Options) :
    kept ((kept entries f o).map Prod.fst) f o =
      (kept entries f o).mapIdx fun p k => (k.1, p, k.2.2) := by
  have all : ∀ x ∈ ((kept entries f o).map Prod.fst).zipIdx.zip
      (((kept entries f o).map (·.2.2)).zip
        (withContext o.context ((kept entries f o).map (·.2.2)))), x.2.2 = true := by
    rintro ⟨⟨e, p⟩, m, c⟩ member
    obtain ⟨-, mark, near⟩ := mem_zipIdx_zip.1 member
    have inside := (List.getElem?_eq_some_iff.1 mark).1
    rw [List.length_map] at inside
    exact Option.some.inj (near.symm.trans (withContext_kept entries f o inside))
  rw [kept, marks_kept, shown, List.filter_eq_self.2 all]
  apply List.ext_getElem
  · simp [length_withContext]
  · intro p _ _
    simp

theorem rows_kept (entries : List Entry) (f : Filter) (o : Options) :
    (evaluate ((kept entries f o).map Prod.fst) f o).rows =
      (evaluate entries f o).rows.mapIdx fun p r => { r with index := p } := by
  have times : ((kept entries f o).mapIdx fun p k => (k.1, p, k.2.2)).map (·.1.millis) =
      (kept entries f o).map (·.1.millis) :=
    List.ext_getElem (by simp) (by simp)
  rw [rows_eq, rows_eq, kept_kept, times]
  exact List.ext_getElem (by simp) (by simp)

theorem matchCount_kept (entries : List Entry) (f : Filter) (o : Options) :
    (evaluate ((kept entries f o).map Prod.fst) f o).matchCount =
      (evaluate entries f o).matchCount := by
  calc (evaluate ((kept entries f o).map Prod.fst) f o).matchCount
      = (kept entries f o).countP fun k => passes f o k.1 := by
        rw [matchCount_eq, List.countP_map]
        rfl
    _ = (kept entries f o).countP fun k => k.2.2 :=
        List.countP_congr fun k hk => by rw [(mem_kept hk).2]
    _ = (evaluate entries f o).matchCount := by
        rw [kept, count_shown _ (List.length_map _), evaluate, mapInHalves_eq_map]

theorem evaluate_entriesOf (entries : List Entry) (f : Filter) (o : Options) :
    let v := evaluate entries f o
    let s := v.entriesOf entries
    (evaluate s f o).rows = v.rows.mapIdx (fun p r => { r with index := p }) ∧
      (evaluate s f o).indices = List.range s.length ∧
      (evaluate s f o).matchCount = v.matchCount ∧
      (evaluate s f o).entriesOf s = s := by
  intro v s
  have source : s = (kept entries f o).map Prod.fst := entriesOf_evaluate entries f o
  rw [source]
  refine ⟨rows_kept entries f o, ?_, matchCount_kept entries f o, ?_⟩
  · rw [indices, rows_kept]
    exact List.ext_getElem (by simp [length_rows]) (by simp)
  · rw [entriesOf_evaluate, kept_kept]
    exact List.ext_getElem (by simp) (by simp)

end Logbook.View
