import Mathlib.Data.List.Basic
import Logbook.View.Evaluate

/-! The sweep that adds context in one pass marks exactly the neighbourhoods of the matches,
whatever the pattern of the matches and the width. -/

namespace Logbook.View

theorem mem_matchPlaces {matched : List Bool} {i : Nat} :
    i ∈ matchPlaces matched ↔ matched[i]? = some true := by
  simp [matchPlaces, List.mem_zipIdx_iff_getElem?]

theorem places_increasing {α : Type} (p : α × Nat → Bool) (l : List α) :
    ((l.zipIdx.filter p).map Prod.snd).Pairwise (· < ·) := by
  have all : (l.zipIdx.map Prod.snd).Pairwise (· < ·) := by
    simp [List.pairwise_lt_range']
  exact all.sublist (List.filter_sublist.map _)

theorem matchPlaces_increasing (matched : List Bool) : (matchPlaces matched).Pairwise (· < ·) :=
  places_increasing Prod.fst matched

namespace Sweep

theorem mark_all (places : List Nat) (marks : Array Bool) (k : Nat) :
    (places.foldl (fun ms i => ms.setIfInBounds i true) marks)[k]? = some true ↔
      (k < marks.size ∧ k ∈ places) ∨ marks[k]? = some true := by
  induction places generalizing marks with
  | nil => simp
  | cons i is ih =>
    rw [List.foldl_cons, ih]
    simp only [Array.size_setIfInBounds, Array.getElem?_setIfInBounds, List.mem_cons]
    grind

theorem size_mark_all (places : List Nat) (marks : Array Bool) :
    (places.foldl (fun ms i => ms.setIfInBounds i true) marks).size = marks.size := by
  induction places generalizing marks with
  | nil => rfl
  | cons i is ih => rw [List.foldl_cons, ih, Array.size_setIfInBounds]

/-- The marks are the windows of the places swept so far, and `covered` ends the last one. -/
structure Covers (n size : Nat) (places : List Nat) (s : Sweep) : Prop where
  size_eq : s.marks.size = size
  mark_iff : ∀ k, s.marks[k]? = some true ↔ k < size ∧ ∃ i ∈ places, k ≤ i + n ∧ i ≤ k + n
  before_covered : ∀ i ∈ places, min (i + n) (size - 1) < s.covered
  covered_eq : s.covered = 0 ∨ ∃ i ∈ places, s.covered = min (i + n) (size - 1) + 1

theorem covers_start (n size : Nat) : Covers n size [] ⟨0, Array.replicate size false⟩ where
  size_eq := Array.size_replicate
  mark_iff k := by simp [Array.getElem?_replicate]
  before_covered := by simp
  covered_eq := .inl rfl

theorem Covers.reach_of_lt {n size : Nat} {places : List Nat} {s : Sweep}
    (h : Covers n size places s) {i k : Nat} (later : ∀ j ∈ places, j < i) (hi : i ≤ k + n)
    (hk : k < s.covered) : ∃ j ∈ places, k ≤ j + n ∧ j ≤ k + n := by
  rcases h.covered_eq with zero | ⟨j, hj, end_eq⟩
  · omega
  · have := later j hj
    exact ⟨j, hj, by omega, by omega⟩

theorem Covers.window {n size : Nat} {places : List Nat} {s : Sweep} (h : Covers n size places s)
    {i : Nat} (hi : i < size) (later : ∀ j ∈ places, j < i) :
    Covers n size (places ++ [i]) (s.window n (size - 1) i) := by
  have reach := fun k => h.reach_of_lt (k := k) later
  unfold Sweep.window
  simp only
  split
  · next fresh =>
    -- The places from `covered` on are marked now; the window's others were marked before.
    refine ⟨by rw [size_mark_all, h.size_eq], ?_, ?_, .inr ⟨i, by simp, rfl⟩⟩
    · intro k
      rw [mark_all, h.size_eq, h.mark_iff, List.mem_range'_1]
      simp only [List.mem_append, List.mem_singleton]
      constructor
      · rintro (⟨hk, window⟩ | ⟨hk, j, hj, near⟩)
        · exact ⟨hk, i, .inr rfl, by omega, by omega⟩
        · exact ⟨hk, j, .inl hj, near⟩
      · rintro ⟨hk, j, hj | rfl, near⟩
        · exact .inr ⟨hk, j, hj, near⟩
        · by_cases old : k < s.covered
          · exact .inr ⟨hk, reach k near.2 old⟩
          · exact .inl ⟨hk, by omega⟩
    · intro j hj
      rw [List.mem_append, List.mem_singleton] at hj
      rcases hj with hj | rfl
      · have := later j hj
        simp only
        omega
      · simp only
        omega
  · next stale =>
    -- All of the window was marked before.
    refine ⟨h.size_eq, ?_, ?_, ?_⟩
    · intro k
      rw [h.mark_iff]
      simp only [List.mem_append, List.mem_singleton]
      constructor
      · rintro ⟨hk, j, hj, near⟩
        exact ⟨hk, j, .inl hj, near⟩
      · rintro ⟨hk, j, hj | rfl, near⟩
        · exact ⟨hk, j, hj, near⟩
        · exact ⟨hk, reach k near.2 (by omega)⟩
    · intro j hj
      rw [List.mem_append, List.mem_singleton] at hj
      rcases hj with hj | rfl
      · exact h.before_covered j hj
      · omega
    · exact h.covered_eq.imp_right fun ⟨j, hj, end_eq⟩ => ⟨j, by simp [hj], end_eq⟩

theorem Covers.foldl {n size : Nat} (next : List Nat) {places : List Nat} {s : Sweep}
    (h : Covers n size places s) (inside : ∀ i ∈ next, i < size)
    (increasing : (places ++ next).Pairwise (· < ·)) :
    Covers n size (places ++ next) (next.foldl (Sweep.window n (size - 1)) s) := by
  -- The places swept so far grow by the next one, which lies after all of them.
  induction next generalizing places s with
  | nil => simpa using h
  | cons i is ih =>
    have later : ∀ j ∈ places, j < i := fun j hj =>
      (List.pairwise_append.1 increasing).2.2 j hj i (by simp)
    have step := h.window (inside i (by simp)) later
    rw [List.append_cons] at increasing ⊢
    exact ih step (fun j hj => inside j (by simp [hj])) increasing

theorem covers_matchPlaces (n : Nat) (matched : List Bool) :
    Covers n matched.length (matchPlaces matched)
      ((matchPlaces matched).foldl (Sweep.window n (matched.length - 1))
        ⟨0, Array.replicate matched.length false⟩) := by
  have inside : ∀ i ∈ matchPlaces matched, i < matched.length := fun i hi =>
    (List.getElem?_eq_some_iff.1 (mem_matchPlaces.1 hi)).1
  have increasing : ([] ++ matchPlaces matched).Pairwise (· < ·) := matchPlaces_increasing matched
  simpa only [List.nil_append] using (covers_start n matched.length).foldl _ inside increasing

end Sweep

theorem length_withContext (n : Nat) (matched : List Bool) :
    (withContext n matched).length = matched.length := by
  unfold withContext
  split
  · rfl
  · exact (Sweep.covers_matchPlaces n matched).size_eq

theorem withContext_iff (n : Nat) (matched : List Bool) (k : Nat) :
    (withContext n matched)[k]? = some true ↔
      k < matched.length ∧ ∃ i, matched[i]? = some true ∧ k ≤ i + n ∧ i ≤ k + n := by
  unfold withContext
  split
  · next none_around =>
    subst none_around
    constructor
    · exact fun h => ⟨(List.getElem?_eq_some_iff.1 h).1, k, h, by omega, by omega⟩
    · rintro ⟨-, i, hi, near⟩
      have : k = i := by omega
      rwa [this]
  · rw [Array.getElem?_toList, (Sweep.covers_matchPlaces n matched).mark_iff]
    simp only [mem_matchPlaces]

theorem withContext_of_match {n : Nat} {matched : List Bool} {k : Nat}
    (h : matched[k]? = some true) : (withContext n matched)[k]? = some true :=
  (withContext_iff n matched k).2
    ⟨(List.getElem?_eq_some_iff.1 h).1, k, h, by omega, by omega⟩

end Logbook.View
