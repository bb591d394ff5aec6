import Mathlib.Data.Set.Basic
import Logbook.Entry.Assembler
import Logbook.Proofs.Canonical
import Logbook.Proofs.Layers
import Logbook.Proofs.Shown

/-! Refining a filter with one more term. An exclusion takes away the entries that the term matches.
The first inclusion leaves only those; every later one adds those that the rest of the filter lets
pass. -/

namespace Logbook

namespace Filter

variable {f t : Text} (last : f.getLast? ≠ some '|')
include last

theorem read_append_exclude (segment : Text.IsSegment t) :
    read (f ++ "||!".toList ++ t) =
      { read f with excludes := (read f).excludes ++ [⟨t⟩] } := by
  have said : read ('!' :: t) = { excludes := [⟨t⟩] } := by
    have trimmed := segment.trimmed.trim_eq
    have nonempty : Text.trim t ≠ [] := trimmed.symm ▸ segment.nonempty
    rw [read_segment (Segment.isSegment_exclude segment), Segment.of_exclude nonempty, trimmed]
    rfl
  rw [List.append_assoc, ← layer_excludes, ← said]
  exact read_append last ('!' :: t)

theorem read_append_include (said : read t = { includes := [⟨t⟩] }) :
    read (f ++ "||".toList ++ t) =
      { read f with includes := (read f).includes ++ [⟨t⟩] } := by
  rw [List.append_assoc, ← layer_includes, ← said]
  exact read_append last t

end Filter

namespace View

section Sets

variable [Regex.Engine] {entries : List Entry} {f : Filter} {o : Options} {e : Entry} {t : Term}

def matched (entries : List Entry) (f : Filter) (o : Options) : Set Nat :=
  {i | ∃ r ∈ (evaluate entries f o).rows, r.index = i ∧ r.isContext = false}

def hitBy (entries : List Entry) (t : Term) : Set Nat :=
  {i | ∃ e, entries[i]? = some e ∧ t.isMatch e.message = true}

theorem mem_hitBy {i : Nat} :
    i ∈ hitBy entries t ↔ ∃ e, entries[i]? = some e ∧ t.isMatch e.message = true := Iff.rfl

theorem mem_matched {i : Nat} :
    i ∈ matched entries f o ↔ ∃ e, entries[i]? = some e ∧ passes f o e = true := by
  constructor
  · rintro ⟨r, member, rfl, own⟩
    obtain ⟨e, entry, flag⟩ := row_entry member
    exact ⟨e, entry, by simpa [own] using flag⟩
  · rintro ⟨e, entry, pass⟩
    have near : Near entries f o i := ⟨i, e, entry, passes_iff.1 pass, by simp⟩
    obtain ⟨r, member, same⟩ := List.mem_map.1 (mem_flags.2 ⟨e, entry, rfl, near⟩)
    obtain ⟨place, flag⟩ := Prod.mk.inj same
    exact ⟨r, member, place, by rw [flag, pass, Bool.not_true]⟩

theorem passes_iff_terms :
    passes f o e = true ↔
      passes { f with includes := [], excludes := [] } o e = true ∧
        (∀ t ∈ f.excludes, ¬ t.isMatch e.message = true) ∧
        (f.includes = [] ∨ ∃ t ∈ f.includes, t.isMatch e.message = true) := by
  have apart : passes f o e = true ↔
      passes { f with includes := [], excludes := [] } o e = true ∧
        inTerms f e.message = true := by
    simp only [passes, inTerms, List.any_nil, List.isEmpty_nil, Bool.not_false, Bool.true_or,
      Bool.and_eq_true]
    tauto
  rw [apart, inTerms_iff]

theorem passes_exclude :
    passes { f with excludes := f.excludes ++ [t] } o e = true ↔
      passes f o e = true ∧ ¬ t.isMatch e.message = true := by
  rw [passes_iff_terms, passes_iff_terms (f := f)]
  simp only [List.forall_mem_append, List.forall_mem_singleton]
  tauto

theorem passes_first_include (first : f.includes = []) :
    passes { f with includes := f.includes ++ [t] } o e = true ↔
      passes f o e = true ∧ t.isMatch e.message = true := by
  rw [passes_iff_terms, passes_iff_terms (f := f)]
  simp [first, and_assoc]

theorem passes_later_include (later : f.includes ≠ []) :
    passes { f with includes := f.includes ++ [t] } o e = true ↔
      passes f o e = true ∨
        t.isMatch e.message = true ∧ passes { f with includes := [] } o e = true := by
  rw [passes_iff_terms, passes_iff_terms (f := f),
    passes_iff_terms (f := { f with includes := [] })]
  simp only [later, List.mem_append, or_and_right, exists_or, List.mem_singleton, exists_eq_left,
    List.append_eq_nil_iff, false_and, false_or, true_or, and_true]
  -- What lets a later term in is either what did before or the term.
  rw [and_or_left, and_or_left, and_rotate (a := t.isMatch e.message = true)]

theorem matched_exclude :
    matched entries { f with excludes := f.excludes ++ [t] } o =
      matched entries f o \ hitBy entries t := by
  ext i
  simp only [Set.mem_sdiff, mem_matched, mem_hitBy, passes_exclude]
  cases entries[i]? <;> simp

theorem matched_first_include (first : f.includes = []) :
    matched entries { f with includes := f.includes ++ [t] } o =
      matched entries f o ∩ hitBy entries t := by
  ext i
  simp only [Set.mem_inter_iff, mem_matched, mem_hitBy, passes_first_include first]
  cases entries[i]? <;> simp

theorem matched_later_include (later : f.includes ≠ []) :
    matched entries { f with includes := f.includes ++ [t] } o =
      matched entries f o ∪ (hitBy entries t ∩ matched entries { f with includes := [] } o) := by
  ext i
  simp only [Set.mem_union, Set.mem_inter_iff, mem_matched, mem_hitBy, passes_later_include later]
  cases entries[i]? <;> simp

end Sets

/-- What one more term does to what is matched. Only the first inclusion takes entries away. -/
theorem matched_refined [Regex.Engine] (entries : List Entry) (o : Options) {f t : Text}
    (last : f.getLast? ≠ some '|') (segment : Text.IsSegment t) :
    let M (x : Text) := matched entries (Filter.read x) o
    let hit := hitBy entries ⟨t⟩
    (M (f ++ "||!".toList ++ t) = M f \ hit ∧ M (f ++ "||!".toList ++ t) ⊆ M f) ∧
    (Filter.read t = { includes := [⟨t⟩] } →
      ((Filter.read f).includes = [] → M (f ++ "||".toList ++ t) = M f ∩ hit) ∧
      ((Filter.read f).includes ≠ [] →
        M (f ++ "||".toList ++ t) =
          M f ∪ (hit ∩ matched entries { Filter.read f with includes := [] } o) ∧
        M f ⊆ M (f ++ "||".toList ++ t))) := by
  intro M hit
  have excluded : M (f ++ "||!".toList ++ t) = M f \ hit := by
    simp only [M, Filter.read_append_exclude last segment]
    exact matched_exclude
  refine ⟨⟨excluded, excluded ▸ Set.sdiff_subset⟩, fun said => ⟨fun first => ?_, fun later => ?_⟩⟩
  · simp only [M, Filter.read_append_include last said]
    exact matched_first_include first
  · have added : M (f ++ "||".toList ++ t) =
        M f ∪ (hit ∩ matched entries { Filter.read f with includes := [] } o) := by
      simp only [M, Filter.read_append_include last said]
      exact matched_later_include later
    exact ⟨added, added ▸ Set.subset_union_left⟩

theorem matched_refined_out_of_range :
    let _ : Regex.Engine := .upTo 1000
    let log := "2024-01-01 10:00:00 link down\n2024-01-01 10:00:01 link up\n".toList ++
      "2024-01-01 10:00:02 disk full".toList
    let entries := assemble (Source.ofText log).lines
    let f := "::#2||down".toList
    let t := "full".toList
    let M (x : Text) := matched entries (Filter.read x) {}
    let hit := hitBy entries ⟨t⟩
    f.getLast? ≠ some '|' ∧ Text.IsSegment t ∧ Filter.read t = { includes := [⟨t⟩] } ∧
    (Filter.read f).includes ≠ [] ∧
    M (f ++ "||!".toList ++ t) = M f \ hit ∧
    M (f ++ "||".toList ++ t) =
      M f ∪ (hit ∩ matched entries { Filter.read f with includes := [] } {}) ∧
    2 ∈ hit ∧ 2 ∉ M (f ++ "||".toList ++ t) := by
  intro _ log entries f t M hit
  have last : f.getLast? ≠ some '|' := by decide
  have segment : Text.IsSegment t := Text.isSegment_of_mem (t := t) (by decide)
  have said : Filter.read t = { includes := [⟨t⟩] } := by decide +kernel
  have later : (Filter.read f).includes ≠ [] := by decide +kernel
  have refined := matched_refined entries {} last segment
  have found : (entries[2]?).any (fun e => (⟨t⟩ : Term).isMatch e.message) = true := by
    decide +kernel
  have refused : (entries[2]?).any (passes (Filter.read (f ++ "||".toList ++ t)) {}) = false := by
    decide +kernel
  refine ⟨last, segment, said, later, refined.1.1, ((refined.2 said).2 later).1,
    mem_hitBy.2 ((Option.any_eq_true ..).1 found), fun member => ?_⟩
  obtain ⟨e, entry, pass⟩ := mem_matched.1 member
  rw [entry, Option.any_some, pass] at refused
  simp at refused

end View
end Logbook
