import Mathlib.Data.List.Perm.Basic
import Logbook.Filter.Reader
import Logbook.Proofs.Cutting

/-! Filters laid over one another. A text that is cut at double bars into two parts says what the
second part says, laid over what the first says: terms add up, and every side of a range and the
gap are those of the later part that has them. So the order of the parts shows in nothing but the
order of the terms, as long as no two parts set the same side or both the gap. -/

namespace Logbook

theorem orElse_left_comm {α : Type} {a b : Option α} (h : a = none ∨ b = none) (c : Option α) :
    ((c <|> b) <|> a) = ((c <|> a) <|> b) := by
  rcases h with rfl | rfl <;> cases c <;> simp

namespace Range

variable {α : Type}

/-- A range over another: each side that the new one has, and otherwise the side of the old. -/
def layer : Option (Range α) → Option (Range α) → Option (Range α)
  | none, none => none
  | old, new => some ⟨new.bind first <|> old.bind first, new.bind last <|> old.bind last⟩

def Apart (r s : Option (Range α)) : Prop :=
  (r.bind first = none ∨ s.bind first = none) ∧ (r.bind last = none ∨ s.bind last = none)

instance [DecidableEq α] (r s : Option (Range α)) : Decidable (Apart r s) :=
  inferInstanceAs (Decidable
    ((r.bind first = none ∨ s.bind first = none) ∧ (r.bind last = none ∨ s.bind last = none)))

theorem Apart.symm {r s : Option (Range α)} (h : Apart r s) : Apart s r := ⟨h.1.symm, h.2.symm⟩

theorem eq_of_sides {r s : Option (Range α)} (some_range : r.isSome = s.isSome)
    (firsts : r.bind first = s.bind first) (lasts : r.bind last = s.bind last) : r = s := by
  cases r with
  | none => exact (Option.isNone_iff_eq_none.1 (by simpa using some_range.symm)).symm
  | some r =>
    obtain ⟨s, rfl⟩ := Option.isSome_iff_exists.1 some_range.symm
    obtain ⟨a, b⟩ := r
    obtain ⟨a', b'⟩ := s
    obtain rfl : a = a' := firsts
    obtain rfl : b = b' := lasts
    rfl

section Layer

variable (r s t : Option (Range α))

theorem isSome_layer : (layer r s).isSome = (r.isSome || s.isSome) := by
  cases r <;> cases s <;> rfl

theorem first_layer : (layer r s).bind first = (s.bind first <|> r.bind first) := by
  cases r <;> cases s <;> rfl

theorem last_layer : (layer r s).bind last = (s.bind last <|> r.bind last) := by
  cases r <;> cases s <;> rfl

theorem none_layer : layer none r = r := by
  apply eq_of_sides
  · simp [isSome_layer]
  · simp [first_layer]
  · simp [last_layer]

theorem layer_none : layer r none = r := by
  apply eq_of_sides
  · simp [isSome_layer]
  · simp [first_layer]
  · simp [last_layer]

variable {r s}

theorem layer_left_comm (apart : Apart r s) : layer r (layer s t) = layer s (layer r t) := by
  apply eq_of_sides
  · simp only [isSome_layer, Bool.or_left_comm]
  · simp only [first_layer]
    exact orElse_left_comm apart.1 _
  · simp only [last_layer]
    exact orElse_left_comm apart.2 _

end Layer

instance : Std.Associative (override (α := α)) where
  assoc r s t := by
    obtain ⟨_ | a, _ | b⟩ := t <;> rfl

theorem merge_append (rs ss : List (Range α)) : merge (rs ++ ss) = layer (merge rs) (merge ss) := by
  cases rs with
  | nil => exact (none_layer _).symm
  | cons r rs =>
    cases ss with
    | nil =>
      rw [List.append_nil]
      exact (layer_none _).symm
    | cons s ss =>
      show some ((rs ++ s :: ss).foldl override r) = some ((rs.foldl override r).override _)
      rw [List.foldl_append, List.foldl_cons, List.foldl_assoc]

end Range

namespace Filter

def layer (old new : Filter) : Filter where
  includes := old.includes ++ new.includes
  excludes := old.excludes ++ new.excludes
  rows := Range.layer old.rows new.rows
  dates := Range.layer old.dates new.dates
  gap := new.gap <|> old.gap

def Apart (f g : Filter) : Prop :=
  Range.Apart f.rows g.rows ∧ Range.Apart f.dates g.dates ∧ (f.gap = none ∨ g.gap = none)

instance (f g : Filter) : Decidable (f.Apart g) :=
  inferInstanceAs (Decidable (Range.Apart f.rows g.rows ∧ Range.Apart f.dates g.dates ∧
    (f.gap = none ∨ g.gap = none)))

theorem Apart.symm {f g : Filter} (h : f.Apart g) : g.Apart f :=
  ⟨h.1.symm, h.2.1.symm, h.2.2.symm⟩

structure Reordered (f g : Filter) : Prop where
  includes : f.includes.Perm g.includes
  excludes : f.excludes.Perm g.excludes
  rows : f.rows = g.rows
  dates : f.dates = g.dates
  gap : f.gap = g.gap

section Reordered

variable {f g h : Filter}

theorem Reordered.refl (f : Filter) : Reordered f f := ⟨.refl _, .refl _, rfl, rfl, rfl⟩

theorem Reordered.trans (fg : Reordered f g) (gh : Reordered g h) : Reordered f h :=
  ⟨fg.includes.trans gh.includes, fg.excludes.trans gh.excludes, fg.rows.trans gh.rows,
    fg.dates.trans gh.dates, fg.gap.trans gh.gap⟩

theorem Reordered.layer_left (same : Reordered g h) (f : Filter) :
    Reordered (f.layer g) (f.layer h) where
  includes := same.includes.append_left f.includes
  excludes := same.excludes.append_left f.excludes
  rows := by rw [layer, layer, same.rows]
  dates := by rw [layer, layer, same.dates]
  gap := by rw [layer, layer, same.gap]

theorem Apart.reordered (apart : f.Apart g) (h : Filter) :
    Reordered (f.layer (g.layer h)) (g.layer (f.layer h)) where
  includes := List.perm_append_comm_assoc ..
  excludes := List.perm_append_comm_assoc ..
  rows := Range.layer_left_comm _ apart.1
  dates := Range.layer_left_comm _ apart.2.1
  gap := orElse_left_comm apart.2.2 h.gap

end Reordered

def layers (fs : List Filter) : Filter := fs.foldr layer {}

theorem layer_empty (f : Filter) : f.layer {} = f := by
  simp [layer, Range.layer_none]

section Parts

variable (f : Filter)

theorem layer_includes (ts : List Term) :
    f.layer { includes := ts } = { f with includes := f.includes ++ ts } := by
  simp [layer, Range.layer_none]

theorem layer_excludes (ts : List Term) :
    f.layer { excludes := ts } = { f with excludes := f.excludes ++ ts } := by
  simp [layer, Range.layer_none]

theorem layer_rows (r : RowRange) :
    f.layer { rows := some r } = { f with rows := Range.layer f.rows (some r) } := by
  simp [layer, Range.layer_none]

theorem layer_dates (r : DateRange) :
    f.layer { dates := some r } = { f with dates := Range.layer f.dates (some r) } := by
  simp [layer, Range.layer_none]

theorem layer_gap (gap : Binary64) : f.layer { gap := some gap } = { f with gap := some gap } := by
  simp [layer, Range.layer_none]

end Parts

theorem reordered_layers {fs gs : List Filter} (perm : fs.Perm gs) (apart : fs.Pairwise Apart) :
    Reordered (layers fs) (layers gs) := by
  induction perm with
  | nil => exact .refl _
  | cons f _ ih => exact (ih apart.of_cons).layer_left f
  | swap f g fs => exact (List.rel_of_pairwise_cons apart (by simp)).reordered (layers fs)
  | trans first _ ih ih' =>
    exact (ih apart).trans (ih' ((first.pairwise_iff fun h => h.symm).1 apart))

theorem ofSegments_append (ss ss' : List Segment) :
    ofSegments (ss ++ ss') = (ofSegments ss).layer (ofSegments ss') := by
  simp [ofSegments, layer, Range.merge_append, List.getLast?_append]

theorem layers_segments (ss : List Segment) :
    layers (ss.map fun s => ofSegments [s]) = ofSegments ss := by
  induction ss with
  | nil => rfl
  | cons s ss ih =>
    rw [List.map_cons, layers, List.foldr_cons, ← layers, ih, ← ofSegments_append,
      List.singleton_append]

theorem read_append {t : Text} (last : t.getLast? ≠ some '|') (t' : Text) :
    read (t ++ '|' :: '|' :: t') = (read t).layer (read t') := by
  rw [read, Text.segments_append last, List.map_append, ofSegments_append]
  rfl

theorem read_segment {t : Text} (segment : Text.IsSegment t) :
    read t = ofSegments [Segment.of t] := by
  rw [read, Text.segments_of_isSegment segment, List.map_singleton]

theorem read_intercalate {ts : List Text} (last : ∀ t ∈ ts.dropLast, t.getLast? ≠ some '|') :
    read (List.intercalate "||".toList ts) = layers (ts.map read) := by
  induction ts with
  | nil => rfl
  | cons t ts ih =>
    rcases ts with _ | ⟨t', ts⟩
    · rw [List.intercalate_singleton]
      exact (layer_empty _).symm
    · have rest := ih fun x hx => last x (by simp_all)
      rw [List.intercalate_cons_cons, List.append_assoc]
      show read (t ++ '|' :: '|' :: List.intercalate "||".toList (t' :: ts)) = _
      rw [read_append (last t (by simp)), rest]
      rfl

/-- A filter in two parts is the second laid over the first. In which order any number of parts
come makes no difference but to the order of the terms, where no two set the same. -/
theorem read_in_parts :
    (∀ f g : Text, f.getLast? ≠ some '|' →
      read (f ++ "||".toList ++ g) = (read f).layer (read g)) ∧
    ∀ ts ts' : List Text, ts.Perm ts' →
      (∀ t ∈ ts.dropLast, t.getLast? ≠ some '|') → (∀ t ∈ ts'.dropLast, t.getLast? ≠ some '|') →
      ts.Pairwise (fun t t' => (read t).Apart (read t')) →
        Reordered (read (List.intercalate "||".toList ts))
          (read (List.intercalate "||".toList ts')) := by
  constructor
  · intro f g last
    rw [List.append_assoc]
    exact read_append last g
  · intro ts ts' perm last last' apart
    rw [read_intercalate last, read_intercalate last']
    exact reordered_layers (perm.map read) (List.pairwise_map.2 apart)

theorem read_in_parts_mixed :
    let f := "a|b||#3::#9||#2024-01-01::#5||#gap=1".toList
    let g := "!x||::#7||::#2024-02-02||b|".toList
    let ts := ["a|b".toList, "#3::".toList, "!x".toList, "::#2024-02-02".toList, "::#9".toList]
    let ts' := ["::#9".toList, "!x".toList, "::#2024-02-02".toList, "#3::".toList, "a|b".toList]
    f.getLast? ≠ some '|' ∧ read (f ++ "||".toList ++ g) = (read f).layer (read g) ∧
    ts.Perm ts' ∧ (∀ t ∈ ts.dropLast, t.getLast? ≠ some '|') ∧
    (∀ t ∈ ts'.dropLast, t.getLast? ≠ some '|') ∧
    ts.Pairwise (fun t t' => (read t).Apart (read t')) ∧
    Reordered (read (List.intercalate "||".toList ts))
      (read (List.intercalate "||".toList ts')) := by
  intro f g ts ts'
  have last : f.getLast? ≠ some '|' := by decide
  have perm : ts.Perm ts' := by decide
  have lasts : ∀ t ∈ ts.dropLast, t.getLast? ≠ some '|' := by decide
  have lasts' : ∀ t ∈ ts'.dropLast, t.getLast? ≠ some '|' := by decide
  have apart : ts.Pairwise (fun t t' => (read t).Apart (read t')) := by decide +kernel
  exact ⟨last, read_in_parts.1 f g last, perm, lasts, lasts', apart,
    read_in_parts.2 ts ts' perm lasts lasts' apart⟩

-- The later of two sides counts, so here the order shows.
example : (read "#1::||#2::".toList).rows = some ⟨some 2, none⟩ := by decide +kernel

end Filter
end Logbook
