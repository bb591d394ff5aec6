import Mathlib.Data.List.Chain
import Logbook.Proofs.Text

/-! Cutting at double marks undoes joining with them. Marks are not escaped, so the parts must
neither hold a double mark nor end with a single one where another part follows. -/

namespace Logbook.Text

variable {c : Char} {s t x : Text}

def NoPair (c : Char) (t : Text) : Prop := t.IsChain fun d e => ¬ (d = c ∧ e = c)

theorem NoPair.of_part (h : NoPair c t) (part : s <:+: t) : NoPair c s := List.IsChain.infix h part

theorem NoPair.append (hs : NoPair c s) (ht : NoPair c t)
    (apart : s.getLast? ≠ some c ∨ t.head? ≠ some c) : NoPair c (s ++ t) := by
  refine List.IsChain.append hs ht ?_
  rintro d hd e he ⟨rfl, rfl⟩
  exact apart.elim (absurd hd) (absurd he)

theorem noPair_cons_cons {d e : Char} {r : Text} :
    NoPair c (d :: e :: r) ↔ ¬ (d = c ∧ e = c) ∧ NoPair c (e :: r) := List.isChain_cons_cons

theorem noPair_singleton (c d : Char) : NoPair c [d] := List.isChain_singleton d

theorem noPair_of_notMem (h : c ∉ t) : NoPair c t := by
  induction t with
  | nil => exact List.isChain_nil
  | cons d r ih =>
    rw [List.mem_cons, not_or] at h
    exact (noPair_singleton c d).append (ih h.2) (.inl (by simpa using Ne.symm h.1))

theorem noPair_iff : NoPair c t ↔ ¬ [c, c] <:+: t := by
  rw [NoPair, List.isChain_iff_forall_rel_of_append_cons_cons]
  constructor
  · rintro single ⟨s, r, rfl⟩
    exact single (List.append_assoc ..) ⟨rfl, rfl⟩
  · rintro absent _ _ s r rfl ⟨rfl, rfl⟩
    exact absent ⟨s, r, List.append_assoc ..⟩

theorem splitPair_of_noPair (h : NoPair c t) : splitPair c c t = [t] := by
  induction t with
  | nil => rfl
  | cons d r ih =>
    rcases r with _ | ⟨e, r⟩
    · rfl
    · obtain ⟨single, rest⟩ := noPair_cons_cons.1 h
      rw [splitPair, if_neg single, ih rest]
      rfl

theorem splitPair_eq_cons (c : Char) (t : Text) :
    ∃ x xs, splitPair c c t = x :: xs ∧ x <+: t ∧ ∀ y ∈ x :: xs, NoPair c y := by
  -- A character is put before the first piece, so it has to be known how that piece begins.
  induction t using splitPair.induct c c with
  | case1 => exact ⟨[], [], rfl, List.prefix_rfl, by simp [NoPair]⟩
  | case2 d => exact ⟨[d], [], rfl, List.prefix_rfl, by simp [NoPair]⟩
  | case3 d e r pair ih =>
    obtain ⟨x, xs, split, -, pieces⟩ := ih
    refine ⟨[], x :: xs, by rw [splitPair, if_pos pair, split], List.nil_prefix, ?_⟩
    intro y hy
    rcases List.mem_cons.1 hy with rfl | hy
    · exact List.isChain_nil
    · exact pieces y hy
  | case4 d e r single ih =>
    obtain ⟨x, xs, split, front, pieces⟩ := ih
    refine ⟨d :: x, xs, by rw [splitPair, if_neg single, split]; rfl, ?_, ?_⟩
    · exact List.cons_prefix_cons.2 ⟨rfl, front⟩
    · intro y hy
      rcases List.mem_cons.1 hy with rfl | hy
      · rcases x with _ | ⟨e', x⟩
        · exact noPair_singleton c d
        · obtain ⟨rfl, -⟩ := List.cons_prefix_cons.1 front
          exact noPair_cons_cons.2 ⟨single, pieces _ (by simp)⟩
      · exact pieces y (by simp [hy])

/-- A double mark ends a piece, unless the mark before it takes its first half. -/
theorem splitPair_append (last : t.getLast? ≠ some c) (r : Text) :
    splitPair c c (t ++ c :: c :: r) = splitPair c c t ++ splitPair c c r := by
  have head {d : Char} {xs ys : List Text} (nonempty : xs ≠ []) :
      (xs ++ ys).modifyHead (d :: ·) = xs.modifyHead (d :: ·) ++ ys := by
    obtain ⟨x, xs, rfl⟩ := List.exists_cons_of_ne_nil nonempty
    rfl
  induction t using splitPair.induct c c with
  | case1 => simp [splitPair]
  | case2 d =>
    have single : d ≠ c := fun same => last (by simp [same])
    simp [splitPair, single]
  | case3 d e t pair ih =>
    have tail : t.getLast? ≠ some c := by
      rintro h
      obtain ⟨u, rfl⟩ := List.getLast?_eq_some_iff.1 h
      exact last (by simp [List.getLast?_cons])
    rw [List.cons_append, List.cons_append, splitPair, if_pos pair, splitPair, if_pos pair, ih tail]
    rfl
  | case4 d e t single ih =>
    have tail := ih (by simpa using last)
    obtain ⟨x, xs, split, -⟩ := splitPair_eq_cons c (e :: t)
    rw [List.cons_append, List.cons_append, splitPair, if_neg single, ← List.cons_append, tail,
      head (by simp [split]), splitPair, if_neg single]

theorem cutPair?_append (h : NoPair c x) (last : x.getLast? ≠ some c) (r : Text) :
    cutPair? c c (x ++ c :: c :: r) = some (x, r) := by
  induction x with
  | nil => simp [cutPair?]
  | cons d y ih =>
    rcases y with _ | ⟨e, y⟩
    · have single : d ≠ c := fun same => last (by simp [same])
      simp [cutPair?, single]
    · obtain ⟨single, rest⟩ := noPair_cons_cons.1 h
      have tail := ih rest (by simpa using last)
      rw [List.cons_append, List.cons_append, cutPair?, if_neg single, ← List.cons_append, tail]
      rfl

theorem cutPair?_eq_some_iff {r : Text} :
    cutPair? c c t = some (x, r) ↔ t = x ++ c :: c :: r ∧ NoPair c (x ++ [c]) := by
  constructor
  · intro h
    induction t using splitPair.induct c c generalizing x with
    | case1 => contradiction
    | case2 => contradiction
    | case3 d e t pair =>
      rw [cutPair?, if_pos pair] at h
      cases h
      obtain ⟨rfl, rfl⟩ := pair
      exact ⟨rfl, noPair_singleton _ _⟩
    | case4 d e t single ih =>
      rw [cutPair?, if_neg single] at h
      obtain ⟨⟨y, r'⟩, cut, same⟩ := Option.map_eq_some_iff.1 h
      cases same
      obtain ⟨tail, no_pair⟩ := ih cut
      refine ⟨congrArg (d :: ·) tail, ?_⟩
      -- What follows `d` begins with `e`, whether the cut is right behind it or not.
      rcases y with _ | ⟨e', y⟩
      · obtain ⟨rfl, -⟩ := List.cons.inj tail
        exact noPair_cons_cons.2 ⟨single, no_pair⟩
      · obtain ⟨rfl, -⟩ := List.cons.inj tail
        exact noPair_cons_cons.2 ⟨single, no_pair⟩
  · rintro ⟨rfl, no_pair⟩
    refine cutPair?_append (no_pair.of_part (List.prefix_append x [c]).isInfix) ?_ r
    intro last
    exact (List.isChain_append.1 no_pair).2.2 c last c rfl ⟨rfl, rfl⟩

theorem noPair_of_mem_splitPair (h : x ∈ splitPair c c t) : NoPair c x := by
  obtain ⟨y, ys, split, -, pieces⟩ := splitPair_eq_cons c t
  exact pieces x (split ▸ h)

/-- What a segment of a text is, and what a segment must be to be found again. -/
structure IsSegment (x : Text) : Prop where
  nonempty : x ≠ []
  trimmed : Trimmed x
  no_bars : NoPair '|' x

theorem isSegment_of_mem (h : x ∈ segments t) : IsSegment x := by
  rw [segments, List.mem_filter, List.mem_map] at h
  obtain ⟨⟨piece, hp, rfl⟩, nonempty⟩ := h
  have no_bars := (noPair_of_mem_splitPair hp).of_part (trim_part piece)
  exact ⟨by simpa using nonempty, trimmed_trim piece, no_bars⟩

theorem segments_intercalate {xs : List Text} (parts : ∀ x ∈ xs, IsSegment x)
    (last : ∀ x ∈ xs.dropLast, x.getLast? ≠ some '|') :
    segments (List.intercalate "||".toList xs) = xs := by
  rcases xs with _ | ⟨x, xs⟩
  · decide
  · have split : splitPair '|' '|' (List.intercalate "||".toList (x :: xs)) = x :: xs := by
      induction xs generalizing x with
      | nil =>
        rw [List.intercalate_singleton]
        exact splitPair_of_noPair (parts x (by simp)).no_bars
      | cons y ys ih =>
        have rest := ih y (fun z hz => parts z (by simp [hz])) fun z hz => last z (by simp_all)
        rw [List.intercalate_cons_cons, List.append_assoc]
        show splitPair '|' '|' (x ++ '|' :: '|' :: List.intercalate "||".toList (y :: ys)) = _
        rw [splitPair_append (last x (by simp)), rest,
          splitPair_of_noPair (parts x (by simp)).no_bars]
        rfl
    have kept : ((x :: xs).map trim).filter (· ≠ []) = x :: xs := by
      have same : (x :: xs).map trim = x :: xs :=
        (List.map_congr_left fun y hy => (parts y hy).trimmed.trim_eq).trans (List.map_id _)
      rw [same]
      exact List.filter_eq_self.2 fun y hy => by simpa using (parts y hy).nonempty
    rw [segments, split, kept]

theorem segments_of_isSegment (h : IsSegment x) : segments x = [x] := by
  have parts : ∀ y ∈ [x], IsSegment y := by simpa using h
  have one := segments_intercalate parts (by simp)
  rwa [List.intercalate_singleton] at one

theorem segments_concat_space (h : IsSegment x) : segments (x ++ [' ']) = [x] := by
  have whole : NoPair '|' (x ++ [' ']) := h.no_bars.append (noPair_singleton _ _) (.inr (by simp))
  rw [segments, splitPair_of_noPair whole, List.map_singleton,
    trim_concat_blank (by decide) h.trimmed]
  exact List.filter_eq_self.2 (by simp [h.nonempty])

theorem segments_append (last : t.getLast? ≠ some '|') (r : Text) :
    segments (t ++ '|' :: '|' :: r) = segments t ++ segments r := by
  rw [segments, splitPair_append last, List.map_append, List.filter_append]
  rfl

end Logbook.Text
