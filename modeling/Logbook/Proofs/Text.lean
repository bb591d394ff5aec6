import Mathlib.Data.List.DropRight
import Mathlib.Data.List.Infix
import Logbook.Text.Basic

/-! Laws of trimming, joining and cutting texts, and of their length in bytes. -/

namespace Logbook

theorem intercalate_append {α : Type} (sep : List α) {xs ys : List (List α)} (hx : xs ≠ [])
    (hy : ys ≠ []) :
    sep.intercalate (xs ++ ys) = sep.intercalate xs ++ sep ++ sep.intercalate ys := by
  induction xs with
  | nil => exact absurd rfl hx
  | cons x xs ih =>
    rcases xs with _ | ⟨x', xs⟩
    · rw [List.singleton_append, List.intercalate_cons_of_ne_nil hy, List.intercalate_singleton]
    · have tail : x' :: xs ≠ [] := List.cons_ne_nil x' xs
      rw [List.cons_append, List.intercalate_cons_of_ne_nil (by simp), ih tail,
        List.intercalate_cons_of_ne_nil tail]
      simp only [List.append_assoc]

theorem intercalate_flatten {α : Type} (sep : List α) {groups : List (List (List α))}
    (nonempty : ∀ g ∈ groups, g ≠ []) :
    sep.intercalate (groups.map sep.intercalate) = sep.intercalate groups.flatten := by
  induction groups with
  | nil => rfl
  | cons g gs ih =>
    have hg : g ≠ [] := nonempty g (by simp)
    have rest := ih fun g' hg' => nonempty g' (by simp [hg'])
    rcases gs with _ | ⟨g', gs⟩
    · simp [List.intercalate_singleton]
    · have hg' : g' ≠ [] := nonempty g' (by simp)
      rw [List.map_cons, List.intercalate_cons_of_ne_nil (by simp), rest,
        List.flatten_cons (l := g), intercalate_append sep hg (by simp [hg'])]

namespace Text

theorem trimEnd_eq_rdropWhile (t : Text) : trimEnd t = t.rdropWhile isBlank := rfl

theorem trimEnd_front (t : Text) : trimEnd t <+: t := List.rdropWhile_prefix isBlank t

theorem trim_part (t : Text) : trim t <:+: t :=
  (trimEnd_front _).isInfix.trans (List.dropWhile_suffix isBlank).isInfix

theorem trim_eq_nil_iff {t : Text} : trim t = [] ↔ ∀ c ∈ t, isBlank c = true := by
  rw [trim, trimEnd_eq_rdropWhile, List.rdropWhile_eq_nil_iff]
  constructor
  · intro h
    have start : trimStart t = [] := by
      by_contra left
      have first : isBlank _ = true := h _ (List.head_mem left)
      exact absurd first (by simp [trimStart, List.head_dropWhile_not])
    exact List.dropWhile_eq_nil_iff.1 start
  · intro h c hc
    exact h c ((List.dropWhile_suffix isBlank).subset hc)

def Trimmed (t : Text) : Prop :=
  (∀ c, t.head? = some c → isBlank c = false) ∧ ∀ c, t.getLast? = some c → isBlank c = false

theorem trimStart_eq {t : Text} (opens : ∀ c, t.head? = some c → isBlank c = false) :
    trimStart t = t := by
  rcases t with _ | ⟨c, r⟩
  · rfl
  · exact List.dropWhile_cons_of_neg (by simp [opens c rfl])

theorem trim_prefix {t : Text} (opens : ∀ c, t.head? = some c → isBlank c = false) :
    trim t <+: t := by
  rw [trim, trimStart_eq opens]
  exact trimEnd_front t

theorem Trimmed.trim_eq {t : Text} (h : Trimmed t) : trim t = t := by
  rw [trim, trimStart_eq h.1, trimEnd_eq_rdropWhile, List.rdropWhile_eq_self_iff]
  intro nonempty
  simp [h.2 _ (List.getLast?_eq_some_getLast nonempty)]

theorem nonblank?_of_trimmed {t : Text} (nonempty : t ≠ []) (trimmed : Trimmed t) :
    nonblank? t = some t := by
  obtain ⟨c, r, rfl⟩ := List.exists_cons_of_ne_nil nonempty
  rw [nonblank?, trimmed.trim_eq]

theorem trimmed_of_sharp {t : Text} (h : ∀ c ∈ t, isBlank c = false) : Trimmed t :=
  ⟨fun c hc => h c (List.mem_of_head? hc), fun c hc => h c (List.mem_of_getLast? hc)⟩

theorem not_isBlank_of_getLast?_trimEnd {t : Text} {c : Char} (h : (trimEnd t).getLast? = some c) :
    isBlank c = false := by
  have nonempty : trimEnd t ≠ [] := by
    rintro nothing
    simp [nothing] at h
  have last := List.rdropWhile_last_not isBlank t nonempty
  rw [List.getLast?_eq_some_getLast nonempty] at h
  cases h
  exact Bool.eq_false_iff.2 last

theorem trimmed_trimEnd {t : Text} (opens : ∀ c, t.head? = some c → isBlank c = false) :
    Trimmed (trimEnd t) := by
  refine ⟨fun c hc => opens c ?_, fun _ hc => not_isBlank_of_getLast?_trimEnd hc⟩
  obtain ⟨r, hr⟩ := trimEnd_front t
  rw [← hr, List.head?_append, hc, Option.some_or]

theorem trimmed_trim (t : Text) : Trimmed (trim t) :=
  trimmed_trimEnd fun c hc => by
    have first : (t.dropWhile isBlank).head? = some c := hc
    simpa [first] using List.head?_dropWhile_not isBlank t

theorem trim_trim (t : Text) : trim (trim t) = trim t := (trimmed_trim t).trim_eq

theorem trimEnd_concat {c : Char} (h : isBlank c = false) (t : Text) :
    trimEnd (t ++ [c]) = t ++ [c] := by
  rw [trimEnd_eq_rdropWhile, List.rdropWhile_concat_neg _ _ _ (by simp [h])]

theorem trim_concat_blank {c : Char} (h : isBlank c = true) {t : Text} (trimmed : Trimmed t) :
    trim (t ++ [c]) = t := by
  rcases t with _ | ⟨d, r⟩
  · exact trim_eq_nil_iff.2 (by simpa using h)
  · have start : trimStart (d :: r ++ [c]) = d :: r ++ [c] :=
      trimStart_eq fun e he => trimmed.1 e (by simpa using he)
    have same : trimEnd (d :: r) = d :: r := by
      simpa only [trim, trimStart_eq trimmed.1] using trimmed.trim_eq
    rw [trim, start, trimEnd_eq_rdropWhile, List.rdropWhile_concat_pos _ _ _ h,
      ← trimEnd_eq_rdropWhile, same]

theorem splitOn_cons_self (d : Char) (t : Text) : (d :: t).splitOn d = [] :: t.splitOn d := by
  simp [List.splitOn_eq_splitOnP, List.splitOnP_cons_eq_if_modifyHead]

theorem splitOn_cons {c d : Char} (h : c ≠ d) (t : Text) :
    ∃ piece pieces, t.splitOn d = piece :: pieces ∧
      (c :: t).splitOn d = (c :: piece) :: pieces := by
  obtain ⟨piece, pieces, same⟩ := List.exists_cons_of_ne_nil (List.splitOn_ne_nil d t)
  refine ⟨piece, pieces, same, ?_⟩
  rw [List.splitOn_eq_splitOnP] at same ⊢
  rw [List.splitOnP_cons_eq_if_modifyHead, if_neg (by simpa using h), same]
  rfl

theorem notMem_of_mem_splitOn {d : Char} {t piece : Text} (h : piece ∈ t.splitOn d) :
    d ∉ piece := by
  induction t generalizing piece with
  | nil => simp_all
  | cons c t ih =>
    by_cases same : c = d
    · rw [same, splitOn_cons_self, List.mem_cons] at h
      rcases h with rfl | h
      · exact List.not_mem_nil
      · exact ih h
    · obtain ⟨first, more, before, after⟩ := splitOn_cons same t
      rw [before] at ih
      rw [after, List.mem_cons] at h
      rcases h with rfl | h
      · rw [List.mem_cons, not_or]
        exact ⟨Ne.symm same, ih (by simp)⟩
      · exact ih (by simp [h])

theorem cut?_append {c : Char} {x : Text} (h : c ∉ x) (r : Text) :
    cut? c (x ++ c :: r) = some (x, r) := by
  induction x with
  | nil => simp [cut?]
  | cons d x ih =>
    rw [List.mem_cons, not_or] at h
    rw [List.cons_append, cut?, if_neg (Ne.symm h.1), ih h.2]
    rfl

theorem eq_of_cut? {c : Char} {t a b : Text} (h : cut? c t = some (a, b)) : t = a ++ c :: b := by
  induction t generalizing a with
  | nil => contradiction
  | cons d t ih =>
    rw [cut?] at h
    split at h
    · next same =>
      cases h
      rw [same]
      rfl
    · obtain ⟨⟨a', b'⟩, later, same⟩ := Option.map_eq_some_iff.1 h
      cases same
      exact congrArg (d :: ·) (ih later)

theorem utf8Length_append (s t : Text) : utf8Length (s ++ t) = utf8Length s + utf8Length t := by
  induction s with
  | nil => simp [utf8Length]
  | cons c s ih => rw [List.cons_append, utf8Length, ih, utf8Length, Nat.add_assoc]

theorem utf8Length_pos {t : Text} (h : t ≠ []) : 0 < utf8Length t := by
  obtain ⟨c, r, rfl⟩ := List.exists_cons_of_ne_nil h
  rw [utf8Length]
  exact Nat.add_pos_left c.utf8Size_pos _

theorem utf8Length_le_iff {s s' t : Text} (h : s <+: t) (h' : s' <+: t) :
    utf8Length s ≤ utf8Length s' ↔ s <+: s' := by
  constructor
  · intro le
    rcases List.prefix_or_prefix_of_prefix h h' with front | ⟨more, rfl⟩
    · exact front
    · by_cases nothing : more = []
      · simp [nothing]
      · have longer := utf8Length_pos nothing
        rw [utf8Length_append] at le
        omega
  · rintro ⟨more, rfl⟩
    rw [utf8Length_append]
    exact Nat.le_add_right ..

end Text
end Logbook
