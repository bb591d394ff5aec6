import Logbook.Proofs.Finding

/-! Which stamp of a line is found. The kinds come in an order of their own, and only among the
stamps of the first kind that occurs does the place in the line count. One kind is never found,
since one that comes before it is a part of it. -/

namespace Logbook

namespace Stamp

open Scan

theorem Piece.run_of_front {p : Piece} {a : Text} (fits : p.Fits a) (r : Text) :
    ∃ a' r', p.scan.run (a ++ r) = some (a', r') ∧ a <+: a' := by
  cases p with
  | digits least most =>
    obtain ⟨long, short, digits⟩ := fits
    have front : a <+: ((a ++ r).take most).takeWhile Text.isDigit := by
      rw [List.take_append, List.take_of_length_le short, List.takeWhile_append_of_pos digits]
      exact List.prefix_append ..
    exact ⟨_, _, if_pos (long.trans front.length_le), front⟩
  | mark c =>
    obtain rfl : a = [c] := fits
    exact ⟨[c], r, by simp [Piece.scan, run_char_cons], List.prefix_rfl⟩

namespace Pattern

theorem run_of_front {p : Pattern} {q : Piece} {a : Text} (fixed : p.IsFixed)
    (fits : Fits (p ++ [q]) a) (r : Text) :
    ∃ a' r', (scan (p ++ [q])).run (a ++ r) = some (a', r') ∧ a <+: a' := by
  obtain ⟨b, _, rfl, front, d, _, rfl, last, rfl⟩ := fits_append.1 fits
  obtain ⟨d', r', run, more⟩ := Piece.run_of_front last r
  have tail : (scan [q]).run (d ++ r) = some (d', r') := by simp [scan, run]
  rw [List.append_nil, List.append_assoc]
  exact ⟨b ++ d', r', run_append fixed front tail, (List.prefix_append_right_inj b).2 more⟩

theorem locate_eq_some {p : Pattern} {t b a : Text} (h : p.locate t = some (b, a)) :
    (∃ r, t = b ++ a ++ r ∧ (scan p).run (a ++ r) = some (a, r)) ∧
    ∀ b' t', t = b' ++ t' → ((scan p).run t').isSome → b <+: b' := by
  induction t generalizing b with
  | nil =>
    rw [locate] at h
    obtain ⟨⟨a', r⟩, run, same⟩ := Option.map_eq_some_iff.1 h
    cases same
    have whole := (fits_of_run run).1
    exact ⟨⟨r, whole, whole ▸ run⟩, fun b' _ _ _ => List.nil_prefix⟩
  | cons c t ih =>
    rw [locate] at h
    split at h
    · next covered r here =>
      cases h
      have whole := (fits_of_run here).1
      exact ⟨⟨r, whole, whole ▸ here⟩, fun b' _ _ _ => List.nil_prefix⟩
    · next missing =>
      obtain ⟨⟨b₀, a'⟩, later, same⟩ := Option.map_eq_some_iff.1 h
      cases same
      obtain ⟨⟨r, whole, run⟩, first⟩ := ih later
      refine ⟨⟨r, congrArg (c :: ·) whole, run⟩, fun b' t' split found => ?_⟩
      rcases b' with _ | ⟨c', b'⟩
      · obtain rfl : c :: t = t' := split
        rw [StateT.run, missing] at found
        contradiction
      · obtain ⟨rfl, rfl⟩ := List.cons.inj split
        exact List.cons_prefix_cons.2 ⟨rfl, first b' t' rfl found⟩

end Pattern

namespace Kind

def At (k : Kind) (line before a : Text) : Prop :=
  k.pattern.Fits a ∧ ∃ after, line = before ++ a ++ after

def Occurs (k : Kind) (line : Text) : Prop := ∃ before a, k.At line before a

def Before (k k' : Kind) : Prop := Kind.all.idxOf k < Kind.all.idxOf k'

theorem run_of_fits {k : Kind} {a : Text} (fits : k.pattern.Fits a) (r : Text) :
    ∃ a' r', (Pattern.scan k.pattern).run (a ++ r) = some (a', r') ∧ a <+: a' := by
  have opens : ∃ (p : Pattern) (q : Piece), k.pattern = p ++ [q] ∧ p.IsFixed := by
    have front : ∀ k ∈ Kind.all, Pattern.IsFixed k.pattern.dropLast := by decide
    have nonempty : k.pattern ≠ [] := by cases k <;> simp [pattern, Pattern.clock]
    exact ⟨_, _, (List.dropLast_append_getLast nonempty).symm, front k k.mem_all⟩
  obtain ⟨p, q, same, fixed⟩ := opens
  rw [same] at fits ⊢
  exact Pattern.run_of_front fixed fits r

theorem ne_nil_of_fits {k : Kind} {a : Text} (fits : k.pattern.Fits a) : a ≠ [] := by
  obtain ⟨c, r, rfl, -⟩ := head_of_fits fits
  exact List.cons_ne_nil c r

theorem locate_isSome_iff {k : Kind} {line : Text} :
    (k.pattern.locate line).isSome ↔ k.Occurs line := by
  rw [Pattern.locate_isSome_iff]
  constructor
  · rintro ⟨rest, ⟨before, rfl⟩, found⟩
    obtain ⟨⟨a, r⟩, run⟩ := Option.isSome_iff_exists.1 found
    obtain ⟨rfl, fits⟩ := Pattern.fits_of_run run
    exact ⟨before, a, fits, r, by rw [List.append_assoc]⟩
  · rintro ⟨before, a, fits, after, rfl⟩
    obtain ⟨a', r', run, -⟩ := run_of_fits fits after
    exact ⟨a ++ after, ⟨before, by rw [List.append_assoc]⟩, by rw [run]; rfl⟩

theorem timeDotMillis_occurs {line : Text} (h : isoMillis.Occurs line) :
    timeDotMillis.Occurs line := by
  obtain ⟨before, a, fits, after, rfl⟩ := h
  have parts : isoMillis.pattern = (Pattern.date ++ [.mark 'T']) ++ timeDotMillis.pattern := rfl
  rw [parts] at fits
  obtain ⟨day, time, rfl, -, time_fits⟩ := Pattern.fits_append.1 fits
  exact ⟨before ++ day, time, time_fits, after, by simp⟩

theorem before_iff {k k' : Kind} {front more : List Kind} (h : Kind.all = front ++ k' :: more) :
    k.Before k' ↔ k ∈ front := by
  have nodup : (front ++ k' :: more).Nodup := h ▸ by decide
  have absent : k' ∉ front := fun member =>
    List.disjoint_of_nodup_append nodup member List.mem_cons_self
  have place : Kind.all.idxOf k' = front.length := by
    rw [h, List.idxOf_append_of_notMem absent, List.idxOf_cons_self, Nat.add_zero]
  rw [Before, place, h]
  by_cases member : k ∈ front
  · rw [List.idxOf_append_of_mem member]
    exact iff_of_true (List.idxOf_lt_length_of_mem member) member
  · rw [List.idxOf_append_of_notMem member]
    exact iff_of_false (by omega) member

end Kind

structure IsEarliest (line : Text) (s : Stamp) : Prop where
  here : s.kind.At line s.before s.text
  first_kind : ∀ k : Kind, k.Before s.kind → ¬ k.Occurs line
  leftmost : ∀ before a, s.kind.At line before a → s.start ≤ Text.utf8Length before
  longest : ∀ a, s.kind.At line s.before a → a <+: s.text

theorem isEarliest_of_find? {line : Text} {s : Stamp} (h : find? line = some s) :
    IsEarliest line s := by
  obtain ⟨front, k, more, all, found, missing⟩ := List.findSome?_eq_some_iff.1 h
  obtain ⟨⟨before, a⟩, located, rfl⟩ := Option.map_eq_some_iff.1 found
  obtain ⟨⟨r, whole, run⟩, first⟩ := Pattern.locate_eq_some located
  constructor
  · exact ⟨(Pattern.fits_of_locate located).1, r, whole⟩
  · intro k' earlier occurs
    have none := missing k' ((Kind.before_iff all).1 earlier)
    rw [findKind?, Option.map_eq_none_iff] at none
    have some := Kind.locate_isSome_iff.2 occurs
    rw [none] at some
    contradiction
  · rintro before' a' ⟨fits, after, split⟩
    obtain ⟨_, _, run', -⟩ := Kind.run_of_fits fits after
    have front := first before' (a' ++ after) (by rw [split, List.append_assoc]) (by rw [run']; rfl)
    have inside : before' <+: line := ⟨a' ++ after, by rw [split, List.append_assoc]⟩
    exact (Text.utf8Length_le_iff (front.trans inside) inside).2 front
  · rintro a' ⟨fits, after, split⟩
    obtain ⟨a'', _, run', longer⟩ := Kind.run_of_fits fits after
    have same : a ++ r = a' ++ after := by
      rw [whole, List.append_assoc, List.append_assoc] at split
      exact List.append_cancel_left split
    rw [← same, run] at run'
    cases run'
    exact longer

theorem IsEarliest.unique {line : Text} {s s' : Stamp} (h : IsEarliest line s)
    (h' : IsEarliest line s') : s = s' := by
  obtain ⟨k, before, a⟩ := s
  obtain ⟨k', before', a'⟩ := s'
  obtain ⟨r, whole⟩ := h.here.2
  obtain ⟨r', whole'⟩ := h'.here.2
  have kinds : k = k' := by
    have le : ¬ k.Before k' := fun earlier => h'.first_kind k earlier ⟨_, _, h.here⟩
    have ge : ¬ k'.Before k := fun earlier => h.first_kind k' earlier ⟨_, _, h'.here⟩
    exact List.idxOf_inj k.mem_all |>.1 (le_antisymm (not_lt.1 ge) (not_lt.1 le))
  subst kinds
  have front : before <+: line := ⟨a ++ r, by rw [whole, List.append_assoc]⟩
  have front' : before' <+: line := ⟨a' ++ r', by rw [whole', List.append_assoc]⟩
  have places : before = before' := by
    have le := (Text.utf8Length_le_iff front front').1 (h.leftmost before' a' h'.here)
    have ge := (Text.utf8Length_le_iff front' front).1 (h'.leftmost before a h.here)
    exact le.eq_of_length_le ge.length_le
  subst places
  have texts : a = a' :=
    (h'.longest a h.here).eq_of_length_le (h.longest a' h'.here).length_le
  rw [texts]

theorem find?_isSome_iff_occurs {line : Text} :
    (find? line).isSome ↔ ∃ k : Kind, k.Occurs line := by
  simp only [find?, List.findSome?_isSome_iff, findKind?, Option.isSome_map,
    Kind.locate_isSome_iff, Kind.mem_all, true_and]

theorem find?_eq_some_iff {line : Text} {s : Stamp} :
    find? line = some s ↔ IsEarliest line s := by
  constructor
  · exact isEarliest_of_find?
  · intro h
    have found : (find? line).isSome := find?_isSome_iff_occurs.2 ⟨_, _, _, h.here⟩
    obtain ⟨s', same⟩ := Option.isSome_iff_exists.1 found
    rw [same, h.unique (isEarliest_of_find? same)]

theorem IsEarliest.kind_ne {line : Text} {s : Stamp} (h : IsEarliest line s) :
    s.kind ≠ .isoMillis := by
  intro same
  have occurs : Kind.isoMillis.Occurs line := ⟨_, _, same ▸ h.here⟩
  exact h.first_kind .timeDotMillis (by rw [same]; unfold Kind.Before; decide)
    (Kind.timeDotMillis_occurs occurs)

/-- A line has a stamp just in case one of the kinds occurs in it. The stamp is of the first kind
that does, the leftmost of that kind, and as long as it can be. It is never a stamp with the letter
T and a fraction, since where one is, a time of day with a fraction is too. -/
theorem find?_earliest (line : Text) :
    ((find? line).isSome ↔ ∃ k : Kind, k.Occurs line) ∧
    (∀ s, find? line = some s ↔ IsEarliest line s) ∧
    (∀ s, find? line = some s → s.text ≠ [] ∧ s.kind ≠ .isoMillis) ∧
    (Kind.isoMillis.Occurs line →
      Kind.timeDotMillis.Occurs line ∧ Kind.timeDotMillis.Before .isoMillis) := by
  refine ⟨find?_isSome_iff_occurs, fun s => find?_eq_some_iff, fun s found => ?_, fun occurs => ?_⟩
  · have earliest := find?_eq_some_iff.1 found
    exact ⟨Kind.ne_nil_of_fits earliest.here.1, earliest.kind_ne⟩
  · exact ⟨Kind.timeDotMillis_occurs occurs, by unfold Kind.Before; decide⟩

theorem find?_earliest_among_four :
    let line := "é10:00:01.250 ٢٠٢٤-05-06T07:08:09.123 2024-05-06 07:08:09.1234567 on".toList
    let s : Stamp := ⟨.dateFraction, "é10:00:01.250 ٢٠٢٤-05-06T07:08:09.123 ".toList,
      "2024-05-06 07:08:09.123456".toList⟩
    find? line = some s ∧ s.start = 43 ∧ (∃ k : Kind, k.Occurs line) ∧ IsEarliest line s ∧
      s.text ≠ [] ∧ s.kind ≠ .isoMillis ∧ Kind.isoMillis.Occurs line ∧
      Kind.timeDotMillis.Occurs line ∧ Kind.timeDotMillis.Before .isoMillis := by
  intro line s
  have found : find? line = some s := by decide +kernel
  have letter : Kind.isoMillis.Occurs line := Kind.locate_isSome_iff.1 (by decide +kernel)
  obtain ⟨occurs, earliest, kinds, times⟩ := find?_earliest line
  exact ⟨found, by decide, occurs.1 (by rw [found]; rfl), (earliest s).1 found, (kinds s found).1,
    (kinds s found).2, letter, times letter⟩

end Stamp
end Logbook
