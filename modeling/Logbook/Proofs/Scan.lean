import Mathlib.Data.List.TakeWhile
import Logbook.Text.Scan

/-! What the scanners do with a text whose front is known. -/

namespace Logbook

def Text.Alike (v w : Text) : Prop := v.map foldChar = w.map foldChar

namespace Scan

/-- No character with `p` comes first. -/
def Stops (p : Char → Bool) (t : Text) : Prop := ∀ c, t.head? = some c → p c = false

theorem stops_nil (p : Char → Bool) : Stops p [] := by simp [Stops]

theorem stops_cons {p : Char → Bool} {c : Char} (h : p c = false) (r : Text) :
    Stops p (c :: r) := by
  simpa [Stops] using h

theorem Stops.takeWhile {p : Char → Bool} {t : Text} (h : Stops p t) : t.takeWhile p = [] := by
  rcases t with _ | ⟨c, r⟩
  · rfl
  · exact List.takeWhile_cons_of_neg (by simp [h c rfl])

theorem Stops.dropWhile {p : Char → Bool} {t : Text} (h : Stops p t) : t.dropWhile p = t := by
  rcases t with _ | ⟨c, r⟩
  · rfl
  · exact List.dropWhile_cons_of_neg (by simp [h c rfl])

theorem Stops.dropWhile_append {p : Char → Bool} {r : Text} (h : Stops p r) (w : Text) :
    (w ++ r).dropWhile p = w.dropWhile p ++ r := by
  rw [List.dropWhile_append, h.dropWhile]
  split
  · next all => rw [List.isEmpty_iff.1 all, List.nil_append]
  · rfl

theorem Stops.take {p : Char → Bool} {t : Text} (h : Stops p t) (n : Nat) : Stops p (t.take n) := by
  rcases t with _ | ⟨c, r⟩
  · simpa using stops_nil p
  · cases n with
    | zero => exact stops_nil p
    | succ n => exact stops_cons (h c rfl) _

theorem run_bind_eq_some {α β : Type} {s : Scan α} {f : α → Scan β} {t r : Text} {b : β} :
    (s >>= f).run t = some (b, r) ↔
      ∃ a t', s.run t = some (a, t') ∧ (f a).run t' = some (b, r) := by
  rw [StateT.run_bind, Option.bind_eq_bind, Option.bind_eq_some_iff, Prod.exists]

theorem run_bind_of_some {α β : Type} {s : Scan α} {f : α → Scan β} {t r : Text} {a : α}
    (h : s.run t = some (a, r)) : (s >>= f).run t = (f a).run r := by
  rw [StateT.run_bind, h]
  rfl

theorem run_bind_of_none {α β : Type} {s : Scan α} {f : α → Scan β} {t : Text}
    (h : s.run t = none) : (s >>= f).run t = none := by
  rw [StateT.run_bind, h]
  rfl

variable {p : Char → Bool} {w r : Text}

theorem run_many_eq (p : Char → Bool) (t : Text) :
    (many p).run t = some (t.takeWhile p, t.dropWhile p) := rfl

theorem run_many (all : ∀ c ∈ w, p c = true) (stops : Stops p r) :
    (many p).run (w ++ r) = some (w, r) := by
  rw [run_many_eq, List.takeWhile_append_of_pos all, List.dropWhile_append_of_pos all,
    stops.takeWhile, stops.dropWhile, List.append_nil]

theorem run_many1_eq (p : Char → Bool) (t : Text) :
    (many1 p).run t =
      if t.takeWhile p = [] then none else some (t.takeWhile p, t.dropWhile p) := by
  rw [StateT.run, many1]
  split
  · next empty => rw [if_pos empty]
  · next nonempty => rw [if_neg nonempty]

theorem run_many1 (nonempty : w ≠ []) (all : ∀ c ∈ w, p c = true) (stops : Stops p r) :
    (many1 p).run (w ++ r) = some (w, r) := by
  have run : (w ++ r).takeWhile p = w := by
    rw [List.takeWhile_append_of_pos all, stops.takeWhile, List.append_nil]
  have rest : (w ++ r).dropWhile p = r := by
    rw [List.dropWhile_append_of_pos all, stops.dropWhile]
  rw [run_many1_eq, run, rest, if_neg nonempty]

theorem run_many1_eq_some {t : Text} :
    (many1 p).run t = some (w, r) ↔
      t = w ++ r ∧ w ≠ [] ∧ (∀ c ∈ w, p c = true) ∧ Stops p r := by
  constructor
  · intro run
    rw [run_many1_eq] at run
    split at run
    · contradiction
    · next nonempty =>
      cases run
      refine ⟨(List.takeWhile_append_dropWhile ..).symm, nonempty, fun c => List.mem_takeWhile_imp,
        fun c head => ?_⟩
      simpa [head] using List.head?_dropWhile_not p t
  · rintro ⟨rfl, nonempty, all, stops⟩
    exact run_many1 nonempty all stops

theorem run_blanks1 {c : Char} (blank : Text.isBlank c = true) (stops : Stops Text.isBlank r) :
    blanks1.run (c :: r) = some ((), r) := by
  have run := run_many1 (w := [c]) (by simp) (by simpa using blank) stops
  rw [List.singleton_append] at run
  simp [blanks1, run]

theorem run_satisfy_cons (c : Char) (r : Text) :
    (satisfy p).run (c :: r) = if p c then some (c, r) else none := rfl

theorem run_satisfy_of_pos {c : Char} (h : p c = true) (r : Text) :
    (satisfy p).run (c :: r) = some (c, r) := by
  rw [run_satisfy_cons, if_pos h]

theorem run_satisfy_of_stops (stops : Stops p r) : (satisfy p).run r = none := by
  rcases r with _ | ⟨c, r⟩
  · rfl
  · rw [run_satisfy_cons, stops c rfl]
    rfl

theorem run_satisfy_eq_some {t : Text} {c : Char} :
    (satisfy p).run t = some (c, r) ↔ t = c :: r ∧ p c = true := by
  constructor
  · intro run
    rcases t with _ | ⟨d, t⟩
    · contradiction
    · rw [run_satisfy_cons, Option.ite_none_right_eq_some] at run
      obtain ⟨holds, same⟩ := run
      cases same
      exact ⟨rfl, holds⟩
  · rintro ⟨rfl, holds⟩
    exact run_satisfy_of_pos holds r

theorem run_char_cons (c : Char) (r : Text) : (char c).run (c :: r) = some ((), r) := by
  simp [char, run_satisfy_cons]

theorem run_char_of_ne {c d : Char} (h : d ≠ c) (r : Text) : (char c).run (d :: r) = none := by
  simp [char, run_satisfy_cons, h]

theorem run_char_eq_some {c : Char} {t r : Text} {u : Unit} :
    (char c).run t = some (u, r) ↔ t = c :: r := by
  constructor
  · intro run
    obtain ⟨d, r', first, same⟩ := run_bind_eq_some.1 run
    cases same
    obtain ⟨rfl, is_c⟩ := run_satisfy_eq_some.1 first
    rw [of_decide_eq_true is_c]
  · rintro rfl
    exact run_char_cons c r

theorem run_perhaps (s : Scan α) (t : Text) :
    (perhaps s).run t = match s.run t with
      | some (a, r) => some (some a, r)
      | none => some (none, t) := rfl

theorem run_perhaps_of_some {s : Scan α} {t : Text} {a : α} (h : s.run t = some (a, r)) :
    (perhaps s).run t = some (some a, r) := by
  rw [run_perhaps, h]

theorem run_perhaps_of_none {s : Scan α} {t : Text} (h : s.run t = none) :
    (perhaps s).run t = some (none, t) := by
  rw [run_perhaps, h]

theorem run_perhaps_eq_some {s : Scan α} {t : Text} {found : Option α}
    (h : (perhaps s).run t = some (found, r)) :
    found = none ∧ r = t ∨ ∃ a, found = some a ∧ s.run t = some (a, r) := by
  cases run : s.run t with
  | none =>
    rw [run_perhaps_of_none run] at h
    cases h
    exact .inl ⟨rfl, rfl⟩
  | some result =>
    obtain ⟨a, r'⟩ := result
    rw [run_perhaps_of_some run] at h
    cases h
    exact .inr ⟨a, rfl, rfl⟩

theorem run_perhaps_elim {s : Scan α} {text : α → Text} {found : Option α}
    (missing : s.run r = none) (given : ∀ a ∈ found, s.run (text a ++ r) = some (a, r)) :
    (perhaps s).run (found.elim [] text ++ r) = some (found, r) := by
  cases found with
  | none => exact run_perhaps_of_none missing
  | some a => exact run_perhaps_of_some (given a rfl)

theorem run_first_cons (s : Scan α) (ss : List (Scan α)) (t : Text) :
    (first (s :: ss)).run t = (s.run t <|> (first ss).run t) := rfl

theorem run_first_append {ss ss' : List (Scan α)} {t : Text} (h : ∀ s ∈ ss, s.run t = none) :
    (first (ss ++ ss')).run t = (first ss').run t := by
  induction ss with
  | nil => rfl
  | cons s ss ih =>
    rw [List.forall_mem_cons] at h
    rw [List.cons_append, run_first_cons, h.1, ih h.2]
    rfl

theorem run_first_eq_some {ss : List (Scan α)} {t : Text} {a : α}
    (h : (first ss).run t = some (a, r)) : ∃ s ∈ ss, s.run t = some (a, r) := by
  induction ss with
  | nil => contradiction
  | cons s ss ih =>
    rw [run_first_cons] at h
    cases here : s.run t with
    | some result =>
      rw [here] at h
      exact ⟨s, by simp, here.trans h⟩
    | none =>
      rw [here] at h
      obtain ⟨s', hs', run⟩ := ih h
      exact ⟨s', by simp [hs'], run⟩

theorem run_first_eq_none {ss : List (Scan α)} {t : Text} (h : (first ss).run t = none) :
    ∀ s ∈ ss, s.run t = none := by
  induction ss with
  | nil => exact List.forall_mem_nil _
  | cons s ss ih =>
    rw [run_first_cons] at h
    cases here : s.run t with
    | some result =>
      rw [here] at h
      contradiction
    | none =>
      rw [here] at h
      exact List.forall_mem_cons.2 ⟨here, ih h⟩

theorem run_keyword_eq_some {t : Text} {u : Unit} :
    (keyword w).run t = some (u, r) ↔ ∃ v, t = v ++ r ∧ Text.Alike v w := by
  induction w generalizing t with
  | nil =>
    constructor
    · intro run
      cases run
      exact ⟨[], rfl, rfl⟩
    · rintro ⟨v, rfl, alike⟩
      obtain rfl : v = [] := List.map_eq_nil_iff.1 alike
      rfl
  | cons c w ih =>
    rw [keyword, run_bind_eq_some]
    constructor
    · rintro ⟨d, t', first, rest⟩
      obtain ⟨v, rfl, alike⟩ := ih.1 rest
      obtain ⟨rfl, same⟩ := run_satisfy_eq_some.1 first
      exact ⟨d :: v, rfl, by simpa [Text.Alike] using ⟨of_decide_eq_true same, alike⟩⟩
    · rintro ⟨v, rfl, alike⟩
      obtain ⟨d, v, rfl, same, alike⟩ := List.map_eq_cons_iff.1 alike
      exact ⟨d, v ++ r, run_satisfy_of_pos (decide_eq_true same) _, ih.2 ⟨v, rfl, alike⟩⟩

theorem result?_eq_some {s : Scan α} {t : Text} {a : α} :
    result? s t = some a ↔ ∃ r, s.run t = some (a, r) := by
  simp [result?]

end Scan
end Logbook
