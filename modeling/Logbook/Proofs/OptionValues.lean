import Mathlib.Data.Option.Basic
import Logbook.Cli.Arguments
import Logbook.Proofs.Digits
import Logbook.Proofs.Text

/-! The values of options. Which ones an option accepts, what it takes from them and what it says of
the others, for each option apart from how it was spelled. -/

namespace Logbook

namespace Numeral

def Spells (t : Text) (n : Nat) : Prop :=
  ∃ digits, (t = digits ∨ t = '+' :: digits) ∧ digits ≠ [] ∧
    (∀ c ∈ digits, c.isDigit = true) ∧ Nat.ofDigitChars 10 digits 0 = n

theorem read_eq_ok_iff {limit n : Nat} {t : Text} :
    read limit t = .ok n ↔ Spells t n ∧ n ≤ limit := by
  constructor
  · intro h
    unfold read at h
    split at h
    · contradiction
    · contradiction
    · next r more =>
      obtain ⟨digits, value⟩ := ofDigitChars_of_readDigits h
      have nonempty : r ≠ [] := by
        rintro rfl
        exact more rfl
      exact ⟨⟨r, .inr rfl, nonempty, digits, value⟩, readDigits_le (Nat.zero_le limit) h⟩
    · next nonempty _ _ =>
      obtain ⟨digits, value⟩ := ofDigitChars_of_readDigits h
      exact ⟨⟨t, .inl rfl, nonempty, digits, value⟩, readDigits_le (Nat.zero_le limit) h⟩
  · rintro ⟨⟨digits, written, nonempty, all, rfl⟩, small⟩
    rcases written with rfl | rfl
    · exact read_of_read? (read?_eq_some nonempty all small)
    · obtain ⟨c, r, rfl⟩ := List.exists_cons_of_ne_nil nonempty
      exact readDigits_eq_ok all small

theorem Spells.unique {t : Text} {m n : Nat} (h : Spells t m) (h' : Spells t n) : m = n := by
  have first := read_eq_ok_iff.2 ⟨h, le_max_left m n⟩
  rw [read_eq_ok_iff.2 ⟨h', le_max_right m n⟩] at first
  exact (Except.ok.inj first).symm

theorem spells_ofNat (n : Nat) : Spells (Text.ofNat n) n :=
  (read_eq_ok_iff.1 (read_of_read? (read?_ofNat le_rfl))).1

end Numeral

theorem mapM_cases {α β ε : Type} (f : α → Except ε β) (xs : List α) :
    (∃ ys, xs.mapM f = .ok ys ∧ List.Forall₂ (fun x y => f x = .ok y) xs ys) ∨
      ∃ x ∈ xs, ∃ e, f x = .error e ∧ xs.mapM f = .error e := by
  induction xs with
  | nil => exact .inl ⟨[], rfl, .nil⟩
  | cons x xs ih =>
    rw [List.mapM_cons]
    cases first : f x with
    | error e => exact .inr ⟨x, by simp, e, first, rfl⟩
    | ok y =>
      rcases ih with ⟨ys, more, each⟩ | ⟨x', member, e, fails, more⟩
      · exact .inl ⟨y :: ys, by rw [more]; rfl, .cons first each⟩
      · exact .inr ⟨x', by simp [member], e, fails, by rw [more]; rfl⟩

namespace Cli

open Text

def NameLevels (tokens : List Text) (levels : List Level) : Prop :=
  List.Forall₂ (fun token l => Level.ofToken? token = some l) tokens levels

theorem readLevels_cases (list : Text) :
    (∃ ls, readLevels list = .ok ls ∧ NameLevels (levelTokens list) ls) ∨
      ∃ token ∈ levelTokens list, Level.ofToken? token = none ∧
        readLevels list = .error (.unknownLevel token) := by
  have reads : readLevels list = (levelTokens list).mapM fun token =>
      (Level.ofToken? token).elim (.error (.unknownLevel token)) .ok := by
    unfold readLevels
    congr
    funext token
    cases Level.ofToken? token <;> rfl
  rw [reads]
  rcases mapM_cases _ (levelTokens list) with ⟨ls, all, each⟩ | ⟨token, member, e, fails, all⟩
  · refine .inl ⟨ls, all, each.imp fun token l named => ?_⟩
    cases found : Level.ofToken? token with
    | none => simp [found] at named
    | some l' => simpa [found] using named
  · refine .inr ⟨token, member, ?_⟩
    cases found : Level.ofToken? token with
    | some l => simp [found] at fails
    | none =>
      rw [found] at fails
      cases fails
      exact ⟨rfl, all⟩

theorem NameLevels.known {tokens : List Text} {ls : List Level} (h : NameLevels tokens ls)
    {token : Text} (member : token ∈ tokens) : Level.ofToken? token ≠ none := by
  induction h with
  | nil => contradiction
  | cons named _ ih =>
    rcases List.mem_cons.1 member with rfl | later
    · exact Option.ne_none_iff_exists'.2 ⟨_, named⟩
    · exact ih later

theorem NameLevels.unique {tokens : List Text} {ls ls' : List Level} (h : NameLevels tokens ls)
    (h' : NameLevels tokens ls') : ls = ls' := by
  induction h generalizing ls' with
  | nil =>
    cases h'
    rfl
  | cons named _ ih =>
    cases h' with
    | cons named' rest' =>
      rw [named] at named'
      rw [Option.some.inj named', ih rest']

theorem nameLevels_joined (ls : List Level) :
    NameLevels (levelTokens (List.intercalate [','] (ls.map Level.name))) ls := by
  have plain : ∀ l : Level, ',' ∉ l.name ∧ trim l.name = l.name ∧ l.name ≠ [] ∧
      Level.ofToken? l.name = some l := by
    intro l
    cases l <;> decide +kernel
  rcases eq_or_ne ls [] with rfl | nonempty
  · exact .nil
  have cut : (List.intercalate [','] (ls.map Level.name)).splitOn ',' = ls.map Level.name := by
    refine List.splitOn_intercalate ',' ?_ (by simpa using nonempty)
    rintro _ member
    obtain ⟨l, -, rfl⟩ := List.mem_map.1 member
    exact (plain l).1
  have trimmed : (ls.map Level.name).map trim = ls.map Level.name := by
    rw [List.map_map]
    exact List.map_congr_left fun l _ => (plain l).2.1
  have kept : (ls.map Level.name).filter (· ≠ []) = ls.map Level.name := by
    rw [List.filter_eq_self]
    rintro _ member
    obtain ⟨l, -, rfl⟩ := List.mem_map.1 member
    simpa using (plain l).2.2.1
  rw [NameLevels, levelTokens, cut, trimmed, kept, List.forall₂_map_left_iff, List.forall₂_same]
  exact fun l _ => (plain l).2.2.2

namespace Flag

def Accepts : Flag → Text → Prop
  | .filter, _ | .earliest, _ | .latest, _ | .search, _ => True
  | .levels, v => ∀ token ∈ levelTokens v, Level.ofToken? token ≠ none
  | .context, v => ∃ n ≤ Numeral.max64, Numeral.Spells v n
  | .batch, v => ∃ n ≤ Numeral.max64, 1 ≤ n ∧ Numeral.Spells v n

inductive Refuses : Flag → Text → ArgumentError → Prop where
  | level {v token : Text} (member : token ∈ levelTokens v)
      (unknown : Level.ofToken? token = none) : Refuses .levels v (.unknownLevel token)
  | context {v : Text} {fault : Numeral.Fault}
      (failed : Numeral.read Numeral.max64 v = .error fault) :
      Refuses .context v (.invalidContext v fault)
  | batch {v : Text} {fault : Numeral.Fault}
      (failed : Numeral.read Numeral.max64 v = .error fault) :
      Refuses .batch v (.invalidBatch v fault)
  | zeroBatch {v : Text} (zero : Numeral.Spells v 0) : Refuses .batch v .zeroBatch

end Flag

namespace Arguments

/-- What the arguments say of an option is what this value says, or nothing without a value. -/
def Took (a : Arguments) : Flag → Option Text → Prop
  | .filter, v => a.filter = v
  | .levels, v => Option.Rel (fun t => NameLevels (levelTokens t)) v a.levels
  | .earliest, v => a.earliest = v
  | .latest, v => a.latest = v
  | .context, v => Option.Rel Numeral.Spells v a.context
  | .search, v => a.search = v
  | .batch, v => Option.Rel Numeral.Spells v a.batch

def without (a : Arguments) : Flag → Arguments
  | .filter => { a with filter := none }
  | .levels => { a with levels := none }
  | .earliest => { a with earliest := none }
  | .latest => { a with latest := none }
  | .context => { a with context := none }
  | .search => { a with search := none }
  | .batch => { a with batch := none }

theorem path_without (a : Arguments) (f : Flag) : (a.without f).path = a.path := by cases f <;> rfl

theorem verbose_without (a : Arguments) (f : Flag) : (a.without f).verbose = a.verbose := by
  cases f <;> rfl

theorem took_without (a : Arguments) {f g : Flag} (other : g ≠ f) (v : Option Text) :
    (a.without f).Took g v ↔ a.Took g v := by
  cases f <;> cases g <;> first | exact absurd rfl other | exact Iff.rfl

theorem set_cases (a : Arguments) (v : Text) (f : Flag) :
    (f.Accepts v ∧ ∃ b, a.set v f = .ok b ∧ b.Took f (some v) ∧ b.without f = a.without f) ∨
      ¬ f.Accepts v ∧ ∃ e, a.set v f = .error e ∧ f.Refuses v e := by
  have number : (∃ n ≤ Numeral.max64, Numeral.Spells v n ∧ Numeral.read Numeral.max64 v = .ok n) ∨
      (¬ ∃ n ≤ Numeral.max64, Numeral.Spells v n) ∧
        ∃ fault, Numeral.read Numeral.max64 v = .error fault := by
    cases read : Numeral.read Numeral.max64 v with
    | ok n =>
      obtain ⟨spells, small⟩ := Numeral.read_eq_ok_iff.1 read
      exact .inl ⟨n, small, spells, rfl⟩
    | error fault =>
      refine .inr ⟨?_, fault, rfl⟩
      rintro ⟨n, small, spells⟩
      rw [Numeral.read_eq_ok_iff.2 ⟨spells, small⟩] at read
      contradiction
  cases f with
  | filter => exact .inl ⟨trivial, _, rfl, rfl, rfl⟩
  | earliest => exact .inl ⟨trivial, _, rfl, rfl, rfl⟩
  | latest => exact .inl ⟨trivial, _, rfl, rfl, rfl⟩
  | search => exact .inl ⟨trivial, _, rfl, rfl, rfl⟩
  | levels =>
    rcases readLevels_cases v with ⟨ls, read, named⟩ | ⟨token, member, unknown, read⟩
    · refine .inl ⟨?_, { a with levels := some ls }, by rw [set, read]; rfl, .some named, rfl⟩
      exact fun token => named.known
    · exact .inr ⟨fun all => all token member unknown, _, by rw [set, read]; rfl,
        .level member unknown⟩
  | context =>
    rcases number with ⟨n, small, spells, read⟩ | ⟨missing, fault, read⟩
    · exact .inl ⟨⟨n, small, spells⟩, { a with context := some n },
        by rw [set, readContext, read]; rfl, .some spells, rfl⟩
    · exact .inr ⟨missing, _, by rw [set, readContext, read]; rfl, .context read⟩
  | batch =>
    rcases number with ⟨n, small, spells, read⟩ | ⟨missing, fault, read⟩
    · rcases Nat.eq_zero_or_pos n with rfl | positive
      · refine .inr ⟨?_, _, by rw [set, readBatch, read]; rfl, .zeroBatch spells⟩
        rintro ⟨n, -, positive, spells'⟩
        exact absurd (spells.unique spells') (Nat.ne_of_lt positive)
      · refine .inl ⟨⟨n, small, positive, spells⟩, { a with batch := some n }, ?_, .some spells, rfl⟩
        rw [set, readBatch, read]
        simp [positive.ne', Except.mapError, bind, Except.bind, pure, Except.pure]
    · refine .inr ⟨?_, _, by rw [set, readBatch, read]; rfl, .batch read⟩
      rintro ⟨n, small, -, spells⟩
      exact missing ⟨n, small, spells⟩

theorem eq_of_rel {α β : Type} {R : α → β → Prop} {v : Option α} {x y : Option β}
    (hx : Option.Rel R v x) (hy : Option.Rel R v y)
    (unique : ∀ {a b b'}, R a b → R a b' → b = b') : x = y := by
  cases hx with
  | none =>
    cases hy
    rfl
  | some first =>
    cases hy with
    | some second => rw [unique first second]

theorem rel_map {α β : Type} {R : α → β → Prop} {f : β → α} (h : ∀ b, R (f b) b) (x : Option β) :
    Option.Rel R (x.map f) x := by
  cases x with
  | none => exact .none
  | some b => exact .some (h b)

theorem eq_of_took {a b : Arguments} (path : a.path = b.path) (verbose : a.verbose = b.verbose)
    (took : ∀ f, ∃ v, a.Took f v ∧ b.Took f v) : a = b := by
  obtain ⟨_, filter, filter'⟩ := took .filter
  obtain ⟨_, levels, levels'⟩ := took .levels
  obtain ⟨_, earliest, earliest'⟩ := took .earliest
  obtain ⟨_, latest, latest'⟩ := took .latest
  obtain ⟨_, context, context'⟩ := took .context
  obtain ⟨_, search, search'⟩ := took .search
  obtain ⟨_, batch, batch'⟩ := took .batch
  have levels_eq : a.levels = b.levels := eq_of_rel levels levels' NameLevels.unique
  have context_eq : a.context = b.context := eq_of_rel context context' Numeral.Spells.unique
  have batch_eq : a.batch = b.batch := eq_of_rel batch batch' Numeral.Spells.unique
  cases a
  cases b
  simp only [Arguments.mk.injEq]
  exact ⟨path, filter.trans filter'.symm, levels_eq, earliest.trans earliest'.symm,
    latest.trans latest'.symm, context_eq, search.trans search'.symm, batch_eq, verbose⟩

end Arguments
end Cli
end Logbook
