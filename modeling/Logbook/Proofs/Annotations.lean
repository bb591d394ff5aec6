import Logbook.Proofs.Boxes

/-! What the content of an annotated box says. A marker is a key in any case, then a colon or an
equals sign, then a value. No text has two keys in front of a mark, so the content has one meaning,
whichever markers are tried first. -/

namespace Logbook

namespace Text

/-- Neither text begins with the other, even up to case. -/
def Apart (v w : Text) : Prop :=
  ¬ v.map foldChar <+: w.map foldChar ∧ ¬ w.map foldChar <+: v.map foldChar

instance (v w : Text) : Decidable (Apart v w) :=
  inferInstanceAs (Decidable (¬ v.map foldChar <+: w.map foldChar ∧
    ¬ w.map foldChar <+: v.map foldChar))

end Text

namespace Line.Annotation

open Scan Text

def isMark (c : Char) : Bool := c = ':' || c = '='

def Under (keys : List Text) (t rest : Text) : Prop :=
  ∃ v mark, t = v ++ mark :: rest ∧ (∃ key ∈ keys, Alike v key) ∧ isMark mark = true

def accountKeys : List Text := ["acc".toList, "account".toList]

def userKeys : List Text := ["user".toList]

def projectKeys : List Text := ["proj".toList, "project".toList]

def userIdKeys : List Text := ["uid".toList, "user_id".toList, "userid".toList]

def inAccount (c : Char) : Bool := c ≠ '/' && !isBlank c

def Names (t name back : Text) : Prop :=
  ∃ gap gap', t = gap ++ (name ++ (gap' ++ '/' :: back)) ∧ Only isBlank gap ∧ Only isBlank gap' ∧
    name ≠ [] ∧ Only inAccount name

inductive Marks (t : Text) : Annotation → Prop where
  | account {both name back rest : Text} (whole : Under accountKeys t both)
      (names : Names both name back) (user : Under userKeys (trimStart back) rest)
      (given : trim rest ≠ []) : Marks t (.account name (trim rest))
  | project {rest : Text} (whole : Under projectKeys t rest) (given : trim rest ≠ []) :
      Marks t (.project (trim rest))
  | userId {rest : Text} (whole : Under userIdKeys t rest) (given : trim rest ≠ []) :
      Marks t (.userId (trim rest))

/-- What the content of a box says: nothing, if it is a placeholder, else what its marker says, and
itself without one. -/
inductive Means (content : Text) : Annotation → Prop where
  | placeholder (absent : asciiLower (trim content) ∈ placeholders) : Means content .placeholder
  | marker {a : Annotation} (present : asciiLower (trim content) ∉ placeholders)
      (marks : Marks (trim content) a) : Means content a
  | literal (present : asciiLower (trim content) ∉ placeholders)
      (unmarked : ∀ a, ¬ Marks (trim content) a) : Means content (.literal (trim content))

section Keys

variable {t r : Text}

theorem foldChar_of_isMark {c : Char} (h : isMark c = true) : foldChar c = c := by
  have cases : c = ':' ∨ c = '=' := by simpa [isMark] using h
  rcases cases with rfl | rfl <;> decide

theorem starts_of_run_keyword {w : Text} {u : Unit} (h : (keyword w).run t = some (u, r)) :
    w.map foldChar <+: t.map foldChar := by
  obtain ⟨v, rfl, alike⟩ := run_keyword_eq_some.1 h
  rw [List.map_append, ← alike]
  exact List.prefix_append ..

theorem not_apart {v w : Text} (hv : v.map foldChar <+: t) (hw : w.map foldChar <+: t) :
    ¬ Apart v w :=
  fun apart => (List.prefix_or_prefix_of_prefix hv hw).elim apart.1 apart.2

structure ReadsKeys (s : Scan Unit) (keys : List Text) : Prop where
  takes : Takes s fun v => ∃ key ∈ keys, Alike v key
  run : ∀ v mark rest, (∃ key ∈ keys, Alike v key) → isMark mark = true →
    s.run (v ++ mark :: rest) = some ((), mark :: rest)

theorem run_keyword {v w : Text} (h : Alike v w) (r : Text) :
    (keyword w).run (v ++ r) = some ((), r) := run_keyword_eq_some.2 ⟨v, rfl, h⟩

theorem readsKeys_keyword (w : Text) : ReadsKeys (keyword w) [w] where
  takes := fun _ _ _ run => by simpa using run_keyword_eq_some.1 run
  run := fun v mark rest h _ => run_keyword (by simpa using h) (mark :: rest)

theorem readsKeys_perhaps (w w' : Text) (opens : Opens (fun c => !isMark (foldChar c)) w') :
    ReadsKeys (do keyword w; let _ ← perhaps (keyword w')) [w, w ++ w'] where
  takes := by
    refine ((readsKeys_keyword w).takes.bind fun _ => (readsKeys_keyword w').takes.perhaps.bind
      fun _ => takes_pure ()).imp ?_
    rintro _ ⟨u, _, rfl, hu, v, _, rfl, hv, rfl⟩
    simp only [List.mem_singleton, exists_eq_left] at hu hv
    rcases hv with rfl | hv
    · exact ⟨w, by simp, by simpa using hu⟩
    · exact ⟨w ++ w', by simp, by simp_all [Alike]⟩
  run := by
    intro v mark rest h is_mark
    simp only [List.mem_cons, List.not_mem_nil, or_false, exists_eq_or_imp, exists_eq_left] at h
    rcases h with alike | alike
    · refine (run_bind_of_some (run_keyword alike _)).trans ?_
      obtain ⟨d, u, rfl, other⟩ := opens
      have ends : foldChar mark ≠ foldChar d := by
        intro same
        simp [← same, foldChar_of_isMark is_mark, is_mark] at other
      have stops : (keyword (d :: u)).run (mark :: rest) = none :=
        run_bind_of_none (run_satisfy_of_stops (stops_cons (decide_eq_false ends) rest))
      exact run_bind_of_some (run_perhaps_of_none stops)
    · obtain ⟨u, u', rfl, alike, alike'⟩ := List.map_eq_append_iff.1 (alike.trans List.map_append)
      rw [List.append_assoc]
      refine (run_bind_of_some (run_keyword alike _)).trans ?_
      exact run_bind_of_some (run_perhaps_of_some (run_keyword alike' _))

theorem readsKeys_first {keys : List Text} (apart : keys.Pairwise Apart) :
    ReadsKeys (first (keys.map keyword)) keys where
  takes := by
    apply takes_first
    intro s hs
    obtain ⟨key, hkey, rfl⟩ := List.mem_map.1 hs
    exact (readsKeys_keyword key).takes.imp fun v h => ⟨key, hkey, by simpa using h⟩
  run := by
    rintro v mark rest ⟨key, hkey, alike⟩ -
    obtain ⟨before, after, rfl⟩ := List.append_of_mem hkey
    have fails : ∀ s ∈ before.map keyword, s.run (v ++ mark :: rest) = none := by
      intro s hs
      obtain ⟨key', early, rfl⟩ := List.mem_map.1 hs
      cases run : (keyword key').run (v ++ mark :: rest) with
      | none => rfl
      | some found =>
        have clash := (List.pairwise_append.1 apart).2.2 key' early key (by simp)
        exact absurd clash (not_apart (starts_of_run_keyword run)
          (starts_of_run_keyword (run_keyword alike _)))
    rw [List.map_append, run_first_append fails, List.map_cons, run_first_cons, run_keyword alike]
    rfl

variable {α : Type} {s : Scan Unit} {keys : List Text}

theorem run_keyed (h : ReadsKeys s keys) {f : Scan α} {a : α} :
    (s >>= fun _ => satisfy isMark >>= fun _ => f).run t = some (a, r) ↔
      ∃ rest, Under keys t rest ∧ f.run rest = some (a, r) := by
  constructor
  · intro run
    obtain ⟨_, t', key, marked⟩ := run_bind_eq_some.1 run
    obtain ⟨mark, rest, first, tail⟩ := run_bind_eq_some.1 marked
    obtain ⟨v, rfl, alike⟩ := h.takes key
    obtain ⟨rfl, is_mark⟩ := run_satisfy_eq_some.1 first
    exact ⟨rest, ⟨v, mark, rfl, alike, is_mark⟩, tail⟩
  · rintro ⟨rest, ⟨v, mark, rfl, alike, is_mark⟩, run⟩
    refine (run_bind_of_some (h.run v mark rest alike is_mark)).trans ?_
    exact (run_bind_of_some (run_satisfy_of_pos is_mark rest)).trans run

theorem Under.starts (h : Under keys t r) : ∃ key ∈ keys, key.map foldChar <+: t.map foldChar := by
  obtain ⟨v, mark, rfl, ⟨key, hkey, alike⟩, -⟩ := h
  refine ⟨key, hkey, ?_⟩
  rw [List.map_append, ← alike]
  exact List.prefix_append ..

theorem Under.not_under {keys' : List Text} {r' : Text} (h : Under keys t r)
    (apart : ∀ key ∈ keys, ∀ key' ∈ keys', Apart key key') : ¬ Under keys' t r' := by
  intro h'
  obtain ⟨key, hkey, starts⟩ := h.starts
  obtain ⟨key', hkey', starts'⟩ := h'.starts
  exact not_apart starts starts' (apart key hkey key' hkey')

theorem trim_ne_nil_iff : trim t ≠ [] ↔ t.dropWhile isBlank ≠ [] := by
  rw [ne_eq, ne_eq, trim_eq_nil_iff, List.dropWhile_eq_nil_iff]

theorem run_value {f : Text → α} {a : α} :
    (do blanks; let x ← many1 fun _ => true; return f (trim x) : Scan α).run t = some (a, r) ↔
      trim t ≠ [] ∧ a = f (trim t) ∧ r = [] := by
  have all : ∀ u : Text, u.takeWhile (fun _ => true) = u := fun u => by simp
  have none_left : ∀ u : Text, u.dropWhile (fun _ => true) = [] := fun u => by simp
  rw [run_bind_of_some (run_blanks t), trim_ne_nil_iff]
  by_cases nothing : t.dropWhile isBlank = []
  · have fails : (many1 fun _ => true).run (t.dropWhile isBlank) = none := by
      rw [run_many1_eq, all, if_pos nothing]
    rw [run_bind_of_none fails]
    simp [nothing]
  · have reads : (many1 fun _ => true).run (t.dropWhile isBlank) =
        some (t.dropWhile isBlank, []) := by
      rw [run_many1_eq, all, none_left, if_neg nothing]
    rw [run_bind_of_some reads, trim_dropWhile]
    constructor
    · rintro ⟨⟩
      exact ⟨nothing, rfl, rfl⟩
    · rintro ⟨-, rfl, rfl⟩
      rfl

theorem run_keyed_value (h : ReadsKeys s keys) {f : Text → α} {a : α} :
    (do s; let x ← valueAfterMark; return f (trim x) : Scan α).run t = some (a, r) ↔
      ∃ rest, Under keys t rest ∧ trim rest ≠ [] ∧ a = f (trim rest) ∧ r = [] := by
  have split : (do s; let x ← valueAfterMark; return f (trim x) : Scan α) =
      s >>= fun _ => satisfy isMark >>= fun _ =>
        (do blanks; let x ← many1 fun _ => true; return f (trim x)) := by
    simp only [valueAfterMark, bind_assoc]
    rfl
  rw [split, run_keyed h]
  simp only [run_value]

end Keys

section Markers

variable {t r : Text} {a : Annotation}

theorem run_projectScan :
    projectScan.run t = some (a, r) ↔
      ∃ rest, Under projectKeys t rest ∧ trim rest ≠ [] ∧ a = .project (trim rest) ∧ r = [] := by
  have reads : ReadsKeys _ projectKeys :=
    readsKeys_perhaps "proj".toList "ect".toList ⟨'e', "ct".toList, rfl, rfl⟩
  rw [← run_keyed_value reads]
  simp only [projectScan, bind_assoc, pure_bind]

theorem run_userIdScan :
    userIdScan.run t = some (a, r) ↔
      ∃ rest, Under userIdKeys t rest ∧ trim rest ≠ [] ∧ a = .userId (trim rest) ∧ r = [] := by
  have reads : ReadsKeys _ userIdKeys := readsKeys_first (by decide)
  exact run_keyed_value reads

def accountName : Scan Text := do
  blanks
  let name ← many1 inAccount
  blanks
  char '/'
  blanks
  return name

theorem run_accountName {name : Text} :
    accountName.run t = some (name, r) ↔ ∃ back, Names t name back ∧ r = trimStart back := by
  constructor
  · intro run
    obtain ⟨_, t₁, blank, run₁⟩ := run_bind_eq_some.1 run
    obtain ⟨_, t₂, named, run₂⟩ := run_bind_eq_some.1 run₁
    obtain ⟨_, t₃, blank', run₃⟩ := run_bind_eq_some.1 run₂
    obtain ⟨_, back, divided, run₄⟩ := run_bind_eq_some.1 run₃
    cases run₄
    obtain rfl := run_char_eq_some.1 divided
    obtain ⟨gap, rfl, only⟩ := takes_blanks blank
    rw [run_many1_eq] at named
    split at named
    · contradiction
    · next given =>
      cases named
      obtain ⟨gap', rest, only'⟩ := takes_blanks blank'
      refine ⟨back, ⟨gap, gap', ?_, only, only', given, fun c => List.mem_takeWhile_imp⟩, rfl⟩
      rw [← rest, List.takeWhile_append_dropWhile]
  · rintro ⟨back, ⟨gap, gap', rfl, only, only', given, word⟩, rfl⟩
    have slash : Stops isBlank ('/' :: back) := stops_cons (by decide) back
    have sharp : Stops isBlank (name ++ (gap' ++ '/' :: back)) := by
      obtain ⟨c, u, rfl⟩ := List.exists_cons_of_ne_nil given
      have first := word c (by simp)
      simp only [inAccount, Bool.and_eq_true, Bool.not_eq_true'] at first
      exact stops_cons first.2 _
    have ends : Stops inAccount (gap' ++ '/' :: back) := by
      rcases gap' with _ | ⟨c, u⟩
      · exact stops_cons (by decide) back
      · exact stops_cons (by simp [inAccount, only' c (by simp)]) _
    refine (run_bind_of_some (run_blanks_append only sharp)).trans ?_
    refine (run_bind_of_some (run_many1 given word ends)).trans ?_
    refine (run_bind_of_some (run_blanks_append only' slash)).trans ?_
    exact (run_bind_of_some (run_char_cons '/' back)).trans rfl

theorem run_accountScan :
    accountScan.run t = some (a, r) ↔
      ∃ both name back rest, Under accountKeys t both ∧ Names both name back ∧
        Under userKeys (trimStart back) rest ∧ trim rest ≠ [] ∧ a = .account name (trim rest) ∧
        r = [] := by
  have reads : ReadsKeys _ accountKeys :=
    readsKeys_perhaps "acc".toList "ount".toList ⟨'o', "unt".toList, rfl, rfl⟩
  have split : accountScan = (do keyword "acc".toList; let _ ← perhaps (keyword "ount".toList))
      >>= fun _ => satisfy isMark >>= fun _ => accountName >>= fun name =>
        (do keyword "user".toList; let x ← valueAfterMark; return .account name (trim x)) := by
    simp only [accountScan, accountName, bind_assoc, pure_bind]
    rfl
  rw [split, run_keyed reads]
  simp only [run_bind_eq_some, run_accountName, run_keyed_value (readsKeys_keyword "user".toList)]
  constructor
  · rintro ⟨both, whole, name, _, ⟨back, names, rfl⟩, rest, user⟩
    exact ⟨both, name, back, rest, whole, names, user⟩
  · rintro ⟨both, name, back, rest, whole, names, user⟩
    exact ⟨both, whole, name, _, ⟨back, names, rfl⟩, rest, user⟩

theorem run_eq_none_of_under {sc : Scan Annotation} {keys keys' : List Text} {rest : Text}
    (reads : ∀ a r, sc.run t = some (a, r) → ∃ rest, Under keys' t rest) (h : Under keys t rest)
    (apart : ∀ key ∈ keys, ∀ key' ∈ keys', Apart key key') : sc.run t = none := by
  cases run : sc.run t with
  | none => rfl
  | some found =>
    obtain ⟨rest', other⟩ := reads found.1 found.2 run
    exact absurd other (h.not_under apart)

theorem result?_eq_some_iff :
    result? (first [accountScan, projectScan, userIdScan]) t = some a ↔ Marks t a := by
  constructor
  · intro read
    obtain ⟨⟨_, r⟩, run, rfl⟩ := Option.map_eq_some_iff.1 read
    obtain ⟨s, hs, run⟩ := run_first_eq_some run
    simp only [List.mem_cons, List.not_mem_nil, or_false] at hs
    rcases hs with rfl | rfl | rfl
    · obtain ⟨both, name, back, rest, whole, names, user, given, rfl, -⟩ := run_accountScan.1 run
      exact .account whole names user given
    · obtain ⟨rest, whole, given, rfl, -⟩ := run_projectScan.1 run
      exact .project whole given
    · obtain ⟨rest, whole, given, rfl, -⟩ := run_userIdScan.1 run
      exact .userId whole given
  · intro marks
    have account : ∀ a r, accountScan.run t = some (a, r) → ∃ rest, Under accountKeys t rest := by
      intro a r run
      obtain ⟨both, -, -, -, whole, -⟩ := run_accountScan.1 run
      exact ⟨both, whole⟩
    have project : ∀ a r, projectScan.run t = some (a, r) → ∃ rest, Under projectKeys t rest := by
      intro a r run
      obtain ⟨rest, whole, -⟩ := run_projectScan.1 run
      exact ⟨rest, whole⟩
    rw [result?, run_first_cons, run_first_cons, run_first_cons]
    cases marks with
    | account whole names user given =>
      rw [run_accountScan.2 ⟨_, _, _, _, whole, names, user, given, rfl, rfl⟩]
      rfl
    | project whole given =>
      rw [run_eq_none_of_under account whole (by decide),
        run_projectScan.2 ⟨_, whole, given, rfl, rfl⟩]
      rfl
    | userId whole given =>
      rw [run_eq_none_of_under account whole (by decide),
        run_eq_none_of_under project whole (by decide),
        run_userIdScan.2 ⟨_, whole, given, rfl, rfl⟩]
      rfl

theorem means_iff {content : Text} : Means content a ↔ Annotation.of content = a := by
  rw [of]
  constructor
  · rintro (absent | ⟨present, marks⟩ | ⟨present, unmarked⟩)
    · rw [if_pos (List.elem_iff.2 absent)]
    · rw [if_neg (mt List.elem_iff.1 present), result?_eq_some_iff.2 marks]
      rfl
    · have unread : result? (first [accountScan, projectScan, userIdScan]) (trim content) = none :=
        Option.eq_none_iff_forall_ne_some.2 fun a => mt result?_eq_some_iff.1 (unmarked a)
      rw [if_neg (mt List.elem_iff.1 present), unread]
      rfl
  · rintro rfl
    split
    · next absent => exact .placeholder (List.elem_iff.1 absent)
    · next present =>
      have present := mt List.elem_iff.2 present
      cases read : result? (first [accountScan, projectScan, userIdScan]) (trim content) with
      | some a => exact .marker present (result?_eq_some_iff.1 read)
      | none =>
        refine .literal present fun a marks => ?_
        rw [result?_eq_some_iff.2 marks] at read
        contradiction

end Markers

end Line.Annotation
end Logbook
