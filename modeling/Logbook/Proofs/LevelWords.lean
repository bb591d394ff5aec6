import Logbook.Line.Plain
import Logbook.Proofs.Boxes
import Logbook.Proofs.Segments
import Logbook.Proofs.TermPattern

/-! Level words that a line of no known layout announces. The leftmost one is found, in any case of
its letters as folding has it. Its level is looked up in lower case, which knows the letters of
ASCII alone: a long s makes a level word of no level, and nothing is sought further on. -/

namespace Logbook

namespace Text

def Boundary (before after : Text) : Prop :=
  before.getLast?.any isWord ≠ after.head?.any isWord

theorem of_small {P : Char → Prop} (h : ∀ n < 0x80, P (Char.ofNat n)) {c : Char}
    (small : c.toNat < 0x80) : P c := by
  have here := h c.toNat small
  rwa [Char.ofNat_toNat] at here

theorem not_isWord_of_isBlank {c : Char} (h : isBlank c = true) : isWord c = false := by
  have apart : ∀ r ∈ blankRanges, ∀ r' ∈ wordRanges, r.2 < r'.1 ∨ r'.2 < r.1 := by decide +kernel
  have ascii : ∀ n < 0x80, isBlank (Char.ofNat n) = true → isWord (Char.ofNat n) = false := by
    decide +kernel
  by_cases small : c.toNat < 0x80
  · exact of_small (P := fun c => isBlank c = true → isWord c = false) ascii small h
  · rw [isWord, if_neg small, CodeRanges.has, List.any_eq_false]
    intro r' hr' inside
    obtain ⟨r, hr, within⟩ := List.any_eq_true.1 h
    have := apart r hr r' hr'
    simp only [Bool.and_eq_true, decide_eq_true_eq] at inside within
    omega

/-- What folds into a letter of ASCII is a word character, the Kelvin sign and the long s too. -/
theorem isWord_of_fold {c : Char} (h : (foldChar c).isAlpha = true) : isWord c = true := by
  have ascii : ∀ n < 0x80, (foldChar (Char.ofNat n)).isAlpha = true →
      isWord (Char.ofNat n) = true := by decide +kernel
  have images : ∀ r ∈ foldRuns, 0x80 ≤ (r.first : Int) + r.shift ∨
      r.first = r.last ∧ isWord (Char.ofNat r.first) = true := by decide +kernel
  have letter : 0 < (foldChar c).toNat ∧ (foldChar c).toNat < 0x80 := by
    simp only [Char.isAlpha, Char.isUpper, Char.isLower, Bool.or_eq_true, Bool.and_eq_true,
      decide_eq_true_eq, ge_iff_le, UInt32.le_iff_toNat_le] at h
    simp only [Char.toNat]
    rcases h with ⟨low, high⟩ | ⟨low, high⟩ <;>
      exact ⟨Nat.lt_of_lt_of_le (by decide) low, Nat.lt_of_le_of_lt high (by decide)⟩
  by_cases small : c.toNat < 0x80
  · exact of_small (P := fun c => (foldChar c).isAlpha = true → isWord c = true) ascii small h
  · rw [foldChar, if_neg small, CaseRun.map] at letter
    split at letter
    · next r found =>
      have has := List.find?_some found
      simp only [CaseRun.has, Bool.and_eq_true, decide_eq_true_eq] at has
      rcases images r (List.mem_of_find?_eq_some found) with wide | ⟨single, word⟩
      · rw [Char.toNat_ofNat] at letter
        split at letter <;> omega
      · have same : c.toNat = r.first := by omega
        rwa [← same, Char.ofNat_toNat] at word
    · exact absurd letter.2 small

theorem IsAscii.of_lower {t : Text} (h : IsAscii (asciiLower t)) : IsAscii t := by
  intro c hc
  by_contra wide
  have lower := h c.toLower (List.mem_map_of_mem hc)
  rw [toLower_of_wide (Nat.not_lt.1 wide)] at lower
  exact wide lower

end Text

open Text Scan

namespace Level

def announcedBy : Level → List Text
  | .error => ["error".toList, "err".toList, "fatal".toList, "critical".toList, "severe".toList]
  | .warning => ["warn".toList, "warning".toList]
  | .info => ["info".toList, "notice".toList]
  | .debug => ["debug".toList]
  | .trace => ["trace".toList, "verbose".toList]

theorem isAscii_of_ofWord? {w : Text} {l : Level} (h : ofWord? w = some l) : IsAscii w := by
  have known : ∀ p ∈ words, IsAscii p.1 := by decide
  unfold ofWord? at h
  split at h
  · next found =>
    obtain ⟨before, after, whole, -⟩ := List.lookup_eq_some_iff.1 found
    exact known _ (whole ▸ List.mem_append_right before List.mem_cons_self)
  · split at h
    · next grade front =>
      split at h
      · next digits =>
        rw [← List.isPrefixOf?_eq_some_iff_append_eq.1 front]
        intro c hc
        rcases List.mem_append.1 hc with letter | digit
        · exact (by decide : IsAscii "verbose".toList) c letter
        · have := ascii_isDigit_iff.1 (List.all_eq_true.1 digits c digit)
          omega
      · contradiction
    · contradiction

end Level

namespace Line

def IsLevelWord (s : Text) : Prop := ∃ l : Level, ∃ w ∈ l.announcedBy, Alike s w

theorem mem_levelWords_iff {w : Text} : w ∈ levelWords ↔ ∃ l : Level, w ∈ l.announcedBy := by
  have sound : ∀ w ∈ levelWords, ∃ l ∈ Level.all, w ∈ l.announcedBy := by decide +kernel
  have complete : ∀ l ∈ Level.all, ∀ w ∈ l.announcedBy, w ∈ levelWords := by decide +kernel
  constructor
  · intro hw
    obtain ⟨l, -, member⟩ := sound w hw
    exact ⟨l, member⟩
  · rintro ⟨l, member⟩
    exact complete l l.mem_all w member

theorem isLevelWord_iff {s : Text} : IsLevelWord s ↔ ∃ w ∈ levelWords, Alike s w := by
  simp only [IsLevelWord, mem_levelWords_iff]
  exact ⟨fun ⟨l, w, member, alike⟩ => ⟨w, ⟨l, member⟩, alike⟩,
    fun ⟨w, ⟨l, member⟩, alike⟩ => ⟨l, w, member, alike⟩⟩

/-- What stands around a level word announces it: marks that enclose it, or a colon where it begins
a word. The opening mark is its lead. -/
inductive Announces (before : Text) : (lead spelled after : Text) → Prop where
  | enclosed {opening closing : Char} {spelled rest : Text} (opens : opening = '[' ∨ opening = '<')
      (closes : closing = ']' ∨ closing = '>') :
      Announces before [opening] spelled (closing :: rest)
  | colon {spelled gap rest : Text} (begins : Boundary before spelled) (blank : Only isBlank gap) :
      Announces before [] spelled (gap ++ ':' :: rest)

structure LevelAt (line before lead spelled after : Text) : Prop where
  whole : line = before ++ (lead ++ (spelled ++ after))
  word : IsLevelWord spelled
  announced : Announces before lead spelled after

structure FirstLevelAt (line before lead spelled after : Text) : Prop
    extends LevelAt line before lead spelled after where
  leftmost : ∀ before' lead' spelled' after', LevelAt line before' lead' spelled' after' →
    (before ++ lead).length ≤ (before' ++ lead').length

section

variable {line before lead spelled after before' lead' spelled' after' : Text}

theorem IsLevelWord.only (h : IsLevelWord spelled) : Only isWord spelled := by
  have letters : ∀ w ∈ levelWords, (w.map foldChar).all Char.isAlpha = true := by decide +kernel
  obtain ⟨w, hw, alike⟩ := isLevelWord_iff.1 h
  intro c hc
  apply isWord_of_fold
  apply List.all_eq_true.1 (letters w hw)
  rw [← alike]
  exact List.mem_map_of_mem hc

theorem IsLevelWord.ne_nil (h : IsLevelWord spelled) : spelled ≠ [] := by
  rintro rfl
  obtain ⟨w, hw, alike⟩ := isLevelWord_iff.1 h
  have nonempty : ∀ w ∈ levelWords, w ≠ [] := by decide
  exact nonempty w hw (List.map_eq_nil_iff.1 alike.symm)

theorem IsLevelWord.boundary_iff (h : IsLevelWord spelled) :
    Boundary before spelled ↔ before.getLast?.any isWord = false := by
  obtain ⟨c, r, rfl, first⟩ := h.only.opens h.ne_nil
  simp [Boundary, first]

theorem stops_gap {gap rest : Text} (blank : Only isBlank gap) :
    Stops isWord (gap ++ ':' :: rest) := by
  rcases gap with _ | ⟨c, gap⟩
  · exact stops_cons (by decide) rest
  · exact stops_cons (not_isWord_of_isBlank (blank c (by simp))) _

theorem Announces.stops (h : Announces before lead spelled after) : Stops isWord after := by
  cases h with
  | enclosed opens closes => rcases closes with rfl | rfl <;> exact stops_cons (by decide) _
  | colon begins blank => exact stops_gap blank

theorem IsLevelWord.append_inj (h : IsLevelWord spelled) (h' : IsLevelWord spelled')
    (stops : Stops isWord after) (stops' : Stops isWord after')
    (same : spelled ++ after = spelled' ++ after') : spelled = spelled' ∧ after = after' := by
  have front : ∀ {s a : Text}, IsLevelWord s → Stops isWord a →
      (s ++ a).takeWhile isWord = s := by
    intro s a word ends
    rw [List.takeWhile_append_of_pos word.only, ends.takeWhile, List.append_nil]
  have words : spelled = spelled' := by rw [← front h stops, same, front h' stops']
  subst words
  exact ⟨rfl, List.append_cancel_left same⟩

theorem Announces.lead_eq (h : Announces before lead spelled after) :
    lead = [] ∨ ∃ opening, lead = [opening] ∧ isWord opening = false := by
  cases h with
  | enclosed opens closes =>
    refine .inr ⟨_, rfl, ?_⟩
    rcases opens with rfl | rfl <;> decide
  | colon begins blank => exact .inl rfl

theorem Announces.lead_length (h : Announces before lead spelled after)
    (h' : Announces before' lead' spelled' after) : lead.length = lead'.length := by
  have other : ∀ {closing : Char} {gap rest rest' : Text}, closing = ']' ∨ closing = '>' →
      Only isBlank gap → closing :: rest ≠ gap ++ ':' :: rest' := by
    intro closing gap rest rest' closes blank same
    rcases gap with _ | ⟨c, gap⟩
    · rcases closes with rfl | rfl <;> simp at same
    · have first := blank c (by simp)
      obtain ⟨rfl, -⟩ := List.cons.inj same
      rcases closes with rfl | rfl <;> exact absurd first (by decide)
  generalize same : after = after' at h'
  cases h with
  | enclosed opens closes =>
    cases h' with
    | enclosed opens' closes' => rfl
    | colon begins' blank' => exact absurd same (other closes blank')
  | colon begins blank =>
    cases h' with
    | enclosed opens' closes' => exact absurd same.symm (other closes' blank)
    | colon begins' blank' => rfl

theorem LevelAt.unique (h : LevelAt line before lead spelled after)
    (h' : LevelAt line before' lead' spelled' after')
    (place : (before ++ lead).length = (before' ++ lead').length) :
    before = before' ∧ lead = lead' ∧ spelled = spelled' ∧ after = after' := by
  have cut : (before ++ lead) ++ (spelled ++ after) = (before' ++ lead') ++ (spelled' ++ after') := by
    rw [List.append_assoc, List.append_assoc, ← h.whole, h'.whole]
  obtain ⟨front, rest⟩ := List.append_inj cut place
  obtain ⟨rfl, rfl⟩ := h.word.append_inj h'.word h.announced.stops h'.announced.stops rest
  have leads := h.announced.lead_length h'.announced
  obtain ⟨rfl, rfl⟩ := List.append_inj' front leads
  exact ⟨rfl, rfl, rfl, rfl⟩

theorem LevelAt.place_le (h : LevelAt line before lead spelled after)
    (h' : LevelAt line before' lead' spelled' after') (le : before.length ≤ before'.length) :
    (before ++ lead).length ≤ (before' ++ lead').length := by
  rcases h.announced.lead_eq with rfl | ⟨opening, rfl, mark⟩
  · rw [List.append_nil, List.length_append]
    omega
  · rcases h'.announced.lead_eq with rfl | ⟨opening', rfl, -⟩
    · rcases Nat.lt_or_eq_of_le le with lt | same
      · simpa using lt
      · -- In the same place there is no mark and the beginning of a word.
        have cut := h.whole.symm.trans h'.whole
        obtain ⟨-, rest⟩ := List.append_inj cut same
        obtain ⟨c, r, rfl, first⟩ := h'.word.only.opens h'.word.ne_nil
        obtain ⟨rfl, -⟩ := List.cons.inj rest
        simp [mark] at first
    · simpa using le

theorem FirstLevelAt.unique (h : FirstLevelAt line before lead spelled after)
    (h' : FirstLevelAt line before' lead' spelled' after') :
    before = before' ∧ lead = lead' ∧ spelled = spelled' ∧ after = after' :=
  h.toLevelAt.unique h'.toLevelAt
    (le_antisymm (h.leftmost _ _ _ _ h'.toLevelAt) (h'.leftmost _ _ _ _ h.toLevelAt))

end

section Scanning

variable {close : Scan Unit} {t r s w : Text}

theorem run_wordThen :
    (wordThen close w).run t = some (s, r) ↔
      ∃ t', t = s ++ t' ∧ Alike s w ∧ close.run t' = some ((), r) := by
  have run : (wordThen close w).run t =
      ((keyword w >>= fun _ => close).run t).map fun p => (t.take w.length, p.2) := rfl
  rw [run, Option.map_eq_some_iff]
  simp only [Prod.exists, run_bind_eq_some, run_keyword_eq_some, Prod.mk.injEq]
  constructor
  · rintro ⟨_, _, ⟨_, t', ⟨v, rfl, alike⟩, closing⟩, taken, rfl⟩
    have length : v.length = w.length := by simpa using congrArg List.length alike
    rw [← length, List.take_left] at taken
    subst taken
    exact ⟨t', rfl, alike, closing⟩
  · rintro ⟨t', rfl, alike, closing⟩
    have length : s.length = w.length := by simpa using congrArg List.length alike
    exact ⟨(), r, ⟨(), t', ⟨s, rfl, alike⟩, closing⟩, by rw [← length, List.take_left], rfl⟩

theorem run_levelWord (stops : ∀ t r, close.run t = some ((), r) → Stops isWord t) :
    (first (levelWords.map (wordThen close))).run t = some (s, r) ↔
      ∃ t', t = s ++ t' ∧ IsLevelWord s ∧ close.run t' = some ((), r) := by
  have sound : ∀ {s r}, (first (levelWords.map (wordThen close))).run t = some (s, r) →
      ∃ t', t = s ++ t' ∧ IsLevelWord s ∧ close.run t' = some ((), r) := by
    intro s r run
    obtain ⟨scan, member, run⟩ := run_first_eq_some run
    obtain ⟨w, hw, rfl⟩ := List.mem_map.1 member
    obtain ⟨t', rfl, alike, closing⟩ := run_wordThen.1 run
    exact ⟨t', rfl, isLevelWord_iff.2 ⟨w, hw, alike⟩, closing⟩
  refine ⟨sound, ?_⟩
  rintro ⟨t', rfl, word, closing⟩
  obtain ⟨w, hw, alike⟩ := isLevelWord_iff.1 word
  cases run : (first (levelWords.map (wordThen close))).run (s ++ t') with
  | none =>
    have none := run_first_eq_none run _ (List.mem_map_of_mem hw)
    rw [run_wordThen.2 ⟨t', rfl, alike, closing⟩] at none
    contradiction
  | some found =>
    -- Whichever word was read, it ends where this one does.
    obtain ⟨s', r'⟩ := found
    obtain ⟨t'', same, word', closing'⟩ := sound run
    obtain ⟨rfl, rfl⟩ := word.append_inj word' (stops _ _ closing)
      (stops _ _ closing') same
    rw [closing] at closing'
    cases closing'
    rfl

theorem enclosedWord_eq_some_iff :
    result? enclosedWord t = some s ↔
      ∃ opening closing r, t = opening :: (s ++ closing :: r) ∧ (opening = '[' ∨ opening = '<') ∧
        (closing = ']' ∨ closing = '>') ∧ IsLevelWord s := by
  have closing : ∀ u v : Text,
      (do let _ ← satisfy fun c => c = ']' || c = '>' : Scan Unit).run u = some ((), v) ↔
        ∃ c, u = c :: v ∧ (c = ']' ∨ c = '>') := by
    intro u v
    rw [run_bind_eq_some]
    constructor
    · rintro ⟨c, _, mark, ⟨⟩⟩
      obtain ⟨rfl, closes⟩ := run_satisfy_eq_some.1 mark
      exact ⟨c, rfl, by simpa using closes⟩
    · rintro ⟨c, rfl, closes⟩
      exact ⟨c, v, run_satisfy_eq_some.2 ⟨rfl, by simpa using closes⟩, rfl⟩
  have stops : ∀ u v : Text, (do let _ ← satisfy fun c => c = ']' || c = '>' : Scan Unit).run u =
      some ((), v) → Stops isWord u := by
    intro u v run
    obtain ⟨c, rfl, rfl | rfl⟩ := (closing u v).1 run <;> exact stops_cons (by decide) v
  rw [result?_eq_some, enclosedWord]
  simp only [run_bind_eq_some, run_levelWord stops, closing, run_satisfy_eq_some]
  constructor
  · rintro ⟨r, opening, _, ⟨rfl, opens⟩, _, rfl, word, c, rfl, closes⟩
    exact ⟨opening, c, r, rfl, by simpa using opens, closes, word⟩
  · rintro ⟨opening, c, r, rfl, opens, closes, word⟩
    exact ⟨r, opening, _, ⟨rfl, by simpa using opens⟩, _, rfl, word, c, rfl, closes⟩

theorem wordBeforeColon_eq_some_iff :
    result? wordBeforeColon t = some s ↔
      ∃ gap r, t = s ++ (gap ++ ':' :: r) ∧ Only isBlank gap ∧ IsLevelWord s := by
  have close : ∀ u v : Text, (do blanks; char ':' : Scan Unit).run u = some ((), v) ↔
      ∃ gap, u = gap ++ ':' :: v ∧ Only isBlank gap := by
    intro u v
    rw [run_bind_eq_some]
    constructor
    · rintro ⟨_, _, blank, colon⟩
      obtain ⟨gap, rfl, only⟩ := takes_blanks blank
      exact ⟨gap, by rw [run_char_eq_some.1 colon], only⟩
    · rintro ⟨gap, rfl, only⟩
      exact ⟨(), _, run_blanks_append only (stops_cons (by decide) v), run_char_cons ':' v⟩
  have stops : ∀ u v : Text, (do blanks; char ':' : Scan Unit).run u = some ((), v) →
      Stops isWord u := by
    intro u v run
    obtain ⟨gap, rfl, only⟩ := (close u v).1 run
    exact stops_gap only
  rw [result?_eq_some, wordBeforeColon]
  simp only [run_levelWord stops, close]
  constructor
  · rintro ⟨r, _, rfl, word, gap, rfl, only⟩
    exact ⟨gap, r, rfl, only, word⟩
  · rintro ⟨gap, r, rfl, only, word⟩
    exact ⟨r, _, rfl, word, gap, rfl, only⟩

end Scanning

section Search

def wordHere? (inWord : Bool) (t : Text) : Option Text :=
  (result? enclosedWord t).or (if inWord then none else result? wordBeforeColon t)

variable {before t line lead spelled after : Text}

theorem wordHere?_eq_some_iff :
    wordHere? (before.getLast?.any isWord) t = some spelled ↔
      ∃ lead after, LevelAt (before ++ t) before lead spelled after := by
  constructor
  · intro found
    rcases Option.or_eq_some_iff.1 found with enclosed | ⟨-, before_colon⟩
    · obtain ⟨opening, closing, r, rfl, opens, closes, word⟩ := enclosedWord_eq_some_iff.1 enclosed
      exact ⟨[opening], closing :: r, rfl, word, .enclosed opens closes⟩
    · obtain ⟨begins, before_colon⟩ := Option.ite_none_left_eq_some.1 before_colon
      obtain ⟨gap, r, rfl, only, word⟩ := wordBeforeColon_eq_some_iff.1 before_colon
      have boundary := word.boundary_iff.2 (Bool.eq_false_iff.2 begins)
      exact ⟨[], gap ++ ':' :: r, rfl, word, .colon boundary only⟩
  · rintro ⟨lead, after, whole, word, announced⟩
    obtain rfl := List.append_cancel_left whole
    rw [wordHere?, Option.or_eq_some_iff]
    cases announced with
    | enclosed opens closes =>
      exact .inl (enclosedWord_eq_some_iff.2 ⟨_, _, _, rfl, opens, closes, word⟩)
    | colon begins blank =>
      refine .inr ⟨Option.eq_none_iff_forall_ne_some.2 fun s enclosed => ?_, ?_⟩
      · obtain ⟨opening, _, _, same, opens, -⟩ := enclosedWord_eq_some_iff.1 enclosed
        obtain ⟨c, u, rfl, first⟩ := word.only.opens word.ne_nil
        obtain ⟨rfl, -⟩ := List.cons.inj same
        rcases opens with rfl | rfl <;> exact absurd first (by decide)
      · rw [if_neg (Bool.eq_false_iff.1 (word.boundary_iff.1 begins))]
        exact wordBeforeColon_eq_some_iff.2 ⟨_, _, rfl, blank, word⟩

theorem levelWord?_cons (inWord : Bool) (c : Char) (r : Text) :
    levelWord? inWord (c :: r) = (wordHere? inWord (c :: r)).or (levelWord? (isWord c) r) := by
  simp only [levelWord?, wordHere?]
  cases result? enclosedWord (c :: r) <;> cases inWord <;>
    cases result? wordBeforeColon (c :: r) <;> rfl

theorem exists_of_levelWord? (h : levelWord? (before.getLast?.any isWord) t = some spelled) :
    ∃ front lead after, LevelAt (before ++ t) front lead spelled after ∧
      before.length ≤ front.length ∧
      ∀ front' lead' spelled' after', LevelAt (before ++ t) front' lead' spelled' after' →
        before.length ≤ front'.length → front.length ≤ front'.length := by
  induction t generalizing before with
  | nil => contradiction
  | cons c t ih =>
    rw [levelWord?_cons] at h
    rcases Option.or_eq_some_iff.1 h with here | ⟨missing, later⟩
    · obtain ⟨lead, after, at_front⟩ := wordHere?_eq_some_iff.1 here
      exact ⟨before, lead, after, at_front, le_rfl, fun _ _ _ _ _ le => le⟩
    · have last : (before ++ [c]).getLast?.any isWord = isWord c := by simp
      rw [← last] at later
      obtain ⟨front, lead, after, there, le, first⟩ := ih later
      rw [List.append_assoc, List.singleton_append] at there first
      rw [List.length_append, List.length_singleton] at le first
      refine ⟨front, lead, after, there, by omega, fun front' lead' spelled' after' at' le' => ?_⟩
      refine first front' lead' spelled' after' at' (Nat.succ_le_of_lt (lt_of_le_of_ne le' ?_))
      intro same
      obtain rfl := (List.append_inj at'.whole same).1
      rw [wordHere?_eq_some_iff.2 ⟨lead', after', at'⟩] at missing
      contradiction

theorem isSome_levelWord? {front : Text} (h : LevelAt (before ++ t) front lead spelled after)
    (le : before.length ≤ front.length) : (levelWord? (before.getLast?.any isWord) t).isSome := by
  induction t generalizing before with
  | nil =>
    have short := congrArg List.length h.whole
    have nonempty := List.length_pos_iff.2 h.word.ne_nil
    simp only [List.length_append, List.length_nil] at short
    omega
  | cons c t ih =>
    rw [levelWord?_cons, Option.isSome_or, Bool.or_eq_true]
    rcases Nat.lt_or_eq_of_le le with lt | same
    · have last : (before ++ [c]).getLast?.any isWord = isWord c := by simp
      rw [← last]
      exact .inr (ih (by simpa using h) (by simpa using lt))
    · obtain rfl := (List.append_inj h.whole same).1
      exact .inl (Option.isSome_iff_exists.2 ⟨_, wordHere?_eq_some_iff.2 ⟨lead, after, h⟩⟩)

theorem first_of_levelWord? (h : levelWord? false line = some spelled) :
    ∃ before lead after, FirstLevelAt line before lead spelled after := by
  obtain ⟨before, lead, after, here, -, first⟩ := @exists_of_levelWord? [] line spelled h
  exact ⟨before, lead, after, here, fun before' lead' spelled' after' there =>
    here.place_le there (first before' lead' spelled' after' there (Nat.zero_le _))⟩

theorem LevelAt.exists_first (h : LevelAt line before lead spelled after) :
    ∃ before lead spelled after, FirstLevelAt line before lead spelled after ∧
      levelWord? false line = some spelled := by
  obtain ⟨found, word⟩ := Option.isSome_iff_exists.1
    (@isSome_levelWord? [] line lead spelled after before h (Nat.zero_le _))
  obtain ⟨before', lead', after', first⟩ := first_of_levelWord? word
  exact ⟨before', lead', found, after', first, word⟩

theorem levelWord?_eq_some_iff :
    levelWord? false line = some spelled ↔
      ∃ before lead after, FirstLevelAt line before lead spelled after := by
  constructor
  · exact first_of_levelWord?
  · rintro ⟨before, lead, after, first⟩
    obtain ⟨_, _, _, _, first', found⟩ := first.toLevelAt.exists_first
    rw [(first.unique first').2.2.1]
    exact found

end Search

section Token

variable {s : Text} {l : Level}

theorem ofToken?_of_isLevelWord (h : IsLevelWord s) :
    Level.ofToken? s = Level.ofWord? (asciiLower s) := by
  have sharp : ∀ c ∈ s, isBlank c = false := by
    intro c hc
    by_contra blank
    have other := not_isWord_of_isBlank (Bool.not_eq_false _ ▸ blank)
    simp [h.only c hc] at other
  have long : ∀ w ∈ levelWords, 2 ≤ w.length := by decide
  obtain ⟨w, hw, alike⟩ := isLevelWord_iff.1 h
  have length : s.length = w.length := by simpa using congrArg List.length alike
  rw [Level.ofToken?, (trimmed_of_sharp sharp).trim_eq]
  split
  · next c _ =>
    have := long w hw
    simp at length
    omega
  · rfl

theorem ofToken?_eq_some_iff (h : IsLevelWord s) :
    Level.ofToken? s = some l ↔ IsAscii s ∧ ∃ w ∈ l.announcedBy, Alike s w := by
  have folded : ∀ w ∈ levelWords, w.map foldChar = w := by decide +kernel
  have known : ∀ w ∈ levelWords, ∀ l ∈ Level.all,
      Level.ofWord? w = some l ↔ w ∈ l.announcedBy := by decide +kernel
  have lowered : ∀ {w}, IsAscii s → w ∈ levelWords → Alike s w → asciiLower s = w := by
    intro w ascii hw alike
    rw [← ascii.fold, alike, folded w hw]
  rw [ofToken?_of_isLevelWord h]
  constructor
  · intro found
    have ascii := (Level.isAscii_of_ofWord? found).of_lower
    obtain ⟨w, hw, alike⟩ := isLevelWord_iff.1 h
    rw [lowered ascii hw alike] at found
    exact ⟨ascii, w, (known w hw l l.mem_all).1 found, alike⟩
  · rintro ⟨ascii, w, member, alike⟩
    have hw := mem_levelWords_iff.2 ⟨l, member⟩
    rw [lowered ascii hw alike]
    exact (known w hw l l.mem_all).2 member

theorem isSome_ofToken? (h : IsLevelWord s) : (Level.ofToken? s).isSome ↔ IsAscii s := by
  rw [Option.isSome_iff_exists]
  simp only [ofToken?_eq_some_iff h, exists_and_left]
  exact and_iff_left h

end Token

/-- A line has the level of the leftmost level word that it announces, provided that the word is
written in letters of ASCII. No other level word has a level. -/
theorem level_of_leftmost_word (line : Text) :
    (∀ l, (plain line).level = some l ↔
      ∃ before lead spelled after, FirstLevelAt line before lead spelled after ∧
        IsAscii spelled ∧ ∃ w ∈ l.announcedBy, Alike spelled w) ∧
    ((∀ before lead spelled after, LevelAt line before lead spelled after → IsAscii spelled) →
      ((plain line).level.isSome ↔
        ∃ before lead spelled after, LevelAt line before lead spelled after)) ∧
    ∀ before lead spelled after, LevelAt line before lead spelled after →
      ((Level.ofToken? spelled).isSome ↔ IsAscii spelled) := by
  have level : ∀ l, (plain line).level = some l ↔
      ∃ before lead spelled after, FirstLevelAt line before lead spelled after ∧
        IsAscii spelled ∧ ∃ w ∈ l.announcedBy, Alike spelled w := by
    intro l
    have guessed : (plain line).level = (levelWord? false line).bind Level.ofToken? := rfl
    rw [guessed, Option.bind_eq_some_iff]
    constructor
    · rintro ⟨spelled, found, token⟩
      obtain ⟨before, lead, after, first⟩ := levelWord?_eq_some_iff.1 found
      exact ⟨before, lead, spelled, after, first, (ofToken?_eq_some_iff first.word).1 token⟩
    · rintro ⟨before, lead, spelled, after, first, token⟩
      exact ⟨spelled, levelWord?_eq_some_iff.2 ⟨before, lead, after, first⟩,
        (ofToken?_eq_some_iff first.word).2 token⟩
  refine ⟨level, fun ascii => ?_, fun _ _ _ _ here => isSome_ofToken? here.word⟩
  rw [Option.isSome_iff_exists]
  constructor
  · rintro ⟨l, found⟩
    obtain ⟨before, lead, spelled, after, first, -⟩ := (level l).1 found
    exact ⟨before, lead, spelled, after, first.toLevelAt⟩
  · rintro ⟨before, lead, spelled, after, here⟩
    obtain ⟨before', lead', spelled', after', first, -⟩ := here.exists_first
    obtain ⟨l, w, member, alike⟩ := first.word
    exact ⟨l, (level l).2 ⟨before', lead', spelled', after', first,
      ascii _ _ _ _ first.toLevelAt, w, member, alike⟩⟩

theorem level_of_leftmost_word_mixed_marks :
    let line := "terror: [errors] <Err] Warning\t: on".toList
    (plain line).level = some .error ∧
      (∃ before lead spelled after, FirstLevelAt line before lead spelled after ∧
        IsAscii spelled ∧ ∃ w ∈ Level.error.announcedBy, Alike spelled w) ∧
      (∀ before lead spelled after, LevelAt line before lead spelled after → IsAscii spelled) ∧
      (plain line).level.isSome ∧
      LevelAt line "terror: [errors] ".toList "<".toList "Err".toList "] Warning\t: on".toList ∧
      ((Level.ofToken? "Err".toList).isSome ↔ IsAscii "Err".toList) := by
  intro line
  have level : (plain line).level = some .error := by decide +kernel
  have ascii : ∀ before lead spelled after, LevelAt line before lead spelled after →
      IsAscii spelled := by
    intro before lead spelled after here
    have all : IsAscii line := by decide
    exact all.of_part ⟨before ++ lead, after, by rw [here.whole]; simp⟩
  have alike : Alike "Err".toList "err".toList := by
    unfold Alike
    decide +kernel
  have here : LevelAt line "terror: [errors] ".toList "<".toList "Err".toList
      "] Warning\t: on".toList :=
    ⟨by decide, ⟨.error, _, by decide, alike⟩, .enclosed (.inr rfl) (.inl rfl)⟩
  obtain ⟨levels, isSome, tokens⟩ := level_of_leftmost_word line
  exact ⟨level, (levels .error).1 level, ascii, (isSome ascii).2 ⟨_, _, _, _, here⟩, here,
    tokens _ _ _ _ here⟩

theorem level_missed_long_s :
    ¬ ∀ line : Text, (plain line).level.isSome ↔
      ∃ before lead spelled after, LevelAt line before lead spelled after := by
  intro all
  have alike : Alike "ſevere".toList "severe".toList := by
    unfold Alike
    decide +kernel
  have begins : Boundary [] "ſevere".toList := by
    unfold Boundary
    decide +kernel
  have announced : Announces [] [] "ſevere".toList ([] ++ ": disk".toList) :=
    .colon begins (by simp [Only])
  have here : LevelAt "ſevere: disk".toList [] [] "ſevere".toList ": disk".toList :=
    ⟨by decide, ⟨.error, _, by decide, alike⟩, announced⟩
  have found := (all "ſevere: disk".toList).2 ⟨_, _, _, _, here⟩
  exact absurd found (by decide +kernel)

end Line
end Logbook
