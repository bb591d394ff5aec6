import Logbook.Filter.Term
import Logbook.Proofs.Cursor
import Logbook.Proofs.Cutting

/-! Terms as patterns. A term is escaped before it is compiled, so every character of it stands for
itself, and a term that is too large to compile is sought in lower case. On ASCII a filter decides
either way as a search does: the term occurs in the message, letters taken in either case. -/

namespace Logbook

namespace Text

def IsAscii (t : Text) : Prop := ∀ c ∈ t, c.toNat < 0x80

instance (t : Text) : Decidable (IsAscii t) := List.decidableBAll (fun c : Char => c.toNat < 0x80) t

def Occurs (part t : Text) : Prop := ∃ w, w <:+: t ∧ asciiLower w = asciiLower part

variable {part t : Text}

theorem contains_map_iff (f : Char → Char) :
    contains (part.map f) (t.map f) = true ↔ ∃ w, w <:+: t ∧ w.map f = part.map f := by
  rw [contains_iff, List.infix_map_iff]
  exact exists_congr fun w => and_congr_right fun _ => eq_comm

theorem IsAscii.of_part (ascii : IsAscii t) (h : part <:+: t) : IsAscii part :=
  fun c hc => ascii c (h.subset hc)

theorem IsAscii.lowerAfter (ascii : IsAscii t) (before : Text) :
    lowerAfter before t = asciiLower t := by
  induction t generalizing before with
  | nil => rfl
  | cons c r ih =>
    have small : c.toNat < 0x80 := ascii c (by simp)
    have not_sigma : c ≠ 'Σ' := by
      rintro rfl
      exact absurd small (by decide)
    have rest := ih (fun d hd => ascii d (by simp [hd])) (c :: before)
    rw [Text.lowerAfter, if_neg not_sigma, lowerChar, if_pos small, rest]
    rfl

theorem IsAscii.lower (ascii : IsAscii t) : lower t = asciiLower t := ascii.lowerAfter []

theorem IsAscii.fold (ascii : IsAscii t) : t.map foldChar = asciiLower t :=
  List.map_congr_left fun c hc => if_pos (ascii c hc)

theorem contains_lower_iff (ascii : IsAscii part) (ascii' : IsAscii t) :
    contains (lower part) (lower t) = true ↔ Occurs part t := by
  rw [ascii.lower, ascii'.lower]
  exact contains_map_iff Char.toLower

theorem exists_folded_iff (ascii : IsAscii part) (ascii' : IsAscii t) :
    (∃ w, w <:+: t ∧ w.map foldChar = part.map foldChar) ↔ Occurs part t := by
  rw [ascii.fold]
  refine exists_congr fun w => and_congr_right fun inside => ?_
  rw [(ascii'.of_part inside).fold]

end Text

namespace Regex

open Text

def literals? : Text → Option Text
  | [] => some []
  | '\\' :: c :: r => if metaChars.elem c then (literals? r).map (c :: ·) else none
  | c :: r => if metaChars.elem c then none else (literals? r).map (c :: ·)

/-- What compiles patterns without regard to case. It tells for a pattern which texts have a match,
and declines patterns that are too large. -/
abbrev Compiler := Text → Option (Text → Bool)

abbrev Compiler.engine (compile : Compiler) : Engine := ⟨fun p => (compile p).isSome⟩

/-- A pattern that stands for characters alone matches where these stand, up to simple folding. -/
def Compiler.ReadsLiterals (compile : Compiler) : Prop :=
  ∀ ⦃p w found⦄, literals? p = some w → compile p = some found →
    ∀ t, found t = true ↔ ∃ v, v <:+: t ∧ v.map foldChar = w.map foldChar

theorem literals?_cons {c : Char} (plain : metaChars.elem c = false) (r : Text) :
    literals? (c :: r) = (literals? r).map (c :: ·) := by
  have no_backslash : c ≠ '\\' := by
    rintro rfl
    exact absurd plain (by decide)
  rw [literals?.eq_def]
  split
  · contradiction
  · next same => exact absurd (List.cons.inj same).1 no_backslash
  · next same =>
    obtain ⟨rfl, rfl⟩ := List.cons.inj same
    rw [if_neg (ne_true_of_eq_false plain)]

theorem literals?_escape (t : Text) : literals? (escape t) = some t := by
  induction t with
  | nil => rfl
  | cons c r ih =>
    rw [escape, List.flatMap_cons]
    by_cases h : metaChars.elem c = true
    · rw [if_pos h]
      show literals? ('\\' :: c :: escape r) = _
      rw [literals?, if_pos h, ih]
      rfl
    · rw [if_neg h]
      show literals? (c :: escape r) = _
      rw [literals?_cons (Bool.eq_false_iff.2 h), ih]
      rfl

example : literals? "a.b".toList = none ∧ literals? (escape "a.b".toList) = some "a.b".toList := by
  decide

def upTo (limit : Nat) : Compiler := fun p =>
  if p.length ≤ limit then
    (literals? p).map fun w t => contains (w.map foldChar) (t.map foldChar)
  else none

theorem readsLiterals_upTo (limit : Nat) : (upTo limit).ReadsLiterals := by
  intro p w found literal compiled t
  unfold upTo at compiled
  split at compiled
  · rw [literal] at compiled
    cases compiled
    exact contains_map_iff foldChar
  · contradiction

end Regex

namespace Term

open Text Regex

variable {compile : Compiler} {t : Term} {message : Text}

def isMatchBy (compile : Compiler) (t : Term) (message : Text) : Bool :=
  match compile (escape t.text) with
  | some found => found message
  | none => t.matchesLower message

/-- What remains of a compiler in the decision is which patterns it compiles. -/
theorem isMatch_eq_isMatchBy (reads : compile.ReadsLiterals) (t : Term) (message : Text) :
    let _ := compile.engine
    t.isMatch message = t.isMatchBy compile message := by
  intro _
  unfold isMatch isMatchBy isLong
  cases compiled : compile (escape t.text) with
  | none =>
    have declined : Engine.compiles (escape t.text) = false := congrArg Option.isSome compiled
    simp [declined]
  | some found =>
    have same : t.matchesFolded message = found message := by
      rw [Bool.eq_iff_iff, reads (literals?_escape t.text) compiled, matchesFolded,
        contains_map_iff]
    have accepted : Engine.compiles (escape t.text) = true := congrArg Option.isSome compiled
    simp [accepted, same]

theorem isMatchBy_iff (reads : compile.ReadsLiterals) (ascii : IsAscii t.text)
    (ascii' : IsAscii message) : t.isMatchBy compile message = true ↔ Occurs t.text message := by
  unfold isMatchBy
  split
  · next found compiled =>
    rw [reads (literals?_escape t.text) compiled, exists_folded_iff ascii ascii']
  · exact contains_lower_iff ascii ascii'

theorem hits_ne_nil_iff (segment : IsSegment t.text) :
    Search.hits (Search.terms t.text) [message] ≠ [] ↔ t.matchesLower message = true := by
  have terms : Search.terms t.text = [lower t.text] := by
    rw [Search.terms, segments_of_isSegment segment]
    rfl
  rw [matchesLower, contains_iff]
  constructor
  · intro found
    obtain ⟨place, hit⟩ := List.exists_mem_of_ne_nil _ found
    obtain ⟨m, found, w, hw, part⟩ := Search.mem_hits.1 hit
    obtain rfl : message = m := List.mem_singleton.1 (List.mem_of_getElem? found) |>.symm
    obtain rfl : w = lower t.text := by simpa [terms] using hw
    exact part
  · intro part
    exact List.ne_nil_of_mem (Search.mem_hits.2
      ⟨message, (rfl : [message][0]? = _), lower t.text, by simp [terms], part⟩)

theorem match_iff_occurs [Engine] (reads : compile.ReadsLiterals) (segment : IsSegment t.text)
    (ascii : IsAscii t.text) (ascii' : IsAscii message) :
    literals? (escape t.text) = some t.text ∧
    (∀ found, compile (escape t.text) = some found →
      (found message = true ↔ Occurs t.text message)) ∧
    (t.isMatchBy compile message = true ↔ Occurs t.text message) ∧
    (t.isMatch message = true ↔ Occurs t.text message) ∧
    (t.matchesFolded message = true ↔ Occurs t.text message) ∧
    (t.matchesLower message = true ↔ Occurs t.text message) ∧
    (Search.hits (Search.terms t.text) [message] ≠ [] ↔ Occurs t.text message) := by
  have literal := literals?_escape t.text
  have folded : t.matchesFolded message = true ↔ Occurs t.text message :=
    (contains_map_iff foldChar).trans (exists_folded_iff ascii ascii')
  have lowered : t.matchesLower message = true ↔ Occurs t.text message :=
    contains_lower_iff ascii ascii'
  refine ⟨literal, fun found compiled => ?_, isMatchBy_iff reads ascii ascii', ?_, folded, lowered,
    (hits_ne_nil_iff segment).trans lowered⟩
  · rw [reads literal compiled, exists_folded_iff ascii ascii']
  · unfold isMatch
    split
    · exact lowered
    · exact folded

theorem match_iff_occurs_brackets :
    let compile := upTo 1000
    let _ := compile.engine
    let t : Term := ⟨"a.B|[c]*\\$".toList⟩
    let message := "xA.b|[C]*\\$ y".toList
    compile.ReadsLiterals ∧ IsSegment t.text ∧ IsAscii t.text ∧ IsAscii message ∧
      (∃ found, compile (escape t.text) = some found ∧
        (found message = true ↔ Occurs t.text message)) ∧
      (t.isMatch message = true ↔ Occurs t.text message) ∧
      (Search.hits (Search.terms t.text) [message] ≠ [] ↔ Occurs t.text message) ∧
      Occurs t.text message ∧ ¬ Occurs t.text "xaaBc".toList := by
  intro compile _ t message
  have reads : compile.ReadsLiterals := readsLiterals_upTo 1000
  have segment : IsSegment t.text := isSegment_of_mem (t := t.text) (by decide)
  have ascii : IsAscii t.text := by decide
  have ascii' : IsAscii message := by decide
  have other : IsAscii "xaaBc".toList := by decide
  obtain ⟨-, compiled, -, matched, -, -, hits⟩ := match_iff_occurs reads segment ascii ascii'
  have missed := (match_iff_occurs reads segment ascii other).2.2.2.1
  refine ⟨reads, segment, ascii, ascii', ⟨_, rfl, compiled _ rfl⟩, matched, hits,
    matched.1 (by decide +kernel), fun occurs => ?_⟩
  exact absurd (missed.2 occurs) (by decide +kernel)

end Term
end Logbook
