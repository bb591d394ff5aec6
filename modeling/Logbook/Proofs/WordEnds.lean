import Mathlib.Data.List.Infix
import Logbook.Proofs.Cursor

/-! Lower case at the ends of words. A capital sigma is lowered to another letter at the end of a
word than inside of one, so the lower case of a text is not always part of the lower case of a
longer one. It is where each sigma ends a word in both texts or in neither. -/

namespace Logbook

namespace Text

def EndsWord (before after : Text) : Prop :=
  caseFollows before.reverse = true ∧ caseFollows after = false

instance (before after : Text) : Decidable (EndsWord before after) :=
  inferInstanceAs (Decidable (_ ∧ _))

def SigmasKept (a t b : Text) : Prop :=
  ∀ i < t.length, t[i]? = some 'Σ' →
    (EndsWord (t.take i) (t.drop (i + 1)) ↔
      EndsWord (a ++ t.take i) (t.drop (i + 1) ++ b))

instance (a t b : Text) : Decidable (SigmasKept a t b) :=
  inferInstanceAs (Decidable (∀ i < t.length, t[i]? = some 'Σ' →
    (EndsWord (t.take i) (t.drop (i + 1)) ↔ EndsWord (a ++ t.take i) (t.drop (i + 1) ++ b))))

theorem lowerAfter_suffix (before a t : Text) :
    lowerAfter (a.reverse ++ before) t <:+ lowerAfter before (a ++ t) := by
  induction a generalizing before with
  | nil => exact List.suffix_rfl
  | cons c a ih =>
    rw [List.reverse_cons, List.append_assoc, List.singleton_append, List.cons_append, lowerAfter]
    exact (ih (c :: before)).trans (List.suffix_append ..)

/-- What stands around a text matters to its lower case through its sigmas only. -/
theorem lowerAfter_append {q before t b : Text}
    (kept : ∀ p s, t = p ++ 'Σ' :: s →
      (caseFollows (p.reverse ++ q) && !caseFollows s) =
        (caseFollows (p.reverse ++ before) && !caseFollows (s ++ b))) :
    lowerAfter before (t ++ b) = lowerAfter q t ++ lowerAfter (t.reverse ++ before) b := by
  induction t generalizing q before with
  | nil => rfl
  | cons c t ih =>
    have rest : lowerAfter (c :: before) (t ++ b) =
        lowerAfter (c :: q) t ++ lowerAfter (t.reverse ++ c :: before) b := by
      apply ih
      rintro p s rfl
      simpa using kept (c :: p) s rfl
    have image : (if c = 'Σ' then [if caseFollows before && !caseFollows (t ++ b) then 'ς' else 'σ']
        else lowerChar c) =
        if c = 'Σ' then [if caseFollows q && !caseFollows t then 'ς' else 'σ'] else lowerChar c := by
      split
      · next sigma =>
        have same : (caseFollows q && !caseFollows t) =
            (caseFollows before && !caseFollows (t ++ b)) := kept [] t (by rw [sigma]; rfl)
        rw [same]
      · rfl
    rw [List.cons_append, lowerAfter, lowerAfter, rest, image, List.reverse_cons,
      List.append_assoc, List.append_assoc, List.singleton_append]

theorem lower_part {a t b : Text} (kept : SigmasKept a t b) :
    lower t <:+: lower (a ++ t ++ b) := by
  have inside : lowerAfter a.reverse (t ++ b) =
      lower t ++ lowerAfter (t.reverse ++ a.reverse) b := by
    apply lowerAfter_append
    rintro p s rfl
    have sigma := kept p.length (by simp) (by simp)
    have bool : ∀ {x y : Bool}, (x && !y) = true ↔ x = true ∧ y = false := by decide
    rw [Bool.eq_iff_iff, bool, bool]
    simpa [EndsWord] using sigma
  have front := lowerAfter_suffix [] a (t ++ b)
  rw [List.append_nil, inside] at front
  rw [List.append_assoc]
  exact (List.prefix_append ..).isInfix.trans front.isInfix

end Text

namespace Search

open Text

/-- Where a term of the query stands in a message, the message is a hit, provided that the sigmas of
the term end the same words in both. -/
theorem mem_hits_of_occurrence {query t : Text} (segment : t ∈ segments query)
    {messages : List Text} {place : Nat} {a b : Text}
    (found : messages[place]? = some (a ++ t ++ b)) (kept : SigmasKept a t b) :
    place ∈ hits (terms query) messages :=
  mem_hits.2 ⟨_, found, lower t, List.mem_map_of_mem segment, lower_part kept⟩

theorem mem_hits_of_occurrence_in_sentence :
    let query := " x || ΟΔΟΣ μ".toList
    let t := "ΟΔΟΣ μ".toList
    let messages := ["οδος".toList, "Η ΟΔΟΣ μου, İ".toList]
    t ∈ segments query ∧ messages[1]? = some ("Η ".toList ++ t ++ "ου, İ".toList) ∧
      SigmasKept "Η ".toList t "ου, İ".toList ∧ 1 ∈ hits (terms query) messages := by
  intro query t messages
  have segment : t ∈ segments query := by decide +kernel
  have found : messages[1]? = some ("Η ".toList ++ t ++ "ου, İ".toList) := by decide +kernel
  have kept : SigmasKept "Η ".toList t "ου, İ".toList := by decide +kernel
  exact ⟨segment, found, kept, mem_hits_of_occurrence segment found kept⟩

theorem hits_miss_sigma :
    ¬ ∀ (query t : Text) (messages : List Text) (place : Nat) (message : Text),
      t ∈ segments query → messages[place]? = some message → t <:+: message →
        place ∈ hits (terms query) messages := by
  intro all
  have segment : "ΑΣ".toList ∈ segments "ΑΣ".toList := by decide +kernel
  have found : ["ΑΣΑ".toList][0]? = some "ΑΣΑ".toList := List.getElem?_cons_zero
  have part : "ΑΣ".toList <:+: "ΑΣΑ".toList := by decide +kernel
  have missed : 0 ∉ hits (terms "ΑΣ".toList) ["ΑΣΑ".toList] := by decide +kernel
  exact missed (all _ _ _ 0 _ segment found part)

end Search
end Logbook
