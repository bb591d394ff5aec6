import Mathlib.Data.List.Basic
import Logbook.Proofs.Context
import Logbook.View.Cursor

/-! A cursor that follows the messages of a view: its hits are those of its query, and it selects
one of them whenever there is one. Every move and every refresh keeps it so. -/

namespace Logbook

namespace Search

variable {terms : List Text} {messages : List Text} {place : Nat}

theorem mem_hits :
    place ∈ hits terms messages ↔
      ∃ message, messages[place]? = some message ∧ ∃ t ∈ terms, t <:+: Text.lower message := by
  unfold hits
  split
  · next none_given =>
    rw [List.isEmpty_iff] at none_given
    simp [none_given]
  · simp [List.mem_zipIdx_iff_getElem?, isHit, Text.contains_iff]

theorem hits_increasing (terms messages : List Text) : (hits terms messages).Pairwise (· < ·) := by
  unfold hits
  split
  · exact .nil
  · exact View.places_increasing _ messages

theorem hits_nil (terms : List Text) : hits terms [] = [] := by simp [hits]

theorem terms_nil : Search.terms [] = [] := by decide

end Search

namespace Cursor

variable {c : Cursor} {messages : List Text}

structure Finds (c : Cursor) (messages : List Text) : Prop where
  terms_eq : c.terms = Search.terms c.query
  hits_eq : c.hits = Search.hits c.terms messages

structure Stands (c : Cursor) : Prop where
  none_iff : c.selected = none ↔ c.hits = []
  lt_length : ∀ k, c.selected = some k → k < c.hits.length

theorem stands_of_clamped (h : c.selected = if c.hits.isEmpty then none else some k)
    (lt : c.hits ≠ [] → k < c.hits.length) : c.Stands := by
  by_cases empty : c.hits = []
  · simp only [empty, List.isEmpty_nil, if_true] at h
    exact ⟨by simp [h, empty], by simp [h]⟩
  · simp only [List.isEmpty_iff, if_neg empty] at h
    exact ⟨by simp [h, empty], by simpa [h] using lt empty⟩

structure Follows (c : Cursor) (messages : List Text) : Prop extends c.Finds messages, c.Stands

theorem follows_refresh (h : c.terms = Search.terms c.query) (messages : List Text) :
    (c.refresh messages).Follows messages := by
  have stands : (c.refresh messages).Stands := by
    apply stands_of_clamped rfl
    intro found
    have := List.length_pos_of_ne_nil found
    simp only [refresh] at this ⊢
    omega
  exact ⟨⟨h, rfl⟩, stands⟩

theorem follows_setQuery (h : c.terms = Search.terms c.query) (query : Text)
    (messages : List Text) : (c.setQuery query messages).Follows messages := by
  unfold setQuery
  split
  · exact follows_refresh h messages
  · exact ⟨⟨rfl, rfl⟩, stands_of_clamped rfl List.length_pos_of_ne_nil⟩

theorem query_setQuery (c : Cursor) (query : Text) (messages : List Text) :
    (c.setQuery query messages).query = query := by
  unfold setQuery
  split
  · next same => exact same.symm
  · rfl

theorem Follows.next (h : c.Follows messages) : c.next.Follows messages := by
  have stands : c.next.Stands := by
    apply stands_of_clamped rfl
    intro found
    have := List.length_pos_of_ne_nil found
    simp only [Cursor.next] at this ⊢
    cases c.selected with
    | none => simpa using this
    | some i => simp only [Option.elim_some]; omega
  exact ⟨⟨h.terms_eq, h.hits_eq⟩, stands⟩

theorem Follows.previous (h : c.Follows messages) : c.previous.Follows messages := by
  have stands : c.previous.Stands := by
    apply stands_of_clamped rfl
    intro found
    have := List.length_pos_of_ne_nil found
    simp only [Cursor.previous] at this ⊢
    cases selected : c.selected with
    | none => simpa using this
    | some i =>
      have := h.lt_length i selected
      simp only [Option.elim_some]
      omega
  exact ⟨⟨h.terms_eq, h.hits_eq⟩, stands⟩

theorem Follows.current (h : c.Follows messages) {k : Nat} (selected : c.selected = some k) :
    ∃ place message, c.hits[k]? = some place ∧ c.current? = some place ∧
      messages[place]? = some message ∧
        ∃ t ∈ Search.terms c.query, t <:+: Text.lower message := by
  obtain ⟨place, hit⟩ : ∃ place, c.hits[k]? = some place :=
    ⟨_, List.getElem?_eq_getElem (h.lt_length k selected)⟩
  have member := List.mem_of_getElem? hit
  rw [h.hits_eq, h.terms_eq, Search.mem_hits] at member
  obtain ⟨message, found, term⟩ := member
  refine ⟨place, message, hit, ?_, found, term⟩
  rw [current?, selected, Option.bind_some, hit]

end Cursor
end Logbook
