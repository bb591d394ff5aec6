import Logbook.Proofs.Cursor

/-! A cursor under any calls, each with messages of its own. The hits are always those of the query
among the messages that came last, and the selection keeps to them while they change. -/

namespace Logbook

namespace Search

inductive Call where
  | setQuery (query : Text) (messages : List Text)
  | refresh (messages : List Text)
  | clear
  | toFirst
  | next
  | previous

namespace Call

def queryAfter (query : Text) : Call → Text
  | .setQuery query' _ => query'
  | .clear => []
  | _ => query

def messagesAfter (messages : Option (List Text)) : Call → Option (List Text)
  | .setQuery _ messages' => some messages'
  | .refresh messages' => some messages'
  | .clear => none
  | _ => messages

end Call

/-- The query that was set last, and the messages that came last, if any did since the last time
that the search was cleared. -/
def lastQuery (calls : List Call) : Text := calls.foldl Call.queryAfter []

def lastMessages (calls : List Call) : Option (List Text) := calls.foldl Call.messagesAfter none

end Search

open Search

namespace Cursor

def step (c : Cursor) : Call → Cursor
  | .setQuery query messages => c.setQuery query messages
  | .refresh messages => c.refresh messages
  | .clear => c.clear
  | .toFirst => c.toFirst
  | .next => c.next
  | .previous => c.previous

def run (c : Cursor) (calls : List Call) : Cursor := calls.foldl step c

variable {c : Cursor} {messages : List Text}

theorem follows_clear (c : Cursor) : c.clear.Follows [] where
  terms_eq := terms_nil.symm
  hits_eq := rfl
  none_iff := by simp [clear]
  lt_length := by simp [clear]

theorem Follows.toFirst (h : c.Follows messages) : c.toFirst.Follows messages :=
  ⟨⟨h.terms_eq, h.hits_eq⟩, stands_of_clamped rfl List.length_pos_of_ne_nil⟩

theorem run_append (c : Cursor) (calls calls' : List Call) :
    c.run (calls ++ calls') = (c.run calls).run calls' := List.foldl_append

theorem query_step (c : Cursor) (call : Call) : (c.step call).query = call.queryAfter c.query := by
  cases call with
  | setQuery query messages => exact query_setQuery c query messages
  | _ => rfl

theorem follows_step {messages : Option (List Text)} (h : c.Follows (messages.getD []))
    (call : Call) : (c.step call).Follows ((call.messagesAfter messages).getD []) := by
  cases call with
  | setQuery query messages => exact follows_setQuery h.terms_eq query messages
  | refresh messages => exact follows_refresh h.terms_eq messages
  | clear => exact follows_clear c
  | toFirst => exact h.toFirst
  | next => exact h.next
  | previous => exact h.previous

theorem follows_run {messages : Option (List Text)} (h : c.Follows (messages.getD []))
    (calls : List Call) :
    (c.run calls).query = calls.foldl Call.queryAfter c.query ∧
      (c.run calls).Follows ((calls.foldl Call.messagesAfter messages).getD []) := by
  induction calls generalizing c messages with
  | nil => exact ⟨rfl, h⟩
  | cons call calls ih =>
    have rest := ih (follows_step h call)
    rwa [query_step] at rest

section Moves

variable {k : Nat} (stands : c.Stands) (selected : c.selected = some k)
include stands selected

theorem Stands.nonempty : c.hits ≠ [] := by
  rw [ne_eq, ← stands.none_iff, selected]
  exact Option.some_ne_none k

theorem run_next (n : Nat) :
    c.run (List.replicate n .next) =
      { c with selected := some (min (k + n) (c.hits.length - 1)) } := by
  have found := stands.nonempty selected
  induction n with
  | zero =>
    have inside := stands.lt_length k selected
    have same : min (k + 0) (c.hits.length - 1) = k := by omega
    rw [same, ← selected]
    rfl
  | succ n ih =>
    have further : min (min (k + n) (c.hits.length - 1) + 1) (c.hits.length - 1) =
        min (k + (n + 1)) (c.hits.length - 1) := by omega
    rw [List.replicate_succ', run_append, ih]
    simp [run, step, next, found, further]

theorem run_previous (n : Nat) :
    c.run (List.replicate n .previous) = { c with selected := some (k - min k n) } := by
  have found := stands.nonempty selected
  induction n with
  | zero =>
    rw [Nat.min_zero, Nat.sub_zero, ← selected]
    rfl
  | succ n ih =>
    have further : k - min k n - 1 = k - min k (n + 1) := by omega
    rw [List.replicate_succ', run_append, ih]
    simp [run, step, previous, found, further]

end Moves

/-- Where a cursor stands among so many new hits when it stood at `before` among the old ones. -/
def landing (before : Option Nat) (hits : Nat) : Option Nat :=
  if hits = 0 then none
  else some (match before with
    | some k => min k (hits - 1)
    | none => 0)

theorem selected_refresh (c : Cursor) (messages : List Text) :
    (c.refresh messages).selected = landing c.selected (Search.hits c.terms messages).length := by
  cases before : c.selected <;> simp [refresh, landing, before, List.isEmpty_iff]

theorem selected_setQuery_of_ne {query : Text} (other : query ≠ c.query) (messages : List Text) :
    (c.setQuery query messages).selected =
      if Search.hits (Search.terms query) messages = [] then none else some 0 := by
  rw [setQuery, if_neg other]
  simp [toFirst, List.isEmpty_iff]

structure Reached (calls : List Call) (c : Cursor) : Prop where
  query_eq : c.query = lastQuery calls
  hits_eq : c.hits =
    match lastMessages calls with
    | some messages => Search.hits (Search.terms c.query) messages
    | none => []
  increasing : c.hits.Pairwise (· < ·)
  none_iff : c.selected = none ↔ c.hits = []
  lt_length : ∀ k, c.selected = some k → k < c.hits.length
  next : ∀ k n, c.selected = some k →
    c.run (List.replicate n .next) = { c with selected := some (min (k + n) (c.hits.length - 1)) }
  previous : ∀ k n, c.selected = some k →
    c.run (List.replicate n .previous) = { c with selected := some (k - min k n) }
  other_query : ∀ query messages, query ≠ c.query →
    (c.step (.setQuery query messages)).selected =
      if Search.hits (Search.terms query) messages = [] then none else some 0
  same_query : ∀ messages, c.step (.setQuery c.query messages) = c.step (.refresh messages)
  refreshed : ∀ messages, (c.step (.refresh messages)).selected =
    landing c.selected (Search.hits (Search.terms c.query) messages).length

theorem reached_run (calls : List Call) : (run {} calls).Reached calls := by
  have start : ({} : Cursor).Follows ((none : Option (List Text)).getD []) := follows_clear {}
  obtain ⟨query, follows⟩ := follows_run start calls
  generalize run {} calls = c at query follows ⊢
  have hits : c.hits = Search.hits (Search.terms c.query) ((lastMessages calls).getD []) := by
    rw [follows.hits_eq, follows.terms_eq]
    rfl
  exact {
    query_eq := query
    hits_eq := by
      rw [hits]
      cases lastMessages calls with
      | none => exact hits_nil _
      | some messages => rfl
    increasing := by
      rw [hits]
      exact hits_increasing ..
    none_iff := follows.none_iff
    lt_length := follows.lt_length
    next := fun k n selected => run_next follows.toStands selected n
    previous := fun k n selected => run_previous follows.toStands selected n
    other_query := fun query messages other => selected_setQuery_of_ne other messages
    same_query := fun messages => if_pos rfl
    refreshed := fun messages => by
      rw [← follows.terms_eq]
      exact selected_refresh c messages }

-- The cursor keeps to the hits while they shrink, vanish and come back.
example :
    let c := run {} [.setQuery ['a'] [['a'], ['b'], ['a'], ['a']], .next, .next]
    c.selected = some 2 ∧ (c.run [.refresh [['b'], ['a']]]).selected = some 0 ∧
      (c.run [.refresh [['b']]]).selected = none ∧
      (c.run [.refresh [['b']], .setQuery ['a'] [['a'], ['a']]]).selected = some 0 := by
  decide +kernel

end Cursor
end Logbook
