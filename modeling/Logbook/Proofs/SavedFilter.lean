import Logbook.Proofs.Agreement

/-! A filter that was saved is taken up again, however the viewer was used in between. An empty one
erases what was saved, and then there is nothing to take up and nothing changes. -/

namespace Logbook

namespace Store

theorem lookup_cons (first value key : Text) (pairs : List (Text × Text)) :
    List.lookup key ((first, value) :: pairs) =
      if key = first then some value else List.lookup key pairs := by
  by_cases same : key = first
  · simp [same]
  · rw [List.lookup_cons, beq_eq_false_iff_ne.2 same, if_neg same]

theorem get?_erase (s : Store) (erased key : Text) :
    (s.erase erased).get? key = if key = erased then none else s.get? key := by
  obtain ⟨pairs⟩ := s
  simp only [get?, erase]
  induction pairs with
  | nil => simp
  | cons p pairs ih =>
    obtain ⟨first, value⟩ := p
    by_cases gone : first = erased
    · rw [List.filter_cons_of_neg (by simpa using gone), ih, lookup_cons, gone]
      split <;> rfl
    · rw [List.filter_cons_of_pos (by simpa using gone), lookup_cons, lookup_cons, ih]
      by_cases same : key = first
      · rw [if_pos same, if_pos same, if_neg (same ▸ gone)]
      · rw [if_neg same, if_neg same]

theorem get?_put (s : Store) (written value key : Text) :
    (s.put written value).get? key = if key = written then some value else s.get? key := by
  rw [put, get?, lookup_cons]
  split
  · rfl
  · next other => exact (get?_erase s written key).trans (if_neg other)

theorem savedFilter?_saveFilter (s : Store) (saved key filter : Text) :
    (s.saveFilter saved filter).savedFilter? key =
      if key = saved then (if filter = [] then none else some filter) else s.savedFilter? key := by
  rw [saveFilter, savedFilter?]
  split
  · exact get?_erase s saved key
  · exact get?_put s saved filter key

end Store

def Action.Keeps (key : Text) : Action → Prop
  | .save key' => key' ≠ key
  | .exchange _ => False
  | _ => True

namespace Desk

variable [Regex.Engine]

theorem savedFilter?_step {d : Desk} {key : Text} {a : Action} (h : a.Keeps key) :
    (d.step a).store.savedFilter? key = d.store.savedFilter? key := by
  cases a with
  | save key' =>
    show (d.store.saveFilter key' d.viewer.input).savedFilter? key = _
    rw [Store.savedFilter?_saveFilter, if_neg (Ne.symm h)]
  | exchange store => contradiction
  | _ => rfl

theorem savedFilter?_run {d : Desk} {key : Text} {actions : List Action}
    (h : ∀ a ∈ actions, a.Keeps key) :
    (d.run actions).store.savedFilter? key = d.store.savedFilter? key := by
  induction actions generalizing d with
  | nil => rfl
  | cons a actions ih =>
    rw [List.forall_mem_cons] at h
    exact (ih h.2).trans (savedFilter?_step h.1)

end Desk

/-- The viewer has taken a filter up: it is as typed, the rows are those that it leaves, and the
search goes on in them. All else is as before. -/
structure Viewer.Resumes [Regex.Engine] (v before : Viewer) (input : Text) : Prop where
  input_eq : v.input = input
  filter_eq : v.filter = Filter.read input
  view_eq : v.view = View.evaluate before.entries (Filter.read input) before.options
  query_eq : v.search.query = before.search.query
  hits_eq : v.search.hits =
    Search.hits (Search.terms before.search.query) (v.view.messages before.entries)
  entries_eq : v.entries = before.entries
  options_eq : v.options = before.options

theorem Viewer.resumes_setFilter [Regex.Engine] {v : Viewer} (h : v.Agrees) (input : Text) :
    (v.setFilter input).Resumes v input := by
  rw [setFilter, evaluate_eq]
  exact {
    input_eq := rfl
    filter_eq := rfl
    view_eq := rfl
    query_eq := rfl
    hits_eq := by rw [← h.search.terms_eq]; rfl
    entries_eq := rfl
    options_eq := rfl }

theorem restore_saved [Regex.Engine] (text : Text) (setup : Viewer.Setup) (store : Store)
    (before : List Action) (key : Text) (after : List Action) (kept : ∀ a ∈ after, a.Keeps key) :
    let saved := Desk.run { viewer := Viewer.load text setup, store := store } before
    let later := (saved.step (.save key)).run after
    let restored := later.viewer.restore key later.store
    (saved.viewer.input ≠ [] →
      restored.2 = true ∧ restored.1.Resumes later.viewer saved.viewer.input) ∧
    (saved.viewer.input = [] → restored = (later.viewer, false)) ∧
    later.viewer.entries = saved.viewer.entries ∧
    later.viewer.options = lastOptions saved.viewer.options after := by
  intro saved later restored
  obtain ⟨agrees, -, -⟩ :=
    Desk.agrees_run (d := { viewer := Viewer.load text setup, store := store })
      (Viewer.agrees_load text setup) before
  obtain ⟨agrees, entries, options⟩ :=
    Desk.agrees_run (d := saved.step (.save key)) agrees after
  have found : later.store.savedFilter? key =
      if saved.viewer.input = [] then none else some saved.viewer.input := by
    rw [Desk.savedFilter?_run kept]
    exact (Store.savedFilter?_saveFilter saved.store key key _).trans (if_pos rfl)
  refine ⟨fun typed => ?_, fun nothing => ?_, entries, options⟩
  · rw [if_neg typed] at found
    have taken : restored = (later.viewer.setFilter saved.viewer.input, true) := by
      simp only [restored, Viewer.restore, found]
    rw [taken]
    exact ⟨rfl, Viewer.resumes_setFilter agrees _⟩
  · rw [if_pos nothing] at found
    simp only [restored, Viewer.restore, found]

theorem restore_saved_untrimmed :
    let _ : Regex.Engine := .upTo 1000
    let input := " up ||!x".toList
    let setup : Viewer.Setup := { filter := some input }
    let after : List Action :=
      [.setSearch "U".toList, .setFilter [], .save "b".toList, .restore "b".toList, .issue,
       .setOptions { context := 1 }]
    let saved := Desk.run { viewer := Viewer.load "10:00:00.000 up".toList setup, store := {} } []
    let later := (saved.step (.save "a".toList)).run after
    let restored := later.viewer.restore "a".toList later.store
    (∀ a ∈ after, a.Keeps "a".toList) ∧ saved.viewer.input = input ∧ input ≠ [] ∧
      restored.2 = true ∧ restored.1.Resumes later.viewer input := by
  intro _ input setup after saved later restored
  have kept : ∀ a ∈ after, a.Keeps "a".toList := by simp [after, Action.Keeps]
  have typed : saved.viewer.input = input := rfl
  have visible : input ≠ [] := by decide
  obtain ⟨found, resumes⟩ :=
    (restore_saved "10:00:00.000 up".toList setup {} [] "a".toList after kept).1 (typed ▸ visible)
  exact ⟨kept, typed, visible, found, typed ▸ resumes⟩

end Logbook
