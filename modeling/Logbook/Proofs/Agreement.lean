import Logbook.Proofs.Cursor
import Logbook.Proofs.Shown
import Logbook.Viewer

/-! A viewer under a host that calls it in any order and takes tickets of its own in between.
Filter, view and search never disagree, since no evaluation of the viewer itself comes too late. -/

namespace Logbook

theorem Gate.publish_issue (g : Gate) (result : α) :
    g.issue.2.publish g.issue.1 result = some result := by
  simp [Gate.publish, Gate.isCurrent, Gate.issue]

theorem getElem?_filterMap_of_isSome {α β : Type} {f : α → Option β} {l : List α}
    (found : ∀ a ∈ l, (f a).isSome) (i : Nat) : (l.filterMap f)[i]? = l[i]?.bind f := by
  induction l generalizing i with
  | nil => rfl
  | cons a l ih =>
    obtain ⟨b, hb⟩ := Option.isSome_iff_exists.1 (found a (by simp))
    rw [List.filterMap_cons_some hb]
    cases i with
    | zero => simp [hb]
    | succ i => simpa using ih (fun a' ha' => found a' (by simp [ha'])) i

namespace View

variable [Regex.Engine] {entries : List Entry} {f : Filter} {o : Options}

theorem getElem?_entriesOf (place : Nat) :
    ((evaluate entries f o).entriesOf entries)[place]? =
      (evaluate entries f o).rows[place]?.bind fun r => entries[r.index]? := by
  have found : ∀ r ∈ (evaluate entries f o).rows, (entries.toArray[r.index]?).isSome := by
    intro r hr
    obtain ⟨e, entry, -⟩ := row_entry hr
    simp [entry]
  rw [entriesOf, getElem?_filterMap_of_isSome found]
  simp

theorem getElem?_messages (place : Nat) :
    ((evaluate entries f o).messages entries)[place]? =
      (evaluate entries f o).rows[place]?.bind fun r => entries[r.index]?.map Entry.message := by
  rw [messages, List.getElem?_map, getElem?_entriesOf, Option.map_bind]
  rfl

end View

namespace Viewer

variable [Regex.Engine] {v : Viewer}

structure Agrees (v : Viewer) : Prop where
  filter_eq : v.filter = Filter.read v.input
  view_eq : v.view = View.evaluate v.entries v.filter v.options
  search : v.search.Follows (v.view.messages v.entries)

theorem evaluate_eq (v : Viewer) :
    v.evaluate =
      let view := View.evaluate v.entries v.filter v.options
      { v with
        gate := v.gate.issue.2
        view := view
        search := v.search.refresh (view.messages v.entries) } := by
  simp only [evaluate, Gate.publish_issue]

theorem agrees_evaluate (filter : v.filter = Filter.read v.input)
    (terms : v.search.terms = Search.terms v.search.query) : v.evaluate.Agrees := by
  rw [evaluate_eq]
  exact ⟨filter, rfl, Cursor.follows_refresh terms _⟩

theorem entries_evaluate (v : Viewer) : v.evaluate.entries = v.entries := by rw [evaluate_eq]

theorem options_evaluate (v : Viewer) : v.evaluate.options = v.options := by rw [evaluate_eq]

theorem agrees_setFilter (h : v.Agrees) (input : Text) : (v.setFilter input).Agrees :=
  agrees_evaluate rfl h.search.terms_eq

theorem restore_cases (v : Viewer) (key : Text) (s : Store) :
    (v.restore key s).1 = v ∨ ∃ input, (v.restore key s).1 = v.setFilter input := by
  unfold restore
  split
  · next input _ => exact .inr ⟨input, rfl⟩
  · exact .inl rfl

theorem agrees_load (text : Text) (setup : Setup) : (load text setup).Agrees := by
  unfold load setFilter
  exact agrees_evaluate rfl Search.terms_nil.symm

theorem entries_load (text : Text) (setup : Setup) :
    (load text setup).entries =
      (assembleInBatches setup.batchSize (Source.ofText text).lines).1 := by
  simp only [load, setFilter, entries_evaluate]

theorem options_load (text : Text) (setup : Setup) : (load text setup).options = setup.options := by
  simp only [load, setFilter, options_evaluate]

theorem headers_load (text : Text) (setup : Setup) :
    (load text setup).headers = (Source.ofText text).headers := by
  simp only [load, setFilter, evaluate_eq]

theorem input_load (text : Text) (setup : Setup) :
    (load text setup).input = setup.filter.getD [] := by
  simp only [load, setFilter, evaluate_eq]

theorem query_load (text : Text) (setup : Setup) : (load text setup).search.query = [] := by
  simp only [load, setFilter, evaluate_eq]
  rfl

theorem agrees_setSearch (h : v.Agrees) (query : Text) : (v.setSearch query).Agrees :=
  ⟨h.filter_eq, h.view_eq, Cursor.follows_setQuery h.search.terms_eq query _⟩

theorem Agrees.currentHit (h : v.Agrees) {k : Nat} (selected : v.search.selected = some k) :
    ∃ place row e, v.search.hits[k]? = some place ∧ v.view.rows[place]? = some row ∧
      v.entries[row.index]? = some e ∧ v.currentHit? = some e ∧
        ∃ t ∈ Search.terms v.search.query, t <:+: Text.lower e.message := by
  obtain ⟨place, message, hit, current, found, term⟩ := h.search.current selected
  rw [h.view_eq, View.getElem?_messages, ← h.view_eq] at found
  obtain ⟨row, place_row, entry⟩ := Option.bind_eq_some_iff.1 found
  obtain ⟨e, row_entry, rfl⟩ := Option.map_eq_some_iff.1 entry
  refine ⟨place, row, e, hit, place_row, row_entry, ?_, term⟩
  simp [currentHit?, current, place_row, row_entry]

end Viewer

/-- What a host may do with a viewer, its store of saved filters and a clone of the gate. -/
inductive Action where
  | setFilter (input : Text)
  | setOptions (options : View.Options)
  | setSearch (query : Text)
  | nextHit
  | previousHit
  | save (key : Text)
  | restore (key : Text)
  | exchange (store : Store)
  | issue
  | publish (ticket : Ticket) (result : View)

structure Desk where
  viewer : Viewer
  store : Store := {}
  tickets : List Ticket := []
  accepted : List View := []

namespace Desk

variable [Regex.Engine]

def step (d : Desk) : Action → Desk
  | .setFilter input => { d with viewer := d.viewer.setFilter input }
  | .setOptions options => { d with viewer := d.viewer.setOptions options }
  | .setSearch query => { d with viewer := d.viewer.setSearch query }
  | .nextHit => { d with viewer := d.viewer.nextHit }
  | .previousHit => { d with viewer := d.viewer.previousHit }
  | .save key => { d with store := d.viewer.save key d.store }
  | .restore key => { d with viewer := (d.viewer.restore key d.store).1 }
  | .exchange store => { d with store := store }
  | .issue =>
    { d with viewer := d.viewer.issue.2, tickets := d.tickets ++ [d.viewer.issue.1] }
  | .publish ticket result =>
    { d with accepted := d.accepted ++ (d.viewer.gate.publish ticket result).toList }

def run (d : Desk) (actions : List Action) : Desk := actions.foldl step d

end Desk

def Action.optionsAfter (o : View.Options) : Action → View.Options
  | .setOptions options => options
  | _ => o

def lastOptions (o : View.Options) (actions : List Action) : View.Options :=
  actions.foldl Action.optionsAfter o

namespace Desk

variable [Regex.Engine]

theorem step_entries (d : Desk) (a : Action) : (d.step a).viewer.entries = d.viewer.entries := by
  cases a with
  | setFilter input => exact Viewer.entries_evaluate _
  | setOptions options => exact Viewer.entries_evaluate _
  | restore key =>
    rcases d.viewer.restore_cases key d.store with same | ⟨input, taken⟩
    · exact congrArg Viewer.entries same
    · exact (congrArg Viewer.entries taken).trans (Viewer.entries_evaluate _)
  | _ => rfl

theorem step_options (d : Desk) (a : Action) :
    (d.step a).viewer.options = a.optionsAfter d.viewer.options := by
  cases a with
  | setFilter input => exact Viewer.options_evaluate _
  | setOptions options => exact Viewer.options_evaluate _
  | restore key =>
    rcases d.viewer.restore_cases key d.store with same | ⟨input, taken⟩
    · exact congrArg Viewer.options same
    · exact (congrArg Viewer.options taken).trans (Viewer.options_evaluate _)
  | _ => rfl

theorem agrees_step {d : Desk} (h : d.viewer.Agrees) (a : Action) : (d.step a).viewer.Agrees := by
  cases a with
  | setFilter input => exact Viewer.agrees_setFilter h input
  | setOptions options => exact Viewer.agrees_evaluate h.filter_eq h.search.terms_eq
  | setSearch query => exact Viewer.agrees_setSearch h query
  | nextHit => exact ⟨h.filter_eq, h.view_eq, h.search.next⟩
  | previousHit => exact ⟨h.filter_eq, h.view_eq, h.search.previous⟩
  | restore key =>
    show (d.viewer.restore key d.store).1.Agrees
    rcases d.viewer.restore_cases key d.store with same | ⟨input, taken⟩
    · rwa [same]
    · rw [taken]
      exact Viewer.agrees_setFilter h input
  -- A ticket of the host moves the gate on, and nothing that has to agree depends on the gate.
  | issue => exact ⟨h.filter_eq, h.view_eq, h.search⟩
  | save | exchange | publish => exact h

theorem agrees_run {d : Desk} (h : d.viewer.Agrees) (actions : List Action) :
    (d.run actions).viewer.Agrees ∧ (d.run actions).viewer.entries = d.viewer.entries ∧
      (d.run actions).viewer.options = lastOptions d.viewer.options actions := by
  induction actions generalizing d with
  | nil => exact ⟨h, rfl, rfl⟩
  | cons a actions ih =>
    have next := ih (agrees_step h a)
    rw [step_entries, step_options] at next
    exact next

end Desk

structure Viewer.InStep [Regex.Engine] (v : Viewer) (entries : List Entry) (o : View.Options) :
    Prop where
  entries_eq : v.entries = entries
  filter_eq : v.filter = Filter.read v.input
  view_eq : v.view = View.evaluate entries v.filter o
  hits_eq : v.search.hits = Search.hits (Search.terms v.search.query) (v.view.messages entries)
  none_iff : v.search.selected = none ↔ v.search.hits = []
  selected : ∀ k, v.search.selected = some k → k < v.search.hits.length ∧
    ∃ place row e, v.search.hits[k]? = some place ∧ v.view.rows[place]? = some row ∧
      entries[row.index]? = some e ∧ v.currentHit? = some e ∧
        ∃ t ∈ Search.terms v.search.query, t <:+: Text.lower e.message
  in_time : ∀ result : View, v.gate.issue.2.publish v.gate.issue.1 result = some result

theorem run_in_step [Regex.Engine] (text : Text) (setup : Viewer.Setup) (store : Store)
    (actions : List Action) :
    (Desk.run { viewer := Viewer.load text setup, store := store } actions).viewer.InStep
      (assembleInBatches setup.batchSize (Source.ofText text).lines).1
      (lastOptions setup.options actions) := by
  obtain ⟨agrees, entries, options⟩ :=
    Desk.agrees_run (d := { viewer := Viewer.load text setup, store := store })
      (Viewer.agrees_load text setup) actions
  generalize (Desk.run _ actions).viewer = v at agrees entries options ⊢
  rw [Viewer.entries_load] at entries
  rw [Viewer.options_load] at options
  rw [← entries, ← options]
  exact {
    entries_eq := rfl
    filter_eq := agrees.filter_eq
    view_eq := agrees.view_eq
    hits_eq := by rw [agrees.search.hits_eq, agrees.search.terms_eq]
    none_iff := agrees.search.none_iff
    selected := fun k selected =>
      ⟨agrees.search.lt_length k selected, agrees.currentHit selected⟩
    in_time := Gate.publish_issue v.gate }

end Logbook
