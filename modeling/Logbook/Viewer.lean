import Logbook.Entry.Assembler
import Logbook.Filter.Reader
import Logbook.Gate
import Logbook.Store
import Logbook.View.Cursor
import Logbook.View.Evaluate

/-! A loaded log: its entries, the filter in force, the rows that it leaves and a search in them.
Whenever filter or options change, the rows are evaluated again and the search follows. -/

namespace Logbook

structure Viewer where
  entries : List Entry
  headers : Headers
  input : Text
  filter : Filter
  options : View.Options
  view : View
  search : Cursor
  gate : Gate

namespace Viewer

def defaultBatchSize : Nat := 5000

structure Setup where
  batchSize : Nat := defaultBatchSize
  filter : Option Text := none
  options : View.Options := {}

variable [Regex.Engine]

/-- Evaluates under a new ticket. A result that came too late would leave the rows as they are. -/
def evaluate (v : Viewer) : Viewer :=
  let (ticket, gate) := v.gate.issue
  let v := { v with gate := gate }
  match gate.publish ticket (View.evaluate v.entries v.filter v.options) with
  | none => v
  | some view => { v with view := view, search := v.search.refresh (view.messages v.entries) }

def setFilter (v : Viewer) (input : Text) : Viewer :=
  evaluate { v with input := input, filter := Filter.read input }

def setOptions (v : Viewer) (options : View.Options) : Viewer :=
  evaluate { v with options := options }

def load (text : Text) (setup : Setup) : Viewer :=
  let source := Source.ofText text
  setFilter
    { entries := (assembleInBatches setup.batchSize source.lines).1
      headers := source.headers
      input := [], filter := {}, options := setup.options
      view := View.empty, search := {}, gate := {} }
    (setup.filter.getD [])

def setSearch (v : Viewer) (query : Text) : Viewer :=
  { v with search := v.search.setQuery query (v.view.messages v.entries) }

def currentHit? (v : Viewer) : Option Entry := do
  let position ← v.search.current?
  let row ← v.view.rows[position]?
  v.entries[row.index]?

def nextHit (v : Viewer) : Viewer := { v with search := v.search.next }

def previousHit (v : Viewer) : Viewer := { v with search := v.search.previous }

def save (v : Viewer) (key : Text) (s : Store) : Store := s.saveFilter key v.input

def restore (v : Viewer) (key : Text) (s : Store) : Viewer × Bool :=
  match s.savedFilter? key with
  | some input => (v.setFilter input, true)
  | none => (v, false)

def issue (v : Viewer) : Ticket × Viewer :=
  let (ticket, gate) := v.gate.issue
  (ticket, { v with gate := gate })

end Viewer
end Logbook
