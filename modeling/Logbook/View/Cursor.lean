import Logbook.Text.Lower
import Logbook.Text.Basic

/-! A search inside a view. The cursor walks the hits of a query and stops at either end. -/

namespace Logbook

namespace Search

def terms (query : Text) : List Text := (Text.segments query).map Text.lower

def isHit (terms : List Text) (message : Text) : Bool :=
  let lowered := Text.lower message
  terms.any (Text.contains · lowered)

def hits (terms : List Text) (messages : List Text) : List Nat :=
  if terms.isEmpty then []
  else (messages.zipIdx.filter fun p => isHit terms p.1).map Prod.snd

end Search

structure Cursor where
  query : Text := []
  terms : List Text := []
  hits : List Nat := []
  selected : Option Nat := none
deriving DecidableEq, Repr

namespace Cursor

def current? (c : Cursor) : Option Nat := c.selected.bind (c.hits[·]?)

def refresh (c : Cursor) (messages : List Text) : Cursor :=
  let hits := Search.hits c.terms messages
  { c with
    hits := hits
    selected := if hits.isEmpty then none else some (min (c.selected.getD 0) (hits.length - 1)) }

def clear (_ : Cursor) : Cursor := {}

def toFirst (c : Cursor) : Cursor :=
  { c with selected := if c.hits.isEmpty then none else some 0 }

/-- A new query selects its first hit; the query in force is only refreshed. -/
def setQuery (c : Cursor) (query : Text) (messages : List Text) : Cursor :=
  if query = c.query then c.refresh messages
  else
    let terms := Search.terms query
    toFirst { query := query, terms := terms, hits := Search.hits terms messages }

def next (c : Cursor) : Cursor :=
  { c with
    selected := if c.hits.isEmpty then none
      else some (c.selected.elim 0 fun i => min (i + 1) (c.hits.length - 1)) }

def previous (c : Cursor) : Cursor :=
  { c with selected := if c.hits.isEmpty then none else some (c.selected.elim 0 (· - 1)) }

end Cursor
end Logbook
