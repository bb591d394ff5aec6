import Logbook.Text.Basic

/-! A store of texts under keys, and the place of the saved filter in it. -/

namespace Logbook

structure Store where
  pairs : List (Text × Text) := []
deriving DecidableEq, Repr

namespace Store

def get? (s : Store) (key : Text) : Option Text := s.pairs.lookup key

def erase (s : Store) (key : Text) : Store := ⟨s.pairs.filter (·.1 ≠ key)⟩

def put (s : Store) (key value : Text) : Store := ⟨(key, value) :: (s.erase key).pairs⟩

def filterKey : Text := "logsift.filter".toList

/-- Saves a filter as it was typed. An empty one erases what was saved. -/
def saveFilter (s : Store) (key filter : Text) : Store :=
  if filter = [] then s.erase key else s.put key filter

def savedFilter? (s : Store) (key : Text) : Option Text := s.get? key

end Store
end Logbook
