import Logbook.Text.Basic

/-! Severities, the letters and words that name them, and sets of them. -/

namespace Logbook

inductive Level where
  | error
  | warning
  | info
  | debug
  | trace
deriving DecidableEq, Repr

namespace Level

def all : List Level := [.error, .warning, .info, .debug, .trace]

theorem mem_all (l : Level) : l ∈ all := by cases l <;> decide

def name : Level → Text
  | .error => "error".toList
  | .warning => "warning".toList
  | .info => "info".toList
  | .debug => "debug".toList
  | .trace => "trace".toList

def ofLetter? (c : Char) : Option Level :=
  match c.toUpper with
  | 'E' | 'F' | 'A' => some .error
  | 'W' => some .warning
  | 'I' => some .info
  | 'D' => some .debug
  | 'V' | 'T' => some .trace
  | _ => none

def words : List (Text × Level) :=
  [("error".toList, .error), ("err".toList, .error), ("fatal".toList, .error),
   ("critical".toList, .error), ("crit".toList, .error), ("severe".toList, .error),
   ("warn".toList, .warning), ("warning".toList, .warning),
   ("info".toList, .info), ("notice".toList, .info),
   ("debug".toList, .debug), ("trace".toList, .trace)]

/-- A word in lower case. `verbose` may carry a grade in digits. -/
def ofWord? (w : Text) : Option Level :=
  match words.lookup w with
  | some l => some l
  | none =>
    match "verbose".toList.isPrefixOf? w with
    | some grade => if grade.all Char.isDigit then some .trace else none
    | none => none

def ofToken? (t : Text) : Option Level :=
  match Text.trim t with
  | [c] => ofLetter? c
  | w => ofWord? (Text.asciiLower w)

end Level

structure LevelSet where
  shown : List Level
  unleveled : Bool
deriving DecidableEq, Repr

namespace LevelSet

def all : LevelSet := ⟨Level.all, true⟩

def only (levels : List Level) : LevelSet := ⟨levels, false⟩

def allows (s : LevelSet) : Option Level → Bool
  | some l => s.shown.elem l
  | none => s.unleveled

def isAll (s : LevelSet) : Bool := s.unleveled && Level.all.all s.shown.elem

theorem isAll_iff {s : LevelSet} : s.isAll = true ↔ ∀ l, s.allows l = true := by
  constructor
  · intro h l
    simp only [isAll, Bool.and_eq_true, List.all_eq_true] at h
    cases l with
    | none => exact h.1
    | some l => exact h.2 l (Level.mem_all l)
  · intro h
    simp only [isAll, Bool.and_eq_true, List.all_eq_true]
    exact ⟨h none, fun l _ => h (some l)⟩

end LevelSet
end Logbook
