import Logbook.Text.Basic
import Logbook.Text.Lower

/-! Terms of a filter. A term matches a text that contains it, whatever the case. It is escaped and
compiled to a pattern, and compared in lower case where it is too large for that. How large a
pattern may be is up to the engine. -/

namespace Logbook

namespace Regex

def metaChars : Text := "\\.+*?()|[]\x7b\x7d^$#&-~".toList

def escape (t : Text) : Text := t.flatMap fun c => if metaChars.elem c then ['\\', c] else [c]

/-- An engine for patterns. Which of them it compiles within the size that it is given depends on
how it represents them. -/
class Engine where
  compiles : Text → Bool

abbrev Engine.upTo (limit : Nat) : Engine := ⟨fun p => p.length ≤ limit⟩

end Regex

structure Term where
  text : Text
deriving DecidableEq, Repr

namespace Term

def matchesFolded (t : Term) (message : Text) : Bool :=
  Text.contains (t.text.map Text.foldChar) (message.map Text.foldChar)

def matchesLower (t : Term) (message : Text) : Bool :=
  Text.contains (Text.lower t.text) (Text.lower message)

variable [Regex.Engine]

def isLong (t : Term) : Bool := !Regex.Engine.compiles (Regex.escape t.text)

def isMatch (t : Term) (message : Text) : Bool :=
  if t.isLong then t.matchesLower message else t.matchesFolded message

end Term
end Logbook
