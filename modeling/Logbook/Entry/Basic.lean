import Logbook.Line.Fields
import Logbook.Stamp.Instant

/-! Entries: records of a log that may run over several lines. -/

namespace Logbook

structure Entry where
  id : Nat
  raw : Text
  fields : Line.Fields
  stamp : Option Text
  instant : Option Instant
  lineNumbers : List Nat
  lineNumber : Nat := lineNumbers.headD 0
deriving DecidableEq, Repr

namespace Entry

def message (e : Entry) : Text := e.fields.message

def millis (e : Entry) : Option Int := e.instant.map Instant.millis

def level (e : Entry) : Option Level := e.fields.level

def isMultiline (e : Entry) : Bool := 1 < e.lineNumbers.length

def previewOf (message : Text) : Text :=
  (((message.splitOn '\n').map Text.trim).find? (· ≠ [])).getD []

def preview (e : Entry) : Text := previewOf e.message

end Entry
end Logbook
