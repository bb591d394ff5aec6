import Logbook.Text.Basic

/-! Bounded whole numbers in decimal, read from the left. The first fault met is the one reported:
a number grows too large at the digit that takes it over its limit, before anything that follows
is looked at. -/

namespace Logbook.Numeral

inductive Fault where
  | empty
  | invalidDigit
  | tooLarge
deriving DecidableEq, Repr

def Fault.message : Fault → Text
  | .empty => "cannot parse integer from empty string".toList
  | .invalidDigit => "invalid digit found in string".toList
  | .tooLarge => "number too large to fit in target type".toList

def digitValue (c : Char) : Nat := c.toNat - '0'.toNat

def readDigits (limit : Nat) : Nat → Text → Except Fault Nat
  | n, [] => .ok n
  | n, c :: r =>
    if !c.isDigit then .error .invalidDigit
    else if limit < 10 * n + digitValue c then .error .tooLarge
    else readDigits limit (10 * n + digitValue c) r

/-- A number of at most `limit`; a plus sign may stand before its digits. -/
def read (limit : Nat) : Text → Except Fault Nat
  | [] => .error .empty
  | ['+'] => .error .invalidDigit
  | '+' :: r => readDigits limit 0 r
  | t => readDigits limit 0 t

def read? (limit : Nat) (t : Text) : Option Nat := (read limit t).toOption

def readInt? (limit : Nat) : Text → Option Int
  | ['-'] => none
  | '-' :: r => (readDigits (limit + 1) 0 r).toOption.map fun n => -n
  | t => (read? limit t).map fun n => n

def max32 : Nat := 0xFFFFFFFF

def max64 : Nat := 0xFFFFFFFFFFFFFFFF

def maxSigned32 : Nat := 0x7FFFFFFF

end Logbook.Numeral
