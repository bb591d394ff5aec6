import Logbook.Text.Fold
import Logbook.Text.Basic

/-! Scanners read a text from its front: they give a result and the rest, or fail. None of them
looks back, so what a scanner of a whole line accepts can be read off its steps. -/

namespace Logbook

abbrev Scan := StateT Text Option

namespace Scan

open Text (isBlank isDigit)

def satisfy (p : Char → Bool) : Scan Char
  | [] => none
  | c :: r => if p c then some (c, r) else none

def char (c : Char) : Scan Unit := do
  let _ ← satisfy (· = c)

def many (p : Char → Bool) : Scan Text := fun t => some (t.takeWhile p, t.dropWhile p)

def many1 (p : Char → Bool) : Scan Text := fun t =>
  match t.takeWhile p with
  | [] => none
  | run => some (run, t.dropWhile p)

def blanks : Scan Unit := fun t => some ((), t.dropWhile isBlank)

def blanks1 : Scan Unit := do
  let _ ← many1 isBlank

def digits : Scan Text := many1 isDigit

def word (w : Text) : Scan Unit := fun t => (w.isPrefixOf? t).map ((), ·)

def keyword : Text → Scan Unit
  | [] => pure ()
  | c :: w => do
    let _ ← satisfy fun d => Text.foldChar d = Text.foldChar c
    keyword w

def perhaps (s : Scan α) : Scan (Option α) := fun t =>
  match s t with
  | some (a, r) => some (some a, r)
  | none => some (none, t)

def first : List (Scan α) → Scan α
  | [] => failure
  | s :: ss => s <|> first ss

def boxed (s : Scan α) : Scan α := do
  char '['
  let a ← s
  char ']'
  return a

def box (s : Scan α) : Scan α := do
  let a ← boxed s
  blanks
  return a

def inBox (c : Char) : Bool := c ≠ ']'

def inName (c : Char) : Bool := c ≠ ']' && c ≠ ':'

def nameAndDigits : Scan (Text × Text) := do
  let name ← many1 inName
  char ':'
  let number ← digits
  return (name, number)

def isHexDigit (c : Char) : Bool := c.isDigit || ('a' ≤ c && c ≤ 'f') || ('A' ≤ c && c ≤ 'F')

def hexId : Scan Text := do
  let mark ← perhaps (word "0x".toList)
  let number ← many1 isHexDigit
  return if mark.isSome then '0' :: 'x' :: number else number

def restOfLine : Scan Text := fun t => if t.elem '\n' then none else some (t, [])

def message : Scan Text := do
  blanks
  let rest ← restOfLine
  return Text.trim rest

def result? (s : Scan α) (t : Text) : Option α := (s.run t).map (·.1)

end Scan
end Logbook
