import Logbook.Line.Fields
import Logbook.Stamp.Basic

/-! Layouts that open with a stamp and a fixed sequence of boxes. Blanks may stand between the
boxes.

* tagged: `STAMP [module:line] [L] [T:thread] [P:process] message`
* positional: `STAMP [module] [n] [n] message`, where the module may carry a line number
* minimal: `STAMP [] [] [process:thread] message`
* linux: `STAMP [L] [module] [function:line] [-] [-] [thread] message`
* android: `STAMP [process:thread] [module] - [LEVEL] - message` -/

namespace Logbook.Line

open Scan

def stampHead : Scan Unit := do
  let _ ← Stamp.scan
  blanks

def markedBox (mark : Scan Unit) : Scan Text := box do
  mark
  let _ ← satisfy fun c => c = ':' || c = '='
  many1 inBox

def initial (c : Char) (tails : List Text) : Scan Unit := do
  char c
  let _ ← perhaps (first (tails.map word))

def tagged : Scan Fields := do
  stampHead
  let (name, number) ← box nameAndDigits
  let letter ← box (satisfy Char.isAlpha)
  let thread ← markedBox (initial 'T' ["hread".toList])
  let process ← markedBox (initial 'P' ["rocess".toList, "id".toList])
  let text ← message
  let level ← Level.ofLetter? letter
  return .ofParts .tagged (some level) text
    { moduleName := some name, sourceLine := some number,
      thread := some thread, process := some process } []

/-- Which of two bare numbers is the thread and which the process: the smaller one is the thread,
unless the larger one exceeds it more than tenfold. A product beyond 64 bits is cut off at the
largest number that they hold. -/
def threadAndProcess (a b : Nat) : Nat × Nat :=
  if max a b > min (10 * min a b) Numeral.max64 then (max a b, min a b) else (min a b, max a b)

def nameWithDigits : Scan (Text × Option Text) := do
  let head ← satisfy fun c => inName c && !Text.isDigit c
  let tail ← many inName
  let number ← perhaps do
    char ':'
    digits
  return (head :: tail, number)

def positional : Scan Fields := do
  stampHead
  let (name, number) ← box nameWithDigits
  let a ← box digits
  let b ← box digits
  let text ← message
  let x ← Numeral.read? Numeral.max64 a
  let y ← Numeral.read? Numeral.max64 b
  let (thread, process) := threadAndProcess x y
  return .ofParts .positional none text
    { moduleName := some name, sourceLine := number,
      thread := some (Text.ofNat thread), process := some (Text.ofNat process) } []

def idPair (separator : Char → Bool) : Scan (Text × Text) := do
  let a ← hexId
  let _ ← satisfy separator
  let b ← hexId
  return (a, b)

def minimal : Scan Fields := do
  stampHead
  box blanks
  box blanks
  let (process, thread) ← box (idPair (· = ':'))
  let text ← message
  return .ofParts .minimal none text { process := some process, thread := some thread } []

def linux : Scan Fields := do
  stampHead
  let letter ← box (satisfy Char.isAlpha)
  let name ← box (many inBox)
  let (function, number) ← box nameAndDigits
  let _ ← box (many inBox)
  let _ ← box (many inBox)
  let thread ← box (many inBox)
  let text ← message
  let level ← Level.ofLetter? letter
  return .ofParts .linux (some level) text
    { moduleName := some name, sourceFile := some function, sourceLine := some number,
      thread := some thread } []

def android : Scan Fields := do
  stampHead
  let (process, thread) ← box do
    let p ← digits
    char ':'
    let t ← digits
    return (p, t)
  let name ← box (many inBox)
  char '-'
  blanks
  let token ← box (many1 Char.isAlpha)
  char '-'
  let text ← message
  let level ← Level.ofToken? token
  return .ofParts .android (some level) text
    { moduleName := some name, process := some process, thread := some thread } []

end Logbook.Line
