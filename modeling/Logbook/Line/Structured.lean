import Logbook.Line.Bracketed

/-! The layout with annotated boxes, `STAMP [LEVEL] [module] [process:thread] [function:line]
[annotation]… message`. After a fixed head, up to four boxes carry annotations of the entry; a box
that is neither an annotation nor a placeholder holds the message. -/

namespace Logbook.Line

open Scan

inductive Annotation where
  | account (account user : Text)
  | project (name : Text)
  | userId (id : Text)
  | placeholder
  | literal (text : Text)
deriving DecidableEq, Repr

namespace Annotation

def valueAfterMark : Scan Text := do
  let _ ← satisfy fun c => c = ':' || c = '='
  blanks
  many1 fun _ => true

def accountScan : Scan Annotation := do
  keyword "acc".toList
  let _ ← perhaps (keyword "ount".toList)
  let _ ← satisfy fun c => c = ':' || c = '='
  blanks
  let name ← many1 fun c => c ≠ '/' && !Text.isBlank c
  blanks
  char '/'
  blanks
  keyword "user".toList
  let user ← valueAfterMark
  return .account name (Text.trim user)

def projectScan : Scan Annotation := do
  keyword "proj".toList
  let _ ← perhaps (keyword "ect".toList)
  let name ← valueAfterMark
  return .project (Text.trim name)

def userIdScan : Scan Annotation := do
  first [keyword "uid".toList, keyword "user_id".toList, keyword "userid".toList]
  let id ← valueAfterMark
  return .userId (Text.trim id)

def placeholders : List Text :=
  ["".toList, "-".toList, "n/a".toList, "null".toList, "none".toList]

def of (content : Text) : Annotation :=
  let t := Text.trim content
  if placeholders.elem (Text.asciiLower t) then .placeholder
  else (result? (first [accountScan, projectScan, userIdScan]) t).getD (.literal t)

def extras : Annotation → Extras
  | .account name user => [("account".toList, name), ("user".toList, user)]
  | .project name => [("project".toList, name)]
  | .userId id => [("user_id".toList, id)]
  | .placeholder => []
  | .literal _ => []

def literal? : Annotation → Option Text
  | .literal t => some t
  | _ => none

end Annotation

def leadingBoxes : Nat → Text → List Text × Text
  | 0, t => ([], t)
  | n + 1, t =>
    match (do blanks; boxed (many inBox) : Scan Text).run t with
    | some (content, r) => let (more, rest) := leadingBoxes n r; (content :: more, rest)
    | none => ([], t)

def idBoxes : Scan (Text × Text) :=
  first
    [box (idPair fun c => c = ':' || c = '/'),
     do let a ← box hexId
        let b ← box hexId
        return (a, b)]

def structured : Scan Fields := do
  stampHead
  let token ← box (many1 Char.isAlpha)
  let name ← box (many inBox)
  let (process, thread) ← idBoxes
  let (function, number) ← boxed nameAndDigits
  let rest ← restOfLine
  let level ← Level.ofToken? token
  let (contents, tail) := leadingBoxes 4 rest
  guard (2 ≤ contents.length)
  let annotations := contents.map Annotation.of
  let text := (annotations.findSome? Annotation.literal?).getD (Text.trim tail)
  return .ofParts .structured (some level) text
    { moduleName := some name, process := some process, thread := some thread,
      sourceFile := some function, sourceLine := some number }
    (annotations.flatMap Annotation.extras)

end Logbook.Line
