import Logbook.Level
import Logbook.Text.Numeral

/-! The command line. Arguments are read from left to right and the first fault ends the reading; a
request for help ends it too. -/

namespace Logbook.Cli

structure Arguments where
  path : Text
  filter : Option Text := none
  levels : Option (List Level) := none
  earliest : Option Text := none
  latest : Option Text := none
  context : Option Nat := none
  search : Option Text := none
  batch : Option Nat := none
  verbose : Bool := false
deriving DecidableEq, Repr

inductive Flag where
  | filter
  | levels
  | earliest
  | latest
  | context
  | search
  | batch
deriving DecidableEq, Repr

namespace Flag

def all : List Flag := [.filter, .levels, .earliest, .latest, .context, .search, .batch]

def spellings : Flag → List Text
  | .filter => ["--filter".toList, "-f".toList]
  | .levels => ["--level".toList, "-l".toList]
  | .earliest => ["--from".toList]
  | .latest => ["--to".toList]
  | .context => ["--context".toList, "-C".toList]
  | .search => ["--search".toList, "-s".toList]
  | .batch => ["--batch".toList]

def of? (arg : Text) : Option Flag := all.find? fun f => f.spellings.elem arg

end Flag

def helpSpellings : List Text := ["--help".toList, "-h".toList]

def verboseSpellings : List Text := ["--verbose".toList, "-v".toList]

inductive ArgumentError where
  | missingValue (option : Text)
  | unknownLevel (token : Text)
  | invalidContext (raw : Text) (fault : Numeral.Fault)
  | invalidBatch (raw : Text) (fault : Numeral.Fault)
  | zeroBatch
  | unknownOption (arg : Text)
  | secondFile
  | missingFile
deriving DecidableEq, Repr

namespace ArgumentError

def message : ArgumentError → Text
  | .missingValue option => "Missing value for ".toList ++ option
  | .unknownLevel token => "Unknown level: ".toList ++ token
  | .invalidContext raw _ => "Invalid context width: ".toList ++ raw
  | .invalidBatch raw _ => "Invalid batch size: ".toList ++ raw
  | .zeroBatch => "Batch size must be at least 1".toList
  | .unknownOption arg => "Unknown option: ".toList ++ arg
  | .secondFile => "Only one log file is allowed".toList
  | .missingFile => "Missing log file".toList

def cause? : ArgumentError → Option Text
  | .invalidContext _ fault | .invalidBatch _ fault => some fault.message
  | _ => none

end ArgumentError

def levelTokens (list : Text) : List Text := ((list.splitOn ',').map Text.trim).filter (· ≠ [])

def readLevels (list : Text) : Except ArgumentError (List Level) :=
  (levelTokens list).mapM fun token =>
    match Level.ofToken? token with
    | some l => .ok l
    | none => .error (.unknownLevel token)

def readContext (raw : Text) : Except ArgumentError Nat :=
  (Numeral.read Numeral.max64 raw).mapError (.invalidContext raw)

def readBatch (raw : Text) : Except ArgumentError Nat := do
  let n ← (Numeral.read Numeral.max64 raw).mapError (.invalidBatch raw)
  if n = 0 then throw .zeroBatch else return n

namespace Arguments

def set (a : Arguments) (value : Text) : Flag → Except ArgumentError Arguments
  | .filter => return { a with filter := some value }
  | .levels => return { a with levels := some (← readLevels value) }
  | .earliest => return { a with earliest := some value }
  | .latest => return { a with latest := some value }
  | .context => return { a with context := some (← readContext value) }
  | .search => return { a with search := some value }
  | .batch => return { a with batch := some (← readBatch value) }

/-- Reads on with the arguments so far; `named` tells whether the file was named already. Nothing
is returned where help is asked for. -/
def readFrom (named : Bool) (a : Arguments) : List Text → Except ArgumentError (Option Arguments)
  | [] => if named then .ok (some a) else .error .missingFile
  | arg :: rest =>
    if helpSpellings.elem arg then .ok none
    else if verboseSpellings.elem arg then readFrom named { a with verbose := true } rest
    else match Flag.of? arg, rest with
      | some _, [] => .error (.missingValue arg)
      | some flag, value :: rest => do readFrom named (← a.set value flag) rest
      | none, rest =>
        if arg.head? = some '-' then .error (.unknownOption arg)
        else if named then .error .secondFile
        else readFrom true { a with path := arg } rest

def read (args : List Text) : Except ArgumentError (Option Arguments) :=
  readFrom false { path := [] } args

end Arguments
end Logbook.Cli
