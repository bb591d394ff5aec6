import Logbook.Cli.Arguments
import Logbook.Cli.Report
import Logbook.Text.Utf8

/-! One run of the program. The arguments either settle the outcome or name the file to be read;
what reading it gave then settles the outcome. -/

namespace Logbook.Cli

structure Outcome where
  exit : Nat
  out : List Text
  err : List Text
deriving DecidableEq, Repr

inductive SystemError where
  | notFound
  | denied
  | other (description : Text)
deriving DecidableEq, Repr

def SystemError.message : SystemError → Text
  | .notFound => "No such file or directory (os error 2)".toList
  | .denied => "Permission denied (os error 13)".toList
  | .other description => description

inductive RunError where
  | arguments (e : ArgumentError)
  | invalidEarliest (raw : Text)
  | invalidLatest (raw : Text)
  | unreadable (path : Text) (e : SystemError)
deriving DecidableEq, Repr

namespace RunError

def message : RunError → Text
  | .arguments e => e.message
  | .invalidEarliest raw => "Invalid --from timestamp: ".toList ++ raw
  | .invalidLatest raw => "Invalid --to timestamp: ".toList ++ raw
  | .unreadable path _ => "Failed to open file: ".toList ++ path

def cause? : RunError → Option Text
  | .arguments e => e.cause?
  | .unreadable _ e => some e.message
  | _ => none

end RunError

def usage : List Text :=
  ["Usage: logsift <FILE> [OPTIONS]".toList,
   "".toList,
   "Options:".toList,
   "  --filter, -f EXPR       Filter expression, e.g. 'error||!timeout||#10::#500'".toList,
   "  --level, -l LIST        Comma-separated levels to show (error,warn,info,debug,trace)".toList,
   "  --from TS               Hide entries before TS (YYYY-MM-DD[ HH:MM:SS[.mmm]])".toList,
   "  --to TS                 Hide entries after TS".toList,
   "  --context, -C N         Show N entries around each match".toList,
   "  --search, -s QUERY      Mark entries matching any '||'-separated term".toList,
   "  --batch N               Lines per assembly batch".toList,
   "  --verbose, -v           Debug logging on stderr".toList,
   "  --help, -h              Print this help message".toList]

def errorLines (e : RunError) : List Text :=
  ("Error: ".toList ++ e.message) ::
    match e.cause? with
    | none => []
    | some cause => ["".toList, "Caused by:".toList, "    ".toList ++ cause]

def failure (e : RunError) : Outcome where
  exit := 1
  out := []
  err := match e with
    | .arguments _ => usage ++ errorLines e
    | _ => errorLines e

structure Request where
  path : Text
  setup : Viewer.Setup
  search : Option Text

def time? (side : Side) (fault : Text → RunError) : Option Text → Except RunError (Option Int)
  | none => .ok none
  | some raw =>
    match DateBound.millis? side raw with
    | some ms => .ok (some ms)
    | none => .error (fault raw)

def Arguments.request (a : Arguments) : Except RunError Request := do
  let earliest ← time? .first .invalidEarliest a.earliest
  let latest ← time? .last .invalidLatest a.latest
  return {
    path := a.path
    setup := {
      batchSize := a.batch.getD Viewer.defaultBatchSize
      filter := a.filter
      options := {
        levels := a.levels.elim LevelSet.all LevelSet.only
        timeStart := earliest
        timeEnd := latest
        context := a.context.getD 0 } }
    search := a.search }

def prepare (args : List Text) : Except Outcome Request :=
  match Arguments.read args with
  | .error e => .error (failure (.arguments e))
  | .ok none => .error ⟨0, [], usage⟩
  | .ok (some a) => a.request.mapError failure

section Engine

variable [Regex.Engine]

def Request.viewer (r : Request) (text : Text) : Viewer :=
  let v := Viewer.load text r.setup
  r.search.elim v v.setSearch

def Request.finish (r : Request) : Except SystemError (List UInt8) → Outcome
  | .error e => failure (.unreadable r.path e)
  | .ok bytes =>
    let v := r.viewer (Text.decode bytes)
    { exit := 0
      out := reportLines v
      err := countLine v :: (r.search.map fun _ => searchLine v.search).toList }

end Engine

/-- The length of a pattern stands in for the size of what it compiles to. -/
instance : Regex.Engine := .upTo 1000

end Logbook.Cli
