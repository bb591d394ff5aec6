import Logbook.Cli.Run

/-! The program: reads the arguments and the file, and prints the outcome. -/

namespace Logbook

def readBytes (path : String) : IO (Except Cli.SystemError (List UInt8)) := do
  try
    let bytes ← IO.FS.readBinFile path
    return .ok bytes.toList
  catch
    | .noFileOrDirectory .. => return .error .notFound
    | .permissionDenied .. => return .error .denied
    | e => return .error (.other e.toString.toList)

def report (o : Cli.Outcome) : IO UInt32 := do
  let out ← IO.getStdout
  for line in o.out do
    out.putStrLn (String.ofList line)
  let err ← IO.getStderr
  for line in o.err do
    err.putStrLn (String.ofList line)
  return UInt32.ofNat o.exit

end Logbook

def main (args : List String) : IO UInt32 :=
  match Logbook.Cli.prepare (args.map String.toList) with
  | .error outcome => Logbook.report outcome
  | .ok request => do
    let bytes ← Logbook.readBytes (String.ofList request.path)
    Logbook.report (request.finish bytes)
