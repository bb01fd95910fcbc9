import Outbound.Command.Run

open Outbound

/-- The contents of a file, or why it cannot be read. -/
def readFile (path : String) : IO FileContents := do
  try
    return .ok (← IO.FS.readBinFile path)
  catch
    | .inappropriateType .. => return .error .isDirectory
    | _ => return .error .notFound

def main (args : List String) : IO UInt32 := do
  let some log := LogFilter.ofText? ((← IO.getEnv "RUST_LOG").getD "")
    | do
      IO.eprintln "log directives are cut inside a character"
      return UInt32.ofNat Outcome.aborted.exitCode
  match Command.parse args with
  | .error e =>
    IO.print e.output
    IO.eprint e.complaint
    return UInt32.ofNat e.exitCode
  | .ok command =>
    let files ← command.paths.mapM fun path => return (path, ← readFile path)
    let input ← if command.readsStandardInput then (← IO.getStdin).readBinToEnd else pure .empty
    let outcome :=
      command.run (fun path => (files.lookup path).getD (.error .notFound)) input log
    IO.print outcome.output
    for r in outcome.log do
      IO.eprintln r.line
    if let some error := outcome.error then
      IO.eprintln ("Error: " ++ error)
    return UInt32.ofNat outcome.exitCode
