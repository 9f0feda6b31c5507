import UriDispatch.CommandLine.Run

/-! The program: files come from the file system, and the outcome goes to the standard streams. -/

open UriDispatch

/-- A file that cannot be read counts as absent. -/
def readStored (path : String) : IO RouteFile.Stored :=
  try
    return some (← IO.FS.readBinFile path)
  catch _ =>
    return none

def main (arguments : List String) : IO UInt32 := do
  let stored ← match CommandLine.Command.read? arguments with
    | some (.resolve file _) => readStored file
    | _ => pure none
  let outcome := CommandLine.run (fun _ => stored) arguments
  IO.print outcome.output
  match outcome with
  | .success _ => pure ()
  | .failure message => IO.eprintln ("Error: " ++ message)
  | .misuse =>
      IO.eprintln "Usage: compile PATTERN [--group NAME=FRAGMENT]... | match --config FILE URI..."
  return outcome.code.toUInt32
