import TreeSift.CommandLine.Execute

/-!
# TreeSift.Main

The program: reads files, runs the command line, and writes what it says.
-/

namespace TreeSift

/-- The bytes of a file; none if it cannot be read. -/
def readFile? (path : String) : IO (Option (List UInt8)) := do
  try
    return some (← IO.FS.readBinFile path).toList
  catch _ => return none

end TreeSift

/-- Runs the command line. -/
def main (arguments : List String) : IO UInt32 := do
  let ending ← TreeSift.CommandLine.execute TreeSift.readFile? (fun text => IO.print text) arguments
  match ending.stderr with
  | some text => IO.eprintln text
  | none => pure ()
  return ending.exitCode.toUInt32
