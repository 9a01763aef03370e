import TreeSift.CommandLine.Run

/-!
# TreeSift.CommandLine.Execute

A run of the command line that writes as it goes, given ways to read files and to write text.

1. Every node is written when it is found, and before the next one is looked for.
2. All that can fail comes before the first node: what `run` reads and compiles is read and compiled
   here in the same order.
-/

namespace TreeSift

namespace CommandLine

/-- How a run ended that has written its output already. -/
inductive Ending where
  | done
  | failed (f : Failure)
  | misused (e : UsageError)
deriving Repr

namespace Ending

/-- The exit code. -/
def exitCode : Ending → Nat
  | done => 0
  | failed _ => 1
  | misused _ => 2

/-- What is written to standard error. -/
def stderr : Ending → Option String
  | done => none
  | failed f => some f.message
  | misused e => some ("error: " ++ e.message)

end Ending

variable {m : Type → Type} [Monad m]

/-- A line of output. -/
def writeLine (write : String → m Unit) (l : String) : m Unit := write (l ++ "\n")

/-- Finds the nodes and writes a line for each. -/
def writeNodes (readFile : String → m (Option (List UInt8))) (write : String → m Unit)
    (a : Arguments) : Step m Unit := do
  let t ← loadContent readFile a
  let root ← startNode t a
  let q ← buildQuery readFile a
  match q.forEach a.mode root with
  | .ok each =>
    let written : m Unit := each fun n => writeLine write (line a.format n)
    written
  | .error e => throw (.selector e)

/-- A run of the command line. -/
def execute (readFile : String → m (Option (List UInt8))) (write : String → m Unit)
    (arguments : List String) : m Ending := do
  match Request.ofArguments arguments with
  | .error e => return .misused e
  | .ok .version =>
    writeLine write versionLine
    return .done
  | .ok .help =>
    helpLines.forM (writeLine write)
    return .done
  | .ok (.run a) =>
    match ← (writeNodes readFile write a).run with
    | .ok () => return .done
    | .error f => return .failed f

end CommandLine

end TreeSift
