import TreeSift.CommandLine.Arguments
import TreeSift.Content.Document
import TreeSift.Query.Document

/-!
# TreeSift.CommandLine.Run

A run of the command line, given a way to read files.

1. Content comes first, then the start node, the stored query, and the file with a selector; at last
   the selectors are compiled.  The first failure ends the run.
2. What the command line says goes before what the stored query says.
3. Nothing is written unless everything succeeded.
-/

namespace TreeSift

namespace CommandLine

/-- Why a run ended. -/
inductive Failure where
  | content (path : String) (cause : ContentError)
  | noNode (path : String)
  | query (path : String)
  | unreadable (path : String)
  | undecodable (path : String) (cause : FilterError)
  | selector (cause : FilterError)
deriving Repr

namespace Failure

/-- What failed. -/
def headline : Failure → String
  | content path _ => "CLI: Failed to load content " ++ path
  | noNode path => "CLI: No resource at " ++ path
  | query path => "Config: Failed to load query " ++ path
  | unreadable path => "CLI: Failed to read " ++ path
  | undecodable path _ => "CLI: Failed to decode " ++ path
  | selector _ => "Query: Invalid selector"

/-- Why it failed, as far as is known. -/
def cause? : Failure → Option String
  | content _ cause => some cause.message
  | undecodable _ cause => some cause.message
  | selector cause => some cause.message
  | _ => none

/-- The failure in words. -/
def message (f : Failure) : String :=
  match f.cause? with
  | some cause => "Error: " ++ f.headline ++ "\n\nCaused by:\n    " ++ cause
  | none => "Error: " ++ f.headline

end Failure

/-! ## Steps of a run -/

/-- What has been found, or why the run ended. -/
abbrev Step (m : Type → Type) := ExceptT Failure m

variable {m : Type → Type} [Monad m]

/-- What is there, or a failure. -/
def orFail {α : Type} (f : Failure) (a : Option α) : Step m α :=
  match a with
  | some a => pure a
  | none => throw f

/-- The content of the file. -/
def loadContent (readFile : String → m (Option (List UInt8))) (a : Arguments) : Step m Tree := do
  match Tree.ofFile a.mount a.content (← readFile a.content) with
  | .ok t => return t
  | .error e => throw (.content a.content e)

/-- The node to start from. -/
def startNode (t : Tree) (a : Arguments) : Step m Node :=
  match a.root with
  | some path => orFail (.noNode path) (t.get? path)
  | none => pure t.root

/-- The stored query, or an empty one. -/
def storedQuery (readFile : String → m (Option (List UInt8))) (a : Arguments) : Step m Query := do
  match a.query with
  | some path =>
    let found : m (Option Query) := Query.load? readFile path
    orFail (.query path) (← found)
  | none => return {}

/-- The child selector: from its file, from the command line, or the one that was stored. -/
def childSelector (readFile : String → m (Option (List UInt8))) (a : Arguments)
    (encoding : Option String) (stored : Option String) : Step m (Option String) :=
  match a.expressionFile with
  | some path => do
    let bytes ← orFail (.unreadable path) (← readFile path)
    match Charset.decode bytes encoding with
    | .ok text => return some (String.ofList text)
    | .error e => throw (.undecodable path e)
  | none => pure (a.child <|> stored)

/-- The query to run. -/
def buildQuery (readFile : String → m (Option (List UInt8))) (a : Arguments) : Step m Query := do
  let stored ← storedQuery readFile a
  let encoding := a.encoding <|> stored.encoding
  let child ← childSelector readFile a encoding stored.child
  let q : Query :=
    { stored with
      branch := a.branch <|> stored.branch
      child
      encoding
      limit := a.limit <|> stored.limit }
  return a.parameters.foldl (fun q p => q.setParameter p.1 p.2) q

/-- The line that is written for a node. -/
def line (format : OutputFormat) (n : Node) : String :=
  match format with
  | .paths => n.path
  | .json => n.toJson.compact

/-- The lines of a run. -/
def lines (readFile : String → m (Option (List UInt8))) (a : Arguments) :
    Step m (List String) := do
  let t ← loadContent readFile a
  let root ← startNode t a
  let q ← buildQuery readFile a
  match q.select a.mode root with
  | .ok nodes => return (Id.run nodes).map (line a.format)
  | .error e => throw (.selector e)

/-! ## Outcomes -/

/-- How a run ends. -/
inductive Outcome where
  /-- With lines of output. -/
  | output (lines : List String)
  | failed (f : Failure)
  | misused (e : UsageError)
deriving Repr

namespace Outcome

/-- The exit code. -/
def exitCode : Outcome → Nat
  | output _ => 0
  | failed _ => 1
  | misused _ => 2

/-- What is written to standard output. -/
def stdout : Outcome → List String
  | output lines => lines
  | _ => []

/-- What is written to standard error. -/
def stderr : Outcome → Option String
  | output _ => none
  | failed f => some f.message
  | misused e => some ("error: " ++ e.message)

end Outcome

/-- The name and the number of this version. -/
def versionLine : String := "resource-filter 0.1.0"

/-- How the program is called. -/
def helpLines : List String :=
  ["Usage: resource-filter [OPTIONS] --content <CONTENT>", "", "Options:",
    "  -c, --content <CONTENT>                  Content tree to filter (.json, .yaml, .yml)",
    "      --mount <MOUNT>                      Path the content is mounted at",
    "  -r, --root <ROOT>                        Resource to start from",
    "  -q, --query <QUERY>                      Query file with selectors, params and limit",
    "      --child <CHILD>                      Child selector",
    "      --expression-file <EXPRESSION_FILE>  Read the child selector from a file",
    "      --branch <BRANCH>                    Branch selector",
    "  -p, --param <PARAMS>                     Bind a parameter",
    "      --limit <LIMIT>                      Stop after this many resources",
    "      --encoding <ENCODING>                Encoding of --expression-file",
    "      --mode <MODE>                        stream, children or descendants",
    "      --format <FORMAT>                    paths or json",
    "  -v, --verbose                            Enable verbose output",
    "  -h, --help                               Print help",
    "  -V, --version                            Print version"]

/-- A run of the command line. -/
def run (readFile : String → m (Option (List UInt8))) (arguments : List String) : m Outcome :=
  match Request.ofArguments arguments with
  | .error e => pure (.misused e)
  | .ok .version => pure (.output [versionLine])
  | .ok .help => pure (.output helpLines)
  | .ok (.run a) => do
    match ← lines readFile a with
    | .ok ls => return .output ls
    | .error f => return .failed f

end CommandLine

end TreeSift
