import TreeSift.Query.Basic
import TreeSift.Query.Parameter

/-!
# TreeSift.CommandLine.Arguments

The arguments of the command line.

1. An option has a long name, and some have a letter.  Its value follows as the next argument or
   after `=`; after a letter it may follow directly.  Letters of flags may be written together.
2. The next argument is no value if it looks like an option itself: a dash with something after it.
   After `--` nothing is an option, and there are no other arguments.
3. Every option may be given once, except for parameters.  A selector may be given directly or in a
   file, not both.
4. The first fault from left to right is reported; what is missing, or may not be there together,
   is reported last.  Asking for the version or for help ends the reading.
-/

namespace TreeSift

namespace CommandLine

/-- How nodes are written. -/
inductive OutputFormat where
  /-- A path a line. -/
  | paths
  /-- A JSON object a line. -/
  | json
deriving DecidableEq, Repr, Inhabited

/-- What the command line asks for. -/
structure Arguments where
  /-- The file with the content. -/
  content : String
  /-- Where the content is mounted. -/
  mount : String := "/"
  /-- The node to start from. -/
  root : Option String := none
  /-- The file with a stored query. -/
  query : Option String := none
  child : Option String := none
  /-- The file with the child selector. -/
  expressionFile : Option String := none
  branch : Option String := none
  /-- Parameters in the order they are given. -/
  parameters : List (String × Json) := []
  limit : Option Nat := none
  encoding : Option String := none
  mode : Mode := .stream
  format : OutputFormat := .paths
  verbose : Bool := false
deriving Inhabited, Repr

/-- What is to be done. -/
inductive Request where
  | run (arguments : Arguments)
  | version
  | help
deriving Inhabited, Repr

/-- An option with a value. -/
inductive Key where
  | content
  | mount
  | root
  | query
  | child
  | expressionFile
  | branch
  | parameter
  | limit
  | encoding
  | mode
  | format
deriving DecidableEq, Repr

namespace Key

/-- The long names. -/
def names : List (String × Key) :=
  [("content", content), ("mount", mount), ("root", root), ("query", query), ("child", child),
    ("expression-file", expressionFile), ("branch", branch), ("param", parameter),
    ("limit", limit), ("encoding", encoding), ("mode", mode), ("format", format)]

/-- The letters. -/
def letters : List (Char × Key) :=
  [('c', content), ('r', root), ('q', query), ('p', parameter)]

/-- The long name of an option. -/
def name (k : Key) : String :=
  match names.find? fun e => e.2 == k with
  | some (n, _) => n
  | none => ""

end Key

/-- Why the arguments cannot be understood. -/
inductive UsageError where
  | unexpected (argument : String)
  | missingValue (key : Key)
  | unwantedValue (name : String)
  | repeated (name : String)
  | invalidValue (key : Key) (value : String)
  | invalidParameter (e : ParameterError)
  | missing (key : Key)
  | conflict (a b : Key)
deriving Repr

namespace UsageError

/-- The error in words. -/
def message : UsageError → String
  | unexpected argument => "unexpected argument '" ++ argument ++ "' found"
  | missingValue key => "a value is required for '--" ++ key.name ++ "' but none was supplied"
  | unwantedValue name => "unexpected value for '--" ++ name ++ "' found; no more were expected"
  | repeated name => "the argument '--" ++ name ++ "' cannot be used multiple times"
  | invalidValue key value => "invalid value '" ++ value ++ "' for '--" ++ key.name ++ "'"
  | invalidParameter e => "invalid value for '--param': " ++ e.message
  | missing key => "the following required arguments were not provided: --" ++ key.name
  | conflict a b =>
    "the argument '--" ++ a.name ++ "' cannot be used with '--" ++ b.name ++ "'"

end UsageError

/-! ## Values -/

/-- The values given so far. -/
structure Draft where
  /-- The file with the content, if it was given already. -/
  content : Option String := none
  mount : Option String := none
  root : Option String := none
  query : Option String := none
  child : Option String := none
  expressionFile : Option String := none
  branch : Option String := none
  parameters : List (String × Json) := []
  limit : Option Nat := none
  encoding : Option String := none
  mode : Option Mode := none
  format : Option OutputFormat := none
  verbose : Bool := false

/-- The mode with a name. -/
def modeOf? (s : String) : Option Mode :=
  match s with
  | "stream" => some .stream
  | "children" => some .children
  | "descendants" => some .descendants
  | _ => none

/-- The output format with a name. -/
def formatOf? (s : String) : Option OutputFormat :=
  match s with
  | "paths" => some .paths
  | "json" => some .json
  | _ => none

/-- The number of 64 bits that a text is. -/
def countOf? (s : String) : Option Nat :=
  let digits := match s.toList with
    | '+' :: r => r
    | r => r
  (Number.readBase? 10 digits).filter fun n => decide (n < UInt64.size)

namespace Draft

/-- A value that may be given once. -/
def once {α : Type} (key : Key) (old : Option α) (new : α) : Except UsageError (Option α) :=
  match old with
  | none => .ok (some new)
  | some _ => .error (.repeated key.name)

/-- A file's path, which has to be there. -/
def filePath (key : Key) (value : String) : Except UsageError String :=
  if value.isEmpty then .error (.missingValue key) else .ok value

/-- A value of a given kind. -/
def parsed {α : Type} (key : Key) (value : String) (a : Option α) : Except UsageError α :=
  match a with
  | some a => .ok a
  | none => .error (.invalidValue key value)

/-- The draft with a value given. -/
def give (d : Draft) (key : Key) (value : String) : Except UsageError Draft :=
  match key with
  | .content => do return { d with content := ← once key d.content (← filePath key value) }
  | .mount => do return { d with mount := ← once key d.mount value }
  | .root => do return { d with root := ← once key d.root value }
  | .query => do return { d with query := ← once key d.query (← filePath key value) }
  | .child => do return { d with child := ← once key d.child value }
  | .expressionFile => do
    return { d with expressionFile := ← once key d.expressionFile (← filePath key value) }
  | .branch => do return { d with branch := ← once key d.branch value }
  | .parameter =>
    match Parameter.ofText value.toList with
    | .ok p => .ok { d with parameters := d.parameters ++ [p] }
    | .error e => .error (.invalidParameter e)
  | .limit => do
    return { d with limit := ← once key d.limit (← parsed key value (countOf? value)) }
  | .encoding => do return { d with encoding := ← once key d.encoding value }
  | .mode => do return { d with mode := ← once key d.mode (← parsed key value (modeOf? value)) }
  | .format => do
    return { d with format := ← once key d.format (← parsed key value (formatOf? value)) }

/-- The draft with the flag given. -/
def giveVerbose (d : Draft) : Except UsageError Draft :=
  if d.verbose then .error (.repeated "verbose") else .ok { d with verbose := true }

/-- The arguments, if all that is needed was given. -/
def finish (d : Draft) : Except UsageError Arguments :=
  match d.expressionFile, d.child, d.content with
  | some _, some _, _ => .error (.conflict .expressionFile .child)
  | _, _, none => .error (.missing .content)
  | expressionFile, child, some content =>
    .ok {
      content
      mount := d.mount.getD "/"
      root := d.root
      query := d.query
      child
      expressionFile
      branch := d.branch
      parameters := d.parameters
      limit := d.limit
      encoding := d.encoding
      mode := d.mode.getD .stream
      format := d.format.getD .paths
      verbose := d.verbose }

end Draft

/-! ## Reading arguments -/

/-- What an argument leaves to be done. -/
inductive Progress where
  /-- Nothing. -/
  | done (d : Draft)
  /-- The next argument is the value. -/
  | wants (d : Draft) (key : Key)
  /-- The reading ends. -/
  | stop (r : Request)

/-- Whether an argument looks like an option. -/
def isOption (argument : String) : Bool :=
  match argument.toList with
  | '-' :: _ :: _ => true
  | _ => false

/-- Letters after a dash. -/
def readLetters (argument : String) (d : Draft) : List Char → Except UsageError Progress
  | [] => .ok (.done d)
  | 'v' :: r => do readLetters argument (← d.giveVerbose) r
  | 'V' :: _ => .ok (.stop .version)
  | 'h' :: _ => .ok (.stop .help)
  | c :: r =>
    match (Key.letters.find? fun e => e.1 == c).map Prod.snd with
    | none => .error (.unexpected argument)
    | some key =>
      match r with
      | [] => .ok (.wants d key)
      | '=' :: value => do return .done (← d.give key (String.ofList value))
      | value => do return .done (← d.give key (String.ofList value))

/-- A long name after two dashes, and its value if there is one. -/
def readLong (argument : String) (d : Draft) (cs : List Char) : Except UsageError Progress :=
  let name := String.ofList (cs.takeWhile (· != '='))
  let value? := match cs.dropWhile (· != '=') with
    | [] => none
    | _ :: value => some (String.ofList value)
  match (Key.names.find? fun e => e.1 == name).map Prod.snd, value? with
  | some key, some value => do return .done (← d.give key value)
  | some key, none => .ok (.wants d key)
  | none, value? =>
    if name == "verbose" || name == "version" || name == "help" then
      if value?.isSome then .error (.unwantedValue name)
      else if name == "version" then .ok (.stop .version)
      else if name == "help" then .ok (.stop .help)
      else do return .done (← d.giveVerbose)
    else .error (.unexpected argument)

/-- The first of some arguments. -/
def readOption (argument : String) (d : Draft) : Except UsageError Progress :=
  match argument.toList with
  | '-' :: '-' :: cs => readLong argument d cs
  | '-' :: c :: cs => readLetters argument d (c :: cs)
  | _ => .error (.unexpected argument)

mutual

/-- Reads on over arguments. -/
def readArguments (d : Draft) : List String → Except UsageError Request
  | [] => do return .run (← d.finish)
  | "--" :: r =>
    match r with
    | [] => do return .run (← d.finish)
    | a :: _ => .error (.unexpected a)
  | a :: r =>
    match readOption a d with
    | .error e => .error e
    | .ok (.stop request) => .ok request
    | .ok (.done d) => readArguments d r
    | .ok (.wants d key) => readValue d key r

/-- Reads the value of an option and goes on. -/
def readValue (d : Draft) (key : Key) : List String → Except UsageError Request
  | [] => .error (.missingValue key)
  | value :: r =>
    if isOption value then .error (.missingValue key)
    else
      match d.give key value with
      | .error e => .error e
      | .ok d => readArguments d r

end

/-- What arguments ask for. -/
def Request.ofArguments (arguments : List String) : Except UsageError Request :=
  readArguments {} arguments

end CommandLine

end TreeSift
