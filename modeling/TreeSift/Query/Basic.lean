import TreeSift.Filter.Stream

/-!
# TreeSift.Query.Basic

Stored queries: selectors with the parameters they need.

1. A query has a branch and a child selector, parameters sorted by name, a limit, and the encoding of
   selectors that come in files of their own.  All of it may be absent.
2. In its own right each selector is a filter with the query's parameters; together they make a
   stream.
3. A query selects nodes in three modes: what the stream returns, the children of the start, or what
   lies below the start.  The last two leave out the start, and for the children the branch selector
   is not even compiled.
-/

namespace TreeSift

/-- A stored query. -/
structure Query where
  /-- Decides which nodes are opened. -/
  branch : Option String := none
  /-- Decides which nodes are returned. -/
  child : Option String := none
  /-- The parameters of both, sorted by name. -/
  parameters : List (String × Json) := []
  limit : Option Nat := none
  /-- The label of the encoding of selectors in files. -/
  encoding : Option String := none
deriving Inhabited, Repr

/-- Which nodes a query selects. -/
inductive Mode where
  /-- The start and what lies below it. -/
  | stream
  /-- The children of the start. -/
  | children
  /-- What lies below the start. -/
  | descendants
deriving DecidableEq, Repr, Inhabited

namespace Query

/-- Sorted parameters with one set. -/
def insertParameter (name : String) (value : Json) : List (String × Json) → List (String × Json)
  | [] => [(name, value)]
  | (n, v) :: ps =>
    match Value.textOrder name.toList n.toList with
    | .lt => (name, value) :: (n, v) :: ps
    | .eq => (name, value) :: ps
    | .gt => (n, v) :: insertParameter name value ps

/-- The query with a parameter set. -/
def setParameter (q : Query) (name : String) (value : Json) : Query :=
  { q with parameters := insertParameter name value q.parameters }

/-- The parameters as values. -/
def values (q : Query) : List (String × Value) :=
  q.parameters.map fun p => (p.1, Value.ofJson p.2)

variable {m : Type → Type} [Monad m]

/-- What the selectors are compiled against. -/
def context (q : Query) : Context m := Context.standard.bindAll q.values

/-- The filter of a selector that may be absent. -/
def filter? (q : Query) (selector : Option String) : Except FilterError (Option (Filter m)) :=
  match selector with
  | none => .ok none
  | some text => (Filter.compile text q.context).map some

/-- The filter of the branch selector. -/
def branchFilter? (q : Query) : Except FilterError (Option (Filter m)) := q.filter? q.branch

/-- The filter of the child selector. -/
def childFilter? (q : Query) : Except FilterError (Option (Filter m)) := q.filter? q.child

/-- The stream of the query from a node on. -/
def stream (q : Query) (root : Node) : Stream m where
  root
  context := q.context
  branch := q.branch.map .text
  child := q.child.map .text
  limit := q.limit

/-- What lies below a node, through both selectors. -/
def descendants (q : Query) (root : Node) : Except FilterError (m (List Node)) := do
  let branch ← q.branchFilter?
  let child ← q.childFilter?
  return (Walk.below root).select (Stream.accepts branch) (Stream.accepts child) q.limit

/-- The nodes that the query selects from a node on. -/
def select (q : Query) (mode : Mode) (root : Node) : Except FilterError (m (List Node)) :=
  match mode with
  | .stream => (q.stream root).nodes
  | .children => (q.stream root).children
  | .descendants => q.descendants root

/-- What a filter without effects says of a node, as a step among others. -/
def test (f : Option (Filter Id)) (n : Node) : m Bool := pure (Stream.accepts f n).run

/-- The nodes that the query selects from a node on, handed over one at a time.  The selectors are
compiled before the first of them. -/
def forEach (q : Query) (mode : Mode) (root : Node) :
    Except FilterError ((Node → m Unit) → m Unit) :=
  match mode with
  | .stream => do
    let branch ← q.branchFilter?
    let child ← q.childFilter?
    return fun use => (Walk.from' root).forEach (test branch) (test child) use q.limit
  | .children => do
    let child ← q.childFilter?
    return fun use => Node.forEachAmong (test child) use q.limit root.children
  | .descendants => do
    let branch ← q.branchFilter?
    let child ← q.childFilter?
    return fun use => (Walk.below root).forEach (test branch) (test child) use q.limit

end Query

end TreeSift
