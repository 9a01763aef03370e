import TreeSift.Charset.Decode
import TreeSift.Content.Walk
import TreeSift.Filter.Predicate
import TreeSift.Filter.Standard

/-!
# TreeSift.Filter.Basic

Filters: expressions compiled against a context, ready to be asked about nodes.

1. A filter keeps its text and its context, so that a parameter can be bound anew.  Binding compiles
   again and leaves the first filter as it was.
2. A filter selects among a node's children, among everything below it, or in its whole tree.
-/

namespace TreeSift

/-- A compiled filter. -/
structure Filter (m : Type → Type) where
  /-- The text it was compiled from. -/
  source : String
  /-- What it was compiled against. -/
  context : Context m
  /-- The compiled condition. -/
  predicate : Predicate m

namespace Filter

variable {m : Type → Type} [Monad m]

/-- The filter of a text. -/
def compile (text : String) (context : Context m) : Except FilterError (Filter m) := do
  let e ← Expr.ofText text.toList
  return ⟨text, context, ← e.compile context⟩

/-- The filter of an encoded text. -/
def compileBytes (bytes : List UInt8) (label : Option String) (context : Context m) :
    Except FilterError (Filter m) := do
  compile (String.ofList (← Charset.decode bytes label)) context

omit [Monad m] in
/-- Whether a node satisfies the filter. -/
def test (f : Filter m) (n : Node) : m Bool := f.predicate n.attributes

/-- The filter with a parameter bound anew. -/
def bind (f : Filter m) (name : String) (value : Value) : Except FilterError (Filter m) :=
  compile f.source (f.context.bind name value)

/-- The children of a node that satisfy the filter. -/
def selectChildren (f : Filter m) (n : Node) : m (List Node) :=
  Node.selectAmong f.test none n.children

/-- The nodes below a node that satisfy the filter. -/
def selectDescendants (f : Filter m) (n : Node) : m (List Node) :=
  (Walk.below n).select (fun _ => pure true) f.test none

/-- The nodes of a tree that satisfy the filter. -/
def selectSubtree (f : Filter m) (n : Node) : m (List Node) :=
  (Walk.from' n).select (fun _ => pure true) f.test none

end Filter

/-! ## The developer's view -/

/-- Texts between brackets, separated by commas and blanks. -/
def bracketed (texts : List (List Char)) : List Char :=
  '[' :: (Text.joinWith [',', ' '] texts ++ [']'])

/-- Names in quotes and in order. -/
def quotedNames (names : List String) : List Char :=
  let sorted := names.mergeSort fun a b => Value.textOrder a.toList b.toList != .gt
  bracketed (sorted.map Quoted.text)

/-- A context in the developer's view. -/
def Context.debug {m : Type → Type} (c : Context m) : List Char :=
  let arguments := c.parameters.entries.map fun e => Quoted.text e.1 ++ ": ".toList ++ e.2.debug
  "Context \x7b arguments: \x7b".toList ++ Text.joinWith [',', ' '] arguments ++
    "\x7d, comparisons: ".toList ++ quotedNames (c.comparisons.keys.map Operator.symbol) ++
    ", functions: ".toList ++ quotedNames c.functions.keys ++ " \x7d".toList

/-- A filter in the developer's view. -/
def Filter.debug {m : Type → Type} (f : Filter m) : List Char :=
  "ResourceFilter \x7b source: ".toList ++ Quoted.text f.source ++ ", context: ".toList ++
    f.context.debug ++ ", .. \x7d".toList

end TreeSift
