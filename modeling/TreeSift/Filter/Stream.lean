import TreeSift.Filter.Basic

/-!
# TreeSift.Filter.Stream

Nodes of a tree through two selectors.

1. The *branch* selector decides which nodes are opened, the *child* selector which are returned;
   without one, all of them.  Both share their parameters.
2. Selectors are decoded and compiled when the stream starts, the branch selector first, before any
   node is looked at.
3. A limit stops the walk with the last node it allows; nothing is asked after that.
4. Listing the children of the start needs the child selector only.
-/

namespace TreeSift

/-- The text of a selector, or bytes that encode it. -/
inductive Selector where
  | text (source : String)
  | encoded (bytes : List UInt8) (label : Option String)
deriving Repr, Inhabited

variable {m : Type → Type} [Monad m]

/-- The filter of a selector. -/
def Selector.compile (s : Selector) (context : Context m) : Except FilterError (Filter m) :=
  match s with
  | text source => Filter.compile source context
  | encoded bytes label => Filter.compileBytes bytes label context

/-- A stream that has not been started. -/
structure Stream (m : Type → Type) where
  /-- Where it starts. -/
  root : Node
  /-- What the selectors are compiled against. -/
  context : Context m
  branch : Option Selector := none
  child : Option Selector := none
  limit : Option Nat := none

/-- A change to a stream before it is started. -/
inductive Adjustment where
  | branch (selector : Selector)
  | child (selector : Selector)
  | bind (name : String) (value : Value)
  | bindAll (bindings : List (String × Value))
  | limit (n : Nat)
deriving Repr, Inhabited

namespace Stream

/-- The stream with a change made. -/
def adjust (s : Stream m) : Adjustment → Stream m
  | .branch selector => { s with branch := some selector }
  | .child selector => { s with child := some selector }
  | .bind name value => { s with context := s.context.bind name value }
  | .bindAll bindings => { s with context := s.context.bindAll bindings }
  | .limit n => { s with limit := some n }

/-- The stream with changes made one after the other. -/
def adjustAll (s : Stream m) (changes : List Adjustment) : Stream m := changes.foldl adjust s

/-- The filter of a selector that may be absent. -/
def filter? (s : Stream m) (selector : Option Selector) : Except FilterError (Option (Filter m)) :=
  match selector with
  | none => .ok none
  | some sel => (sel.compile s.context).map some

/-- What an absent filter accepts: everything. -/
def accepts (f : Option (Filter m)) (n : Node) : m Bool :=
  match f with
  | none => pure true
  | some f => f.test n

/-- The start and what lies below it, through both selectors. -/
def nodes (s : Stream m) : Except FilterError (m (List Node)) := do
  let branch ← s.filter? s.branch
  let child ← s.filter? s.child
  return (Walk.from' s.root).select (accepts branch) (accepts child) s.limit

/-- The children of the start, through the child selector. -/
def children (s : Stream m) : Except FilterError (m (List Node)) := do
  let child ← s.filter? s.child
  return Node.selectAmong (accepts child) s.limit s.root.children

end Stream

end TreeSift
