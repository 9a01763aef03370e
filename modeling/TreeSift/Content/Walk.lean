import TreeSift.Content.Node

/-!
# TreeSift.Content.Walk

Walking a tree from a start node, one node at a time.

1. A walk is in pre-order, siblings in their order.  It keeps a stack with one level for each node
   that is open, the innermost first: the children of that node that are still to come.  A pull
   leaves the levels that have run out, takes one child, and looks at nothing else.
2. Every node below the start is asked about once, when it is pulled: whether its children come
   next.  It is returned either way.
3. A walk may start at a node, which is returned unasked and always opened, or below it.
4. What is kept is collected, or handed over one node at a time while the walk goes on.
5. Questions and answers happen in a monad `m`, so their order can be observed.
-/

namespace TreeSift

/-- A walk that has been partly pulled. -/
structure Walk where
  /-- The start node, if it has not been returned yet. -/
  start : Option Node
  /-- The children to come of every open node. -/
  stack : List (List Node)
deriving Inhabited, Repr

namespace Walk

/-- The walk from a node on. -/
def from' (root : Node) : Walk := ⟨some root, []⟩

/-- The walk of everything below a node. -/
def below (root : Node) : Walk := ⟨none, [root.children]⟩

/-- How many nodes are on the levels of a stack, those below them included. -/
def stackSize : List (List Node) → Nat
  | [] => 0
  | level :: stack => Node.sizes level + stackSize stack

/-- How many nodes can still be returned. -/
def weight (w : Walk) : Nat :=
  (match w.start with
    | some n => n.size
    | none => 0) + stackSize w.stack

/-- The next child on a stack and the levels after it; levels without children are left. -/
def advance : List (List Node) → Option (Node × List (List Node))
  | [] => none
  | [] :: stack => advance stack
  | (n :: ns) :: stack => some (n, ns :: stack)

theorem stackSize_advance {stack after : List (List Node)} {n : Node}
    (h : advance stack = some (n, after)) : stackSize stack = n.size + stackSize after := by
  fun_induction advance stack with
  | case1 => contradiction
  | case2 stack ih => simpa [stackSize] using ih h
  | case3 n ns stack =>
    injection h with h
    injection h with hn hs
    subst hn hs
    simp [stackSize, Nat.add_assoc]

/-- What a pull gives: a node, unless the walk is over, and the rest of the walk. -/
structure Pull (w : Walk) where
  /-- The node that was pulled. -/
  node : Option Node
  /-- The walk after it. -/
  after : Walk
  /-- With a node the walk gets lighter. -/
  lighter : node.isSome = true → after.weight < w.weight

/-- The node of a pull and the lighter walk after it, if the walk was not over. -/
def Pull.found {w : Walk} (p : Pull w) : Option (Node × { v : Walk // v.weight < w.weight }) :=
  match h : p.node with
  | none => none
  | some n => some (n, ⟨p.after, p.lighter (by rw [h]; rfl)⟩)

variable {m : Type → Type} [Monad m]

/-- Takes the next node of a walk. -/
def pull (opens : Node → m Bool) (w : Walk) : m (Pull w) :=
  match w with
  | ⟨some root, stack⟩ =>
    pure ⟨some root, ⟨none, root.children :: stack⟩, fun _ => by
      simp only [weight, stackSize, Node.size_eq root]
      omega⟩
  | ⟨none, stack⟩ =>
    match h : advance stack with
    | none => pure ⟨none, ⟨none, []⟩, fun h => nomatch h⟩
    | some (n, after) => do
      if ← opens n then
        pure ⟨some n, ⟨none, n.children :: after⟩, fun _ => by
          simp only [weight, stackSize, stackSize_advance h, Node.size_eq n]
          omega⟩
      else
        pure ⟨some n, ⟨none, after⟩, fun _ => by
          simp only [weight, stackSize_advance h, Node.size_eq n]
          omega⟩

/-- The next node and the walk after it, which is lighter. -/
def next (opens : Node → m Bool) (w : Walk) :
    m (Option (Node × { v : Walk // v.weight < w.weight })) := do
  return (← w.pull opens).found

/-- The nodes that are kept, up to a limit, pulled until the limit is reached or none is left. -/
def select (opens keep : Node → m Bool) (limit : Option Nat) (w : Walk) : m (List Node) :=
  if limit = some 0 then pure []
  else do
    match ← w.next opens with
    | none => pure []
    | some (n, v) =>
      if ← keep n then return n :: (← select opens keep (limit.map (· - 1)) v.val)
      else select opens keep limit v.val
termination_by w.weight
decreasing_by all_goals exact v.property

/-- Hands over the nodes that are kept, up to a limit, each before the next one is pulled. -/
def forEach (opens keep : Node → m Bool) (use : Node → m Unit) (limit : Option Nat) (w : Walk) :
    m Unit :=
  if limit = some 0 then pure ()
  else do
    match ← w.next opens with
    | none => pure ()
    | some (n, v) =>
      if ← keep n then
        use n
        forEach opens keep use (limit.map (· - 1)) v.val
      else forEach opens keep use limit v.val
termination_by w.weight
decreasing_by all_goals exact v.property

end Walk

namespace Node

variable {m : Type → Type} [Monad m]

/-- The first of some nodes that is accepted, and those after it. -/
def nextAccepted (accepts : Node → m Bool) : List Node → m (Option (Node × List Node))
  | [] => pure none
  | n :: ns => do if ← accepts n then pure (some (n, ns)) else nextAccepted accepts ns

/-- The nodes that are accepted, up to a limit. -/
def selectAmong (accepts : Node → m Bool) (limit : Option Nat) : List Node → m (List Node)
  | [] => pure []
  | n :: ns =>
    if limit = some 0 then pure []
    else do
      if ← accepts n then return n :: (← selectAmong accepts (limit.map (· - 1)) ns)
      else selectAmong accepts limit ns

/-- Hands over the nodes that are accepted, up to a limit, each before the next one is looked at. -/
def forEachAmong (accepts : Node → m Bool) (use : Node → m Unit) (limit : Option Nat) :
    List Node → m Unit
  | [] => pure ()
  | n :: ns =>
    if limit = some 0 then pure ()
    else do
      if ← accepts n then
        use n
        forEachAmong accepts use (limit.map (· - 1)) ns
      else forEachAmong accepts use limit ns

end Node

end TreeSift
