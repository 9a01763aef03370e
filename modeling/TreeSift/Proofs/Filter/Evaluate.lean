import TreeSift.Filter.Predicate

/-!
# TreeSift.Proofs.Filter.Evaluate

What an expression means on a node, without compiling anything.

1. `Expr.value` walks the expression and looks every name up when it comes to it.  A condition is a
   truth value, and an expression holds on a node (`Expr.evaluate`) if its value counts as true.
2. An expression may have no value: a path that leads nowhere or to nothing, the constant for
   nothing, a call with such an argument, or one whose function has none.  What a context does not
   know has no value either, which no compiled expression comes across.
-/

namespace TreeSift

variable {m : Type → Type} [Monad m]

/-- The answer of the strategy of an operator for two values.  A strategy that has a version made
for the constant on the right is asked in that version. -/
def Context.ask (c : Context m) (op : Operator) (constant : Option Value) (l r : Value) : m Bool :=
  match c.comparison? op with
  | none => pure false
  | some strategy =>
    match constant.map strategy.specialize with
    | some (.replaced test) => test l r
    | _ => strategy.test l r

namespace Expr

/-- Whether a value counts as true; no value does not. -/
def counts : Option Value → Bool
  | none => false
  | some v => v.isTruthy

mutual

/-- The value of an expression on a node, if it has one. -/
def value (c : Context m) (node : Attributes) : Expr → m (Option Value)
  | logic .and children => do return some (.boolean (← every c node children))
  | logic .or children => do return some (.boolean (← either c node children))
  | logic .not children => do return some (.boolean (!(← every c node children)))
  | comparison op left right => do
    match ← value c node left with
    | none => return some (.boolean false)
    | some l =>
      match ← value c node right with
      | none => return some (.boolean false)
      | some r => return some (.boolean (← c.ask op (constant? c right) l r))
  | call name args =>
    match c.function? name with
    | none => pure none
    | some f => do
      match ← values c node args with
      | none => pure none
      | some vs => f.call node vs
  | path segments =>
    match node.resolve (String.ofList (pathText segments)) with
    | some .null => pure none
    | found => pure found
  | literal .null => pure none
  | literal v => pure (some v)
  | parameter name =>
    match c.parameter? name with
    | some .null => pure none
    | found => pure found

/-- Whether all of several expressions hold, asked from the left until one does not. -/
def every (c : Context m) (node : Attributes) : List Expr → m Bool
  | [] => pure true
  | e :: es => do if counts (← value c node e) then every c node es else pure false

/-- Whether one of several expressions holds, asked from the left until one does. -/
def either (c : Context m) (node : Attributes) : List Expr → m Bool
  | [] => pure false
  | e :: es => do if counts (← value c node e) then pure true else either c node es

/-- The values of several expressions, asked for from the left until one has none. -/
def values (c : Context m) (node : Attributes) : List Expr → m (Option (List Value))
  | [] => pure (some [])
  | e :: es => do
    match ← value c node e with
    | none => pure none
    | some v =>
      match ← values c node es with
      | none => pure none
      | some vs => pure (some (v :: vs))

end

/-- Whether an expression holds on a node. -/
def evaluate (c : Context m) (node : Attributes) (e : Expr) : m Bool := do
  return counts (← value c node e)

end Expr

end TreeSift
