import TreeSift.Filter.Error

/-!
# TreeSift.Filter.Predicate

Expressions compiled to predicates on nodes.

1. Everything is looked up while compiling: operators, functions and parameters.  The first fault
   from left to right is reported; of a comparison the operator comes first and the refusal of a
   constant last, of a call the name, then the number of arguments.
2. `and` stops at the first false child and `or` at the first true one; `not` is the opposite of
   `and`.
3. An operand may have no value: a path that leads nowhere or to nothing, the constant for nothing,
   a call with such an argument, or one whose function has none.  A comparison with it is false, and
   what stands to its right is not looked at.
4. A condition as an operand is a truth value, and an operand as a condition is true if its value
   counts as true.
-/

namespace TreeSift

/-- A compiled condition. -/
abbrev Predicate (m : Type → Type) := Attributes → m Bool

/-- A compiled operand: its value on a node, if it has one. -/
abbrev Resolver (m : Type → Type) := Attributes → m (Option Value)

variable {m : Type → Type} [Monad m]

namespace Predicate

/-- Asks from the left until one is false. -/
def all : List (Predicate m) → Predicate m
  | [], _ => pure true
  | p :: ps, node => do if ← p node then all ps node else pure false

/-- Asks from the left until one is true. -/
def any : List (Predicate m) → Predicate m
  | [], _ => pure false
  | p :: ps, node => do if ← p node then pure true else any ps node

/-- The opposite. -/
def negate (p : Predicate m) : Predicate m := fun node => do return !(← p node)

/-- The conditions joined by a connective. -/
def joined : Connective → List (Predicate m) → Predicate m
  | .and, ps => all ps
  | .or, ps => any ps
  | .not, ps => negate (all ps)

/-- Two operands compared: the left one first, the right one only if the left one has a value. -/
def compared (test : Value → Value → m Bool) (left right : Resolver m) : Predicate m :=
  fun node => do
    match ← left node with
    | none => pure false
    | some l =>
      match ← right node with
      | none => pure false
      | some r => test l r

/-- An operand as a condition. -/
def truthy (operand : Resolver m) : Predicate m := fun node => do
  match ← operand node with
  | none => pure false
  | some v => pure v.isTruthy

end Predicate

namespace Resolver

/-- Nothing counts as no value. -/
def present : Value → Option Value
  | .null => none
  | v => some v

/-- A constant. -/
def constant (v : Value) : Resolver m := fun _ => pure (present v)

/-- What a path leads to. -/
def path (text : String) : Resolver m := fun node => pure ((node.resolve text).bind present)

/-- A condition as an operand. -/
def condition (p : Predicate m) : Resolver m := fun node => do
  return some (.boolean (← p node))

/-- The values of operands from the left, until one has none. -/
def values : List (Resolver m) → Attributes → m (Option (List Value))
  | [], _ => pure (some [])
  | r :: rs, node => do
    match ← r node with
    | none => pure none
    | some v =>
      match ← values rs node with
      | none => pure none
      | some vs => pure (some (v :: vs))

/-- A function applied to operands that all have values. -/
def call (f : Function m) (args : List (Resolver m)) : Resolver m := fun node => do
  match ← values args node with
  | none => pure none
  | some vs => f.call node vs

end Resolver

namespace Expr

omit [Monad m] in
/-- The value of a constant operand. -/
def constant? (c : Context m) : Expr → Option Value
  | literal v => some v
  | parameter name => c.parameter? name
  | _ => none

omit [Monad m] in
/-- The test of an operator whose right operand is the constant, if it is one. -/
def testFor (op : Operator) (strategy : Comparison m) :
    Option Value → Except FilterError (Value → Value → m Bool)
  | none => .ok strategy.test
  | some v =>
    match strategy.specialize v with
    | .unchanged => .ok strategy.test
    | .replaced test => .ok test
    | .refused reason => .error (.invalidArgument op reason)

/-- A comparison, once its operands are compiled. -/
def comparing (c : Context m) (op : Operator) (constant : Option Value)
    (left right : Except FilterError (Resolver m)) : Except FilterError (Predicate m) :=
  match c.comparison? op with
  | none => .error (.unknownOperator op)
  | some strategy => do
    let l ← left
    let r ← right
    return .compared (← testFor op strategy constant) l r

/-- A call of so many operands, once they are compiled. -/
def calling (c : Context m) (name : String) (given : Nat)
    (args : Except FilterError (List (Resolver m))) : Except FilterError (Resolver m) :=
  match c.function? name with
  | none => .error (.unknownFunction name)
  | some f =>
    if f.arity.accepts given then do return .call f (← args)
    else .error (.wrongArity name f.arity given)

/-- The value of a parameter. -/
def bound (c : Context m) (name : String) : Except FilterError (Resolver m) :=
  match c.parameter? name with
  | none => .error (.unboundParameter name)
  | some v => .ok (.constant v)

mutual

/-- The predicate of an expression. -/
def compile (c : Context m) : Expr → Except FilterError (Predicate m)
  | logic connective children => do return .joined connective (← compileAll c children)
  | comparison op left right =>
    comparing c op (constant? c right) (compileOperand c left) (compileOperand c right)
  | call name args => do
    return .truthy (← calling c name args.length (compileOperands c args))
  | path segments => .ok (.truthy (.path (String.ofList (pathText segments))))
  | literal v => .ok (.truthy (.constant v))
  | parameter name => do return .truthy (← bound c name)

/-- The predicates of several expressions. -/
def compileAll (c : Context m) : List Expr → Except FilterError (List (Predicate m))
  | [] => .ok []
  | e :: es => do return (← compile c e) :: (← compileAll c es)

/-- The value of an operand. -/
def compileOperand (c : Context m) : Expr → Except FilterError (Resolver m)
  | logic connective children => do
    return .condition (.joined connective (← compileAll c children))
  | comparison op left right => do
    return .condition
      (← comparing c op (constant? c right) (compileOperand c left) (compileOperand c right))
  | call name args => calling c name args.length (compileOperands c args)
  | path segments => .ok (.path (String.ofList (pathText segments)))
  | literal v => .ok (.constant v)
  | parameter name => bound c name

/-- The values of several operands. -/
def compileOperands (c : Context m) : List Expr → Except FilterError (List (Resolver m))
  | [] => .ok []
  | e :: es => do return (← compileOperand c e) :: (← compileOperands c es)

end

end Expr

end TreeSift
