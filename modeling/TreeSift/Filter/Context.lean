import TreeSift.Expr.Basic
import TreeSift.Filter.Registry

/-!
# TreeSift.Filter.Context

What an expression is compiled against: parameters, and strategies for operators and functions.

1. A node is seen through its *attributes*: its name, its path, and what relative paths lead to.
2. Strategies act in a monad `m`, so that a caller can watch them being called; nothing in this
   library depends on which monad it is.
3. A comparison only ever sees two values that are there.  When the right one is a constant, the
   strategy is asked once, while compiling, whether it has a version made for that constant or
   refuses it.
4. A function may have no value for its arguments; a comparison that uses it is then false.
-/

namespace TreeSift

/-- What a filter may look at in a node. -/
structure Attributes where
  /-- The last segment of the path. -/
  name : String
  /-- The absolute path. -/
  path : String
  /-- The value a relative path leads to. -/
  resolve : String → Option Value

/-- Why a constant is refused. -/
inductive Refusal where
  /-- The strategy has its own words for it. -/
  | because (words : String)
  /-- The text is no pattern; what is wrong with it the pattern engine says. -/
  | noPattern (text : List Char)
deriving Repr, DecidableEq, Inhabited

/-- What a comparison makes of a constant right operand. -/
inductive Specialization (m : Type → Type) where
  /-- Nothing: it compares as ever. -/
  | unchanged
  /-- A test made for the constant, to be asked instead. -/
  | replaced (test : Value → Value → m Bool)
  /-- The constant can never be compared with. -/
  | refused (reason : Refusal)

/-- The meaning of one operator. -/
structure Comparison (m : Type → Type) where
  /-- Decides for two values. -/
  test : Value → Value → m Bool
  /-- Prepares for a constant right operand. -/
  specialize : Value → Specialization m := fun _ => .unchanged

/-- How many arguments a function accepts. -/
structure Arity where
  /-- The least number. -/
  least : Nat
  /-- The greatest number; none if there is no bound. -/
  greatest : Option Nat
deriving DecidableEq, Repr, Inhabited

namespace Arity

/-- Any number of arguments. -/
def any : Arity := ⟨0, none⟩

/-- Whether so many arguments are accepted. -/
def accepts (a : Arity) (n : Nat) : Bool :=
  decide (a.least ≤ n) && match a.greatest with
    | none => true
    | some g => decide (n ≤ g)

/-- The greatest number of arguments that can be counted. -/
def countLimit : Nat := UInt64.size - 1

/-- The greatest number as a number. -/
def upper (a : Arity) : Nat := a.greatest.getD countLimit

end Arity

/-- A function that expressions can call. -/
structure Function (m : Type → Type) where
  /-- The numbers of arguments it accepts. -/
  arity : Arity := Arity.any
  /-- Its value for a node and arguments, if it has one. -/
  call : Attributes → List Value → m (Option Value)

/-- What an expression is compiled against. -/
structure Context (m : Type → Type) where
  /-- The values of parameters. -/
  parameters : Registry String Value
  /-- The strategies of operators. -/
  comparisons : Registry Operator (Comparison m)
  /-- The functions by name. -/
  functions : Registry String (Function m)

namespace Context

variable {m : Type → Type}

/-- The context that knows nothing. -/
def empty : Context m := ⟨.empty, .empty, .empty⟩

instance : Inhabited (Context m) := ⟨empty⟩

/-- Binds a parameter; an earlier value is replaced. -/
def bind (c : Context m) (name : String) (value : Value) : Context m :=
  { c with parameters := c.parameters.insert name value }

/-- Binds parameters one after the other. -/
def bindAll (c : Context m) (bindings : List (String × Value)) : Context m :=
  bindings.foldl (fun c b => c.bind b.1 b.2) c

/-- Gives an operator a strategy. -/
def addComparison (c : Context m) (op : Operator) (strategy : Comparison m) : Context m :=
  { c with comparisons := c.comparisons.insert op strategy }

/-- Gives a name a function. -/
def addFunction (c : Context m) (name : String) (function : Function m) : Context m :=
  { c with functions := c.functions.insert name function }

/-- The value of a parameter. -/
def parameter? (c : Context m) (name : String) : Option Value := c.parameters.get? name

/-- The strategy of an operator. -/
def comparison? (c : Context m) (op : Operator) : Option (Comparison m) := c.comparisons.get? op

/-- The function with a name. -/
def function? (c : Context m) (name : String) : Option (Function m) := c.functions.get? name

end Context

end TreeSift
