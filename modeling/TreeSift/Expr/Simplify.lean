import TreeSift.Expr.Basic

/-!
# TreeSift.Expr.Simplify

Flattening of nested joins: a conjunction directly inside a conjunction gives its children up to it,
and so does a disjunction inside a disjunction.  Joins are looked for along connectives only; what
stands inside a comparison or a call is left as it is.
-/

namespace TreeSift

namespace Expr

/-- The children an expression contributes to a join of the given kind: its own if it is such a
join, otherwise itself. -/
def spread (c : Connective) : Expr → List Expr
  | logic d children => if d = c then children else [logic d children]
  | e => [e]

mutual

/-- The expression with nested joins of one kind flattened. -/
def simplify : Expr → Expr
  | logic .not children => logic .not (simplifyAll children)
  | logic .and children => logic .and (flatten .and children)
  | logic .or children => logic .or (flatten .or children)
  | e => e

/-- Every expression flattened on its own. -/
def simplifyAll : List Expr → List Expr
  | [] => []
  | e :: es => simplify e :: simplifyAll es

/-- The children of a flattened join. -/
def flatten (c : Connective) : List Expr → List Expr
  | [] => []
  | e :: es => spread c (simplify e) ++ flatten c es

end

end Expr

end TreeSift
