import TreeSift.Value.Text

/-!
# TreeSift.Expr.Basic

Filter expressions.

1. An expression is a condition or an operand; nothing but the grammar keeps the two apart, so every
   operand may stand where a condition is wanted and the other way round.
2. `and` and `or` join any number of children.  `not` denies the conjunction of its children; the
   grammar gives it exactly one.
3. A path keeps its segments apart.

The text of an expression puts every join and every denial in parentheses; nothing else has any.
-/

namespace TreeSift

/-- The operators that compare two operands. -/
inductive Operator where
  | eq
  | ne
  | gt
  | ge
  | lt
  | le
  | like
  | notLike
  | contains
  | notContains
  | containsAny
  | notContainsAny
  | within
  | notWithin
deriving DecidableEq, Repr, Inhabited

namespace Operator

/-- Every operator, in the order they are listed. -/
def all : List Operator :=
  [eq, ne, gt, ge, lt, le, like, notLike, contains, notContains, containsAny, notContainsAny,
    within, notWithin]

/-- How the operator is written. -/
def symbol : Operator → String
  | eq => "=="
  | ne => "!="
  | gt => ">"
  | ge => ">="
  | lt => "<"
  | le => "<="
  | like => "like"
  | notLike => "like not"
  | contains => "contains"
  | notContains => "contains not"
  | containsAny => "contains any"
  | notContainsAny => "contains not any"
  | within => "in"
  | notWithin => "not in"

/-- The operator with that symbol. -/
def ofSymbol? (s : String) : Option Operator := all.find? fun op => op.symbol == s

end Operator

/-- The words that join conditions. -/
inductive Connective where
  | and
  | or
  | not
deriving DecidableEq, Repr, Inhabited

/-- A filter expression. -/
inductive Expr where
  /-- Conditions joined by one connective. -/
  | logic (connective : Connective) (children : List Expr)
  /-- Two operands compared. -/
  | comparison (operator : Operator) (left right : Expr)
  /-- A function applied to operands. -/
  | call (name : String) (args : List Expr)
  /-- The property a relative path leads to. -/
  | path (segments : List String)
  /-- A constant. -/
  | literal (value : Value)
  /-- A parameter, bound when the expression is compiled. -/
  | parameter (name : String)
deriving Repr, Inhabited

namespace Expr

/-- The conjunction of conditions. -/
def all (children : List Expr) : Expr := logic .and children

/-- The disjunction of conditions. -/
def any (children : List Expr) : Expr := logic .or children

/-- The denial of a condition. -/
def deny (e : Expr) : Expr := logic .not [e]

/-- The segments of a path text, which slashes part. -/
def segmentsOf (text : List Char) : List String := (Text.splitAt '/' text).map String.ofList

/-- The path with the given text. -/
def ofPathText (text : String) : Expr := path (segmentsOf text.toList)

/-- The text of a path: its segments with slashes between them. -/
def pathText (segments : List String) : List Char :=
  Text.joinWith ['/'] (segments.map String.toList)

/-! ## Text -/

/-- A text constant: its quotes are escaped, nothing else. -/
def quote (s : String) : List Char :=
  '\'' :: (s.toList.flatMap (fun c => if c = '\'' then ['\\', '\''] else [c]) ++ ['\''])

/-- A constant. -/
def renderLiteral : Value → List Char
  | .text s => quote s
  | v => v.display

/-- What stands between the children of a join. -/
def separator : Connective → List Char
  | .and => " and ".toList
  | .or => " or ".toList
  | .not => [' ']

mutual

/-- The text of an expression. -/
def render : Expr → List Char
  | logic .not children => "(not".toList ++ renderDenied children ++ [')']
  | logic .and children => '(' :: (renderJoined (separator .and) children ++ [')'])
  | logic .or children => '(' :: (renderJoined (separator .or) children ++ [')'])
  | comparison op left right =>
    render left ++ ' ' :: (op.symbol.toList ++ ' ' :: render right)
  | call name args => name.toList ++ '(' :: (renderJoined [',', ' '] args ++ [')'])
  | path segments => '[' :: (pathText segments ++ [']'])
  | literal v => renderLiteral v
  | parameter name => '$' :: name.toList

/-- Texts with a separator between neighbours. -/
def renderJoined (sep : List Char) : List Expr → List Char
  | [] => []
  | [e] => render e
  | e :: es => render e ++ sep ++ renderJoined sep es

/-- Texts with a blank before each. -/
def renderDenied : List Expr → List Char
  | [] => []
  | e :: es => ' ' :: (render e ++ renderDenied es)

end

/-! ## Identity -/

mutual

/-- Whether two expressions are the same, constants being compared as values are. -/
def same : Expr → Expr → Bool
  | logic c as, logic d bs => c == d && sameAll as bs
  | comparison p a b, comparison q c d => p == q && same a c && same b d
  | call f as, call g bs => f == g && sameAll as bs
  | path p, path q => p == q
  | literal v, literal w => v.same w
  | parameter p, parameter q => p == q
  | _, _ => false

/-- Whether two lists hold the same expressions. -/
def sameAll : List Expr → List Expr → Bool
  | [], [] => true
  | a :: as, b :: bs => same a b && sameAll as bs
  | _, _ => false

end

end Expr

end TreeSift
