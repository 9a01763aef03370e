import TreeSift.Filter.Context
import TreeSift.Pattern.Syntax
import TreeSift.Time.Description
import TreeSift.Value.Order

/-!
# TreeSift.Filter.Standard

The operators and functions every filter starts with.

1. `== != > >= < <=` ask for the order of two values; incomparable values satisfy none of them.
2. `like` asks whether the text of the left value, or of one of its items, matches the right value's
   text as a pattern, from start to end.  A text that is no pattern satisfies neither `like` nor
   `like not`, and as a constant it is refused.
3. `contains` looks in a list for an equal item and in a text for a part.  Of several wanted values
   all have to be there, or with `any` one of them.
4. `in` asks whether the left value, which may not be a list, equals an item on the right.
5. `name()` and `path()` are those of the node; `date(v)` reads a value as a date, and
   `date(v, format)` reads its text by a description.
-/

namespace TreeSift

namespace Operator

/-- Whether some item's text has a match. -/
def anyMatches (p : Pattern) (left : Value) : Bool :=
  left.elements.any fun item => p.occursIn item.display

/-- `like` with or without `not`. -/
def likeHolds (negate : Bool) (left right : Value) : Bool :=
  match Pattern.whole? right.display with
  | some p => anyMatches p left != negate
  | none => false

/-- Whether one wanted value is in the left one. -/
def holdsItem (left wanted : Value) : Bool :=
  match left with
  | .text s => Text.isInfix wanted.display s.toList
  | v => v.elements.any fun item => item.looselyEquals wanted

/-- `contains` with or without `any` and `not`. -/
def containsHolds (any negate : Bool) (left right : Value) : Bool :=
  match left, right with
  | .null, _ => false
  | _, .null => false
  | left, right =>
    let found := if any then right.elements.any (holdsItem left)
      else right.elements.all (holdsItem left)
    found != negate

/-- `in` with or without `not`. -/
def withinHolds (negate : Bool) (left right : Value) : Bool :=
  match left with
  | .null => false
  | .list _ => false
  | left => right.elements.any (fun item => left.looselyEquals item) != negate

/-- An operator that asks for the order. -/
def orderHolds (accept : Ordering → Bool) (left right : Value) : Bool :=
  match left.compare? right with
  | some o => accept o
  | none => false

/-- Whether two values satisfy an operator. -/
def holds : Operator → Value → Value → Bool
  | eq => orderHolds Ordering.isEq
  | ne => orderHolds Ordering.isNe
  | gt => orderHolds Ordering.isGT
  | ge => orderHolds Ordering.isGE
  | lt => orderHolds Ordering.isLT
  | le => orderHolds Ordering.isLE
  | like => likeHolds false
  | notLike => likeHolds true
  | contains => containsHolds false false
  | notContains => containsHolds false true
  | containsAny => containsHolds true false
  | notContainsAny => containsHolds true true
  | within => withinHolds false
  | notWithin => withinHolds true

end Operator

variable {m : Type → Type} [Monad m]

namespace Comparison

/-- What `like` makes of a constant: the pattern is read once, and what is none is refused. -/
def specializeLike (negate : Bool) (right : Value) : Specialization m :=
  match Pattern.whole? right.display with
  | some p => .replaced fun left _ => pure (Operator.anyMatches p left != negate)
  | none => .refused (.noPattern right.display)

/-- The usual strategy of an operator. -/
def standard (op : Operator) : Comparison m where
  test left right := pure (op.holds left right)
  specialize := match op with
    | .like => specializeLike false
    | .notLike => specializeLike true
    | _ => fun _ => .unchanged

end Comparison

namespace Function

/-- `name()`. -/
def name : Function m where
  arity := ⟨0, some 0⟩
  call node _ := pure (some (.text node.name))

/-- `path()`. -/
def path : Function m where
  arity := ⟨0, some 0⟩
  call node _ := pure (some (.text node.path))

/-- The date of one argument, or of a text and a description. -/
def dateOf? : List Value → Option Moment
  | [v] => v.asDate?
  | [v, format] => Moment.ofDescription? format.display v.display
  | _ => none

/-- `date(value)` and `date(value, format)`. -/
def date : Function m where
  arity := ⟨1, some 2⟩
  call _ args := pure ((dateOf? args).map .date)

end Function

namespace Context

/-- The context with every operator and the functions `name`, `path` and `date`. -/
def standard : Context m :=
  let operators := Operator.all.foldl (fun c op => c.addComparison op (.standard op)) empty
  ((operators.addFunction "name" .name).addFunction "path" .path).addFunction "date" .date

end Context

end TreeSift
