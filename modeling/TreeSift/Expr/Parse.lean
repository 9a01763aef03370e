import TreeSift.Number.Range
import TreeSift.Expr.Simplify
import TreeSift.Expr.Token

/-!
# TreeSift.Expr.Parse

The grammar of filter expressions.

```
filter     = disjunction
disjunction = conjunction ("or" conjunction)*
conjunction = denial ("and" denial)*
denial     = "not" denial | comparison
comparison = operand (operator operand)?
operator   = "==" | "!=" | ">" | ">=" | "<" | "<=" | "like" ["not"]
           | "contains" ["not"] ["any"] | ["not"] "in"
operand    = path | string | number | date | parameter | "true" | "false" | "null"
           | function "(" (operand ("," operand)*)? ")" | "(" disjunction ")"
```

1. An operand that is neither compared nor in parentheses may stand alone as the whole filter or in
   parentheses, but not under `and`, `or` or `not`.
2. Nested joins of one kind are flattened as they are built.
3. Every rule returns what it read and the tokens after it, of which there are fewer; that is why
   reading ends.
-/

namespace TreeSift

/-- What the grammar wanted. -/
inductive Wanted where
  | condition
  | connective
  | operatorOrConnective
  | validDate
  | number
  | operand
  | openParen
  | closeParen
  | commaOrCloseParen
deriving DecidableEq, Repr, Inhabited

/-- What the grammar met instead. -/
inductive Found where
  | endOfInput
  | token (lexeme : Lexeme)
  | bareOperand (e : Expr)
deriving Repr, Inhabited

/-- A place where the tokens leave the grammar. -/
structure ParseError where
  /-- The byte offset. -/
  position : Nat
  /-- What was wanted there. -/
  expected : Wanted
  /-- What stood there. -/
  found : Found
deriving Repr, Inhabited

namespace Grammar

/-- Something read, with fewer than `bound` tokens after it. -/
structure Parsed (α : Type) (bound : Nat) where
  /-- What was read. -/
  value : α
  /-- The tokens after it. -/
  rest : List Token
  /-- Reading took at least one token. -/
  short : rest.length < bound

/-- An expression, and where it starts if it is an operand that still lacks a comparison. -/
structure Term where
  /-- The expression. -/
  expr : Expr
  /-- The position of an operand that was not compared and not in parentheses. -/
  bare : Option Nat

/-- The error at the first of the tokens left; `stop` is where the text ends. -/
def wanted (stop : Nat) (expected : Wanted) : List Token → ParseError
  | [] => ⟨stop, expected, .endOfInput⟩
  | t :: _ => ⟨t.position, expected, .token t.lexeme⟩

/-- The position of the first of the tokens left. -/
def positionOf (stop : Nat) : List Token → Nat
  | [] => stop
  | t :: _ => t.position

/-- The term as a condition, which a bare operand is not. -/
def Term.condition (t : Term) : Except ParseError Expr :=
  match t.bare with
  | none => .ok t.expr
  | some position => .error ⟨position, .condition, .bareOperand t.expr⟩

/-- The operator a comparison sign or word stands for by itself. -/
def plainOperator : ComparisonWord → Operator
  | .eq => .eq
  | .ne => .ne
  | .gt => .gt
  | .ge => .ge
  | .lt => .lt
  | .le => .le
  | .like => .like
  | .contains => .contains
  | .within => .within

/-- Whether the next token is `not`, and the tokens after it if so. -/
def takeNot (ts : List Token) : Bool × List Token :=
  match ts with
  | ⟨.not, _⟩ :: r => (true, r)
  | ts => (false, ts)

/-- Whether the next token is the word `any`, and the tokens after it if so. -/
def takeAny (ts : List Token) : Bool × List Token :=
  match ts with
  | ⟨.word "any", _⟩ :: r => (true, r)
  | ts => (false, ts)

theorem length_takeNot (ts : List Token) : (takeNot ts).2.length ≤ ts.length := by
  unfold takeNot
  split <;> simp

theorem length_takeAny (ts : List Token) : (takeAny ts).2.length ≤ ts.length := by
  unfold takeAny
  split <;> simp

/-- The operator of a `contains` with or without `not` and `any`. -/
def containsOperator : Bool → Bool → Operator
  | false, false => .contains
  | true, false => .notContains
  | false, true => .containsAny
  | true, true => .notContainsAny

/-- The operator at the start of the tokens, if there is one. -/
def operator (stop : Nat) (ts : List Token) :
    Except ParseError (Option (Parsed Operator ts.length)) :=
  match ts with
  | ⟨.comparison .like, _⟩ :: r =>
    .ok (some ⟨if (takeNot r).1 then .notLike else .like, (takeNot r).2,
      Nat.lt_succ_of_le (length_takeNot r)⟩)
  | ⟨.comparison .contains, _⟩ :: r =>
    .ok (some ⟨containsOperator (takeNot r).1 (takeAny (takeNot r).2).1, (takeAny (takeNot r).2).2,
      Nat.lt_succ_of_le (Nat.le_trans (length_takeAny _) (length_takeNot r))⟩)
  | ⟨.comparison w, _⟩ :: r => .ok (some ⟨plainOperator w, r, Nat.lt_succ_self _⟩)
  | ⟨.not, _⟩ :: ⟨.comparison .within, _⟩ :: r =>
    .ok (some ⟨.notWithin, r, Nat.lt_succ_of_lt (Nat.lt_succ_self _)⟩)
  | ⟨.not, p⟩ :: r => .error (wanted stop .operatorOrConnective (⟨.not, p⟩ :: r))
  | _ => .ok none

/-- The value of a number token: exact if it is a whole number of 64 bits. -/
def number? (text : List Char) : Option Value :=
  let isWhole := !text.any fun c => c == '.' || c == 'e' || c == 'E'
  let whole := if isWhole then Number.readInt? text else none
  match whole with
  | some n =>
    if Number.IsSigned64 n then some (.long (Int64.ofInt n))
    else (Number.read? text).map .double
  | none => (Number.read? text).map .double

/-- The operand that one token is, if it is one. -/
def atom (stop : Nat) (t : Token) (r : List Token) : Except ParseError Expr :=
  match t.lexeme with
  | .path text => .ok (.path (Expr.segmentsOf text.toList))
  | .string text => .ok (.literal (.text text))
  | .number text =>
    match number? text.toList with
    | some v => .ok (.literal v)
    | none => .error (wanted stop .number (t :: r))
  | .date text =>
    match Moment.ofText? text.toList with
    | some m => .ok (.literal (.date m))
    | none => .error (wanted stop .validDate (t :: r))
  | .parameter name => .ok (.parameter name)
  | .word "true" => .ok (.literal (.boolean true))
  | .word "false" => .ok (.literal (.boolean false))
  | .word "null" => .ok (.literal .null)
  | _ => .error (wanted stop .operand (t :: r))

mutual

/-- Conjunctions joined by `or`. -/
def disjunction (stop : Nat) (ts : List Token) : Except ParseError (Parsed Term ts.length) := do
  let first ← conjunction stop ts
  match first.rest with
  | ⟨.or, _⟩ :: _ =>
    let head ← first.value.condition
    let tail ← disjuncts stop first.rest
    return ⟨⟨(Expr.any (head :: tail.value)).simplify, none⟩, tail.rest,
      Nat.lt_of_lt_of_le tail.short first.short⟩
  | _ => return first
termination_by 8 * ts.length + 4
decreasing_by
  · omega
  · have := first.short
    omega

/-- Every `or` with its conjunction that comes next. -/
def disjuncts (stop : Nat) (ts : List Token) :
    Except ParseError (Parsed (List Expr) (ts.length + 1)) :=
  match ts with
  | ⟨.or, _⟩ :: r => do
    let next ← conjunction stop r
    let head ← next.value.condition
    let tail ← disjuncts stop next.rest
    return ⟨head :: tail.value, tail.rest, by
      have h₁ := tail.short
      have h₂ := next.short
      simp only [List.length_cons]
      omega⟩
  | ts => return ⟨[], ts, Nat.lt_succ_self _⟩
termination_by 8 * ts.length + 4
decreasing_by
  · simp only [List.length_cons]
    omega
  · have := next.short
    simp only [List.length_cons]
    omega

/-- Denials joined by `and`. -/
def conjunction (stop : Nat) (ts : List Token) : Except ParseError (Parsed Term ts.length) := do
  let first ← denial stop ts
  match first.rest with
  | ⟨.and, _⟩ :: _ =>
    let head ← first.value.condition
    let tail ← conjuncts stop first.rest
    return ⟨⟨(Expr.all (head :: tail.value)).simplify, none⟩, tail.rest,
      Nat.lt_of_lt_of_le tail.short first.short⟩
  | _ => return first
termination_by 8 * ts.length + 3
decreasing_by
  · omega
  · have := first.short
    omega

/-- Every `and` with its denial that comes next. -/
def conjuncts (stop : Nat) (ts : List Token) :
    Except ParseError (Parsed (List Expr) (ts.length + 1)) :=
  match ts with
  | ⟨.and, _⟩ :: r => do
    let next ← denial stop r
    let head ← next.value.condition
    let tail ← conjuncts stop next.rest
    return ⟨head :: tail.value, tail.rest, by
      have h₁ := tail.short
      have h₂ := next.short
      simp only [List.length_cons]
      omega⟩
  | ts => return ⟨[], ts, Nat.lt_succ_self _⟩
termination_by 8 * ts.length + 3
decreasing_by
  · simp only [List.length_cons]
    omega
  · have := next.short
    simp only [List.length_cons]
    omega

/-- A comparison, or a denial of one. -/
def denial (stop : Nat) (ts : List Token) : Except ParseError (Parsed Term ts.length) :=
  match ts with
  | ⟨.not, _⟩ :: r => do
    let inner ← denial stop r
    let condition ← inner.value.condition
    return ⟨⟨Expr.deny condition, none⟩, inner.rest, Nat.lt_succ_of_lt inner.short⟩
  | ts => comparison stop ts
termination_by 8 * ts.length + 2
decreasing_by
  · simp only [List.length_cons]
    omega
  · omega

/-- An operand, or two with an operator between them. -/
def comparison (stop : Nat) (ts : List Token) : Except ParseError (Parsed Term ts.length) := do
  let left ← operand stop ts
  match ← operator stop left.rest with
  | some op =>
    let right ← operand stop op.rest
    return ⟨⟨.comparison op.value left.value.1 right.value.1, none⟩, right.rest,
      Nat.lt_trans right.short (Nat.lt_trans op.short left.short)⟩
  | none =>
    let bare := if left.value.2 then none else some (positionOf stop ts)
    return ⟨⟨left.value.1, bare⟩, left.rest, left.short⟩
termination_by 8 * ts.length + 1
decreasing_by
  · omega
  · have h₁ := left.short
    have h₂ := op.short
    omega

/-- An operand, and whether it is in parentheses. -/
def operand (stop : Nat) (ts : List Token) :
    Except ParseError (Parsed (Expr × Bool) ts.length) :=
  match ts with
  | [] => .error (wanted stop .operand [])
  | ⟨.function name, _⟩ :: r =>
    match r with
    | ⟨.openParen, _⟩ :: ⟨.closeParen, _⟩ :: r =>
      return ⟨(.call name [], false), r, by simp only [List.length_cons]; omega⟩
    | ⟨.openParen, _⟩ :: r => do
      let args ← operands stop r
      return ⟨(.call name args.value, false), args.rest, by
        have := args.short
        simp only [List.length_cons]
        omega⟩
    | r => .error (wanted stop .openParen r)
  | ⟨.openParen, _⟩ :: r => do
    let inner ← disjunction stop r
    match h : inner.rest with
    | ⟨.closeParen, _⟩ :: r' =>
      return ⟨(inner.value.expr, true), r', by
        have := inner.short
        rw [h] at this
        simp only [List.length_cons] at this ⊢
        omega⟩
    | r' => .error (wanted stop .closeParen r')
  | t :: r => do
    let e ← atom stop t r
    return ⟨(e, false), r, Nat.lt_succ_self _⟩
termination_by 8 * ts.length
decreasing_by
  · simp only [List.length_cons]
    omega
  · simp only [List.length_cons]
    omega

/-- One operand or several with commas between them, and the closing parenthesis. -/
def operands (stop : Nat) (ts : List Token) :
    Except ParseError (Parsed (List Expr) ts.length) := do
  let first ← operand stop ts
  match h : first.rest with
  | ⟨.comma, _⟩ :: r =>
    let tail ← operands stop r
    return ⟨first.value.1 :: tail.value, tail.rest, by
      have h₁ := tail.short
      have h₂ := first.short
      rw [h] at h₂
      simp only [List.length_cons] at h₂
      omega⟩
  | ⟨.closeParen, _⟩ :: r =>
    return ⟨[first.value.1], r, by
      have h₂ := first.short
      rw [h] at h₂
      simp only [List.length_cons] at h₂
      omega⟩
  | r => .error (wanted stop .commaOrCloseParen r)
termination_by 8 * ts.length + 1
decreasing_by
  · omega
  · have h₂ := first.short
    rw [h] at h₂
    simp only [List.length_cons] at h₂
    omega

end

end Grammar

namespace Expr

/-- The filter that a list of tokens is. -/
def ofTokens (ts : TokenList) : Except ParseError Expr := do
  let term ← Grammar.disjunction ts.stop ts.tokens
  match term.rest with
  | [] => return term.value.expr
  | r => .error (Grammar.wanted ts.stop .connective r)

end Expr

end TreeSift
