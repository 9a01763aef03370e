import TreeSift.Expr.Parse
import TreeSift.Proofs.Expr.Flat

/-!
# TreeSift.Proofs.Expr.Derivation

The grammar of filter expressions as derivation trees, apart from any way of reading tokens.

```
disjunction = conjunction ("or" conjunction)*
conjunction = denial ("and" denial)*
denial      = "not" denial | comparison
comparison  = operand operator operand | operand
operand     = atom | function "(" arguments ")" | "(" disjunction ")"
arguments   = (operand ("," operand)*)?
```

1. `Derivation r` is a tree for the rule `r`, with one constructor for each way the rule can go.
   `lexemes` is the text it derives, `denote` the expression it stands for.
2. An operand that is neither compared nor in parentheses is *bare*.  A tree is `Proper` if no bare
   operand stands under `and`, `or` or `not`.
3. A join takes up the joins of its own kind directly under it, so what a tree denotes is flat
   (`Derivation.flat_disjunction`).
-/

namespace TreeSift

namespace Grammar

/-- The rules of the grammar. -/
inductive Rule where
  | disjunction
  /-- Any number of `or` with a conjunction. -/
  | disjuncts
  | conjunction
  /-- Any number of `and` with a denial. -/
  | conjuncts
  | denial
  | comparison
  | operand
  /-- At least one operand, with commas between them. -/
  | operands
  /-- What stands between the parentheses of a call. -/
  | arguments
deriving DecidableEq, Repr, Inhabited

/-- A token that is an operand by itself, and the expression it is.  A number has to be one, and a
date has to denote an instant. -/
inductive Atom : Lexeme → Expr → Prop where
  | path (text : String) : Atom (.path text) (.path (Expr.segmentsOf text.toList))
  | string (text : String) : Atom (.string text) (.literal (.text text))
  | number {text : String} {v : Value} (h : number? text.toList = some v) :
    Atom (.number text) (.literal v)
  | date {text : String} {m : Moment} (h : Moment.ofText? text.toList = some m) :
    Atom (.date text) (.literal (.date m))
  | parameter (name : String) : Atom (.parameter name) (.parameter name)
  | true : Atom (.word "true") (.literal (.boolean true))
  | false : Atom (.word "false") (.literal (.boolean false))
  | null : Atom (.word "null") (.literal .null)

theorem Atom.flat {l : Lexeme} {e : Expr} (h : Atom l e) : e.Flat := by
  cases h <;> constructor

/-- The tokens of an operator. -/
def spelling : Operator → List Lexeme
  | .eq => [.comparison .eq]
  | .ne => [.comparison .ne]
  | .gt => [.comparison .gt]
  | .ge => [.comparison .ge]
  | .lt => [.comparison .lt]
  | .le => [.comparison .le]
  | .like => [.comparison .like]
  | .notLike => [.comparison .like, .not]
  | .contains => [.comparison .contains]
  | .notContains => [.comparison .contains, .not]
  | .containsAny => [.comparison .contains, .word "any"]
  | .notContainsAny => [.comparison .contains, .not, .word "any"]
  | .within => [.comparison .within]
  | .notWithin => [.not, .comparison .within]

/-- A derivation of a rule of the grammar. -/
inductive Derivation : Rule → Type where
  | disjunction (first : Derivation .conjunction) (more : Derivation .disjuncts) :
    Derivation .disjunction
  | noDisjunct : Derivation .disjuncts
  | disjunct (next : Derivation .conjunction) (more : Derivation .disjuncts) :
    Derivation .disjuncts
  | conjunction (first : Derivation .denial) (more : Derivation .conjuncts) :
    Derivation .conjunction
  | noConjunct : Derivation .conjuncts
  | conjunct (next : Derivation .denial) (more : Derivation .conjuncts) : Derivation .conjuncts
  | deny (inner : Derivation .denial) : Derivation .denial
  | affirm (inner : Derivation .comparison) : Derivation .denial
  | compared (left : Derivation .operand) (op : Operator) (right : Derivation .operand) :
    Derivation .comparison
  | alone (inner : Derivation .operand) : Derivation .comparison
  | atom {l : Lexeme} {e : Expr} (h : Atom l e) : Derivation .operand
  | call (name : String) (args : Derivation .arguments) : Derivation .operand
  | group (inner : Derivation .disjunction) : Derivation .operand
  | lastOperand (last : Derivation .operand) : Derivation .operands
  | moreOperands (next : Derivation .operand) (more : Derivation .operands) :
    Derivation .operands
  | noArgument : Derivation .arguments
  | arguments (args : Derivation .operands) : Derivation .arguments

namespace Derivation

/-- The tokens of a derivation, from left to right. -/
def lexemes : {r : Rule} → Derivation r → List Lexeme
  | _, disjunction first more => first.lexemes ++ more.lexemes
  | _, noDisjunct => []
  | _, disjunct next more => .or :: (next.lexemes ++ more.lexemes)
  | _, conjunction first more => first.lexemes ++ more.lexemes
  | _, noConjunct => []
  | _, conjunct next more => .and :: (next.lexemes ++ more.lexemes)
  | _, deny inner => .not :: inner.lexemes
  | _, affirm inner => inner.lexemes
  | _, compared left op right => left.lexemes ++ (spelling op ++ right.lexemes)
  | _, alone inner => inner.lexemes
  | _, atom (l := l) _ => [l]
  | _, call name args => .function name :: .openParen :: (args.lexemes ++ [.closeParen])
  | _, group inner => .openParen :: (inner.lexemes ++ [.closeParen])
  | _, lastOperand last => last.lexemes
  | _, moreOperands next more => next.lexemes ++ .comma :: more.lexemes
  | _, noArgument => []
  | _, arguments args => args.lexemes

/-- Whether nothing was derived but an operand that is neither compared nor in parentheses. -/
def isBare : {r : Rule} → Derivation r → Bool
  | _, disjunction first noDisjunct => first.isBare
  | _, conjunction first noConjunct => first.isBare
  | _, affirm inner => inner.isBare
  | _, alone inner => inner.isBare
  | _, atom _ => true
  | _, call _ _ => true
  | _, _ => false

/-- No bare operand stands under `and`, `or` or `not`. -/
def Proper : {r : Rule} → Derivation r → Prop
  | _, disjunction first more =>
    first.Proper ∧ more.Proper ∧ (more = noDisjunct ∨ first.isBare = false)
  | _, noDisjunct => True
  | _, disjunct next more => next.Proper ∧ more.Proper ∧ next.isBare = false
  | _, conjunction first more =>
    first.Proper ∧ more.Proper ∧ (more = noConjunct ∨ first.isBare = false)
  | _, noConjunct => True
  | _, conjunct next more => next.Proper ∧ more.Proper ∧ next.isBare = false
  | _, deny inner => inner.Proper ∧ inner.isBare = false
  | _, affirm inner => inner.Proper
  | _, compared left _ right => left.Proper ∧ right.Proper
  | _, alone inner => inner.Proper
  | _, atom _ => True
  | _, call _ args => args.Proper
  | _, group inner => inner.Proper
  | _, lastOperand last => last.Proper
  | _, moreOperands next more => next.Proper ∧ more.Proper
  | _, noArgument => True
  | _, arguments args => args.Proper

/-- What a rule derives: an expression, or several. -/
abbrev Meaning : Rule → Type
  | .disjuncts => List Expr
  | .conjuncts => List Expr
  | .operands => List Expr
  | .arguments => List Expr
  | _ => Expr

/-- Conditions joined: one alone is itself, and of several those that are joins of the same kind
give up their own conditions. -/
def joined (c : Connective) (first : Expr) : List Expr → Expr
  | [] => first
  | next :: more => .logic c ((first :: next :: more).flatMap (Expr.spread c))

/-- The expression, or the expressions, a derivation stands for. -/
def denote : {r : Rule} → Derivation r → Meaning r
  | _, disjunction first more => joined .or first.denote more.denote
  | _, noDisjunct => []
  | _, disjunct next more => next.denote :: more.denote
  | _, conjunction first more => joined .and first.denote more.denote
  | _, noConjunct => []
  | _, conjunct next more => next.denote :: more.denote
  | _, deny inner => .deny inner.denote
  | _, affirm inner => inner.denote
  | _, compared left op right => .comparison op left.denote right.denote
  | _, alone inner => inner.denote
  | _, atom (e := e) _ => e
  | _, call name args => .call name args.denote
  | _, group inner => inner.denote
  | _, lastOperand last => [last.denote]
  | _, moreOperands next more => next.denote :: more.denote
  | _, noArgument => []
  | _, arguments args => args.denote

/-! ## a comparison as a filter -/

/-- A comparison, or an operand alone, with nothing joined to it. -/
def ofComparison (inner : Derivation .comparison) : Derivation .disjunction :=
  disjunction (conjunction (affirm inner) noConjunct) noDisjunct

@[simp] theorem lexemes_ofComparison (d : Derivation .comparison) :
    (ofComparison d).lexemes = d.lexemes := by
  change d.lexemes ++ [] ++ [] = d.lexemes
  rw [List.append_nil, List.append_nil]

@[simp] theorem denote_ofComparison (d : Derivation .comparison) :
    (ofComparison d).denote = d.denote := rfl

@[simp] theorem proper_ofComparison {d : Derivation .comparison} :
    (ofComparison d).Proper ↔ d.Proper :=
  ⟨fun h => h.1.1, fun h => ⟨⟨h, trivial, .inl rfl⟩, trivial, .inl rfl⟩⟩

/-! ## what is denoted is flat -/

theorem flat_joined {c : Connective} (hc : c ≠ .not) {first : Expr} {more : List Expr}
    (hf : first.Flat) (hm : ∀ e ∈ more, e.Flat) : (joined c first more).Flat := by
  cases more with
  | nil => exact hf
  | cons next more =>
      refine Expr.flat_logic_spread hc fun e he => ?_
      rcases List.mem_cons.mp he with rfl | he
      · exact hf
      · exact hm e he

/-- Joining flat conditions is flattening their join. -/
theorem joined_eq_simplify {c : Connective} (hc : c ≠ .not) {first : Expr} {more : List Expr}
    (hf : first.Flat) (hm : ∀ e ∈ more, e.Flat) (hne : more ≠ []) :
    joined c first more = (Expr.logic c (first :: more)).simplify := by
  cases more with
  | nil => contradiction
  | cons next more =>
      have hall : ∀ e ∈ first :: next :: more, e.Flat := List.forall_mem_cons.mpr ⟨hf, hm⟩
      rw [Expr.simplify_logic_of_flat hc hall, joined]

mutual

theorem flat_disjunction : (d : Derivation .disjunction) → d.denote.Flat
  | disjunction first more => flat_joined (by decide) (flat_conjunction first) (flat_disjuncts more)

theorem flat_disjuncts : (d : Derivation .disjuncts) → ∀ e ∈ d.denote, e.Flat
  | noDisjunct => by simp [denote]
  | disjunct next more => by
      simp only [denote, List.forall_mem_cons]
      exact ⟨flat_conjunction next, flat_disjuncts more⟩

theorem flat_conjunction : (d : Derivation .conjunction) → d.denote.Flat
  | conjunction first more => flat_joined (by decide) (flat_denial first) (flat_conjuncts more)

theorem flat_conjuncts : (d : Derivation .conjuncts) → ∀ e ∈ d.denote, e.Flat
  | noConjunct => by simp [denote]
  | conjunct next more => by
      simp only [denote, List.forall_mem_cons]
      exact ⟨flat_denial next, flat_conjuncts more⟩

theorem flat_denial : (d : Derivation .denial) → d.denote.Flat
  | deny inner => .logic (by simpa using flat_denial inner) (by simp)
  | affirm (compared left op right) => .comparison op _ _
  | affirm (alone inner) => flat_operand inner

theorem flat_operand : (d : Derivation .operand) → d.denote.Flat
  | atom h => h.flat
  | call name args => .call name _
  | group inner => flat_disjunction inner

end

end Derivation

end Grammar

end TreeSift
