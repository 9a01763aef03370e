import TreeSift.Expr.Basic

/-!
# TreeSift.Proofs.Expr.Parts

The parts of an expression: itself and everything that stands in it, at any depth, under connectives
as well as in operands and arguments.  What is to hold of all of them is passed down from the whole
(`forall_parts_logic` and so on), and induction comes back up (`treeInduction`).
-/

namespace TreeSift

namespace Expr

mutual

/-- The expression and everything that stands in it. -/
def parts : Expr → List Expr
  | logic connective children => logic connective children :: partsAll children
  | comparison op left right => comparison op left right :: (parts left ++ parts right)
  | call name args => call name args :: partsAll args
  | path segments => [path segments]
  | literal v => [literal v]
  | parameter name => [parameter name]

/-- Several expressions and everything that stands in them. -/
def partsAll : List Expr → List Expr
  | [] => []
  | e :: es => parts e ++ partsAll es

end

theorem mem_parts_self (e : Expr) : e ∈ parts e := by
  cases e <;> simp [parts]

theorem mem_partsAll {s : Expr} {es : List Expr} : s ∈ partsAll es ↔ ∃ e ∈ es, s ∈ parts e := by
  induction es with
  | nil => simp [partsAll]
  | cons e es ih => simp [partsAll, ih]

/-- Induction over expressions, from what stands directly in one to the whole. -/
@[elab_as_elim]
theorem treeInduction {motive : Expr → Prop}
    (logic : ∀ c es, (∀ e ∈ es, motive e) → motive (.logic c es))
    (comparison : ∀ op left right, motive left → motive right →
      motive (.comparison op left right))
    (call : ∀ name args, (∀ e ∈ args, motive e) → motive (.call name args))
    (path : ∀ segments, motive (.path segments)) (literal : ∀ v, motive (.literal v))
    (parameter : ∀ name, motive (.parameter name)) : (e : Expr) → motive e
  | .logic c es =>
      logic c es fun e _ => treeInduction logic comparison call path literal parameter e
  | .comparison op left right =>
      comparison op left right (treeInduction logic comparison call path literal parameter left)
        (treeInduction logic comparison call path literal parameter right)
  | .call name args =>
      call name args fun e _ => treeInduction logic comparison call path literal parameter e
  | .path segments => path segments
  | .literal v => literal v
  | .parameter name => parameter name

/-! ## what holds of every part -/

variable {p : Expr → Prop}

theorem forall_partsAll {es : List Expr} :
    (∀ s ∈ partsAll es, p s) ↔ ∀ e ∈ es, ∀ s ∈ parts e, p s := by
  induction es with
  | nil => simp [partsAll]
  | cons e es ih => rw [partsAll, List.forall_mem_append, List.forall_mem_cons, ih]

theorem forall_parts_logic {c : Connective} {es : List Expr} :
    (∀ s ∈ parts (.logic c es), p s) ↔ p (.logic c es) ∧ ∀ e ∈ es, ∀ s ∈ parts e, p s := by
  rw [parts, List.forall_mem_cons, forall_partsAll]

theorem forall_parts_call {name : String} {args : List Expr} :
    (∀ s ∈ parts (.call name args), p s) ↔
      p (.call name args) ∧ ∀ e ∈ args, ∀ s ∈ parts e, p s := by
  rw [parts, List.forall_mem_cons, forall_partsAll]

theorem forall_parts_comparison {op : Operator} {left right : Expr} :
    (∀ s ∈ parts (.comparison op left right), p s) ↔
      p (.comparison op left right) ∧ (∀ s ∈ parts left, p s) ∧ ∀ s ∈ parts right, p s := by
  rw [parts, List.forall_mem_cons, List.forall_mem_append]

end Expr

end TreeSift
