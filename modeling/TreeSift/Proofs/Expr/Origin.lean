import TreeSift.Filter.Error
import TreeSift.Proofs.Expr.Grammar
import TreeSift.Proofs.Expr.Parts

/-!
# TreeSift.Proofs.Expr.Origin

Where the parts of an expression that was read come from.

A part that is neither a connective nor a comparison stands in a token of its own: an operand is
what the token is by itself, and a call has its name from one (`Stems`).  Of the connectives a join
has several conditions, none of them a join of its kind, and a denial has one.  Joining moves
conditions from one join to another and adds no other part.
-/

namespace TreeSift

namespace Grammar

open TreeSift.Expr

/-- The part of an expression has its token among these, if it is of a kind that has one, and is a
join or a denial as the grammar makes them otherwise. -/
inductive Stems (ls : List Lexeme) : Expr → Prop where
  | atom {l : Lexeme} {e : Expr} (hl : l ∈ ls) (h : Atom l e) : Stems ls e
  | call {name : String} (args : List Expr) (hl : .function name ∈ ls) : Stems ls (.call name args)
  | comparison (op : Operator) (left right : Expr) : Stems ls (.comparison op left right)
  | deny (e : Expr) : Stems ls (.deny e)
  | join {c : Connective} {es : List Expr} (joins : c ≠ .not) (several : 2 ≤ es.length)
    (apart : ∀ e ∈ es, ∀ ds, e ≠ .logic c ds) : Stems ls (.logic c es)

theorem Stems.mono {ls ls' : List Lexeme} {e : Expr} (h : Stems ls e) (hls : ls ⊆ ls') :
    Stems ls' e := by
  cases h with
  | atom hl h => exact .atom (hls hl) h
  | call args hl => exact .call args (hls hl)
  | comparison op left right => exact .comparison op left right
  | deny e => exact .deny e
  | join joins several apart => exact .join joins several apart

theorem Stems.parameter {ls : List Lexeme} {name : String} (h : Stems ls (.parameter name)) :
    .parameter name ∈ ls := by
  cases h with
  | atom hl h => cases h; exact hl

/-- Every part of the expression has its token among these. -/
def AllStem (ls : List Lexeme) (e : Expr) : Prop := ∀ s ∈ parts e, Stems ls s

namespace AllStem

variable {ls ls' : List Lexeme} {e : Expr}

theorem mono (h : AllStem ls e) (hls : ls ⊆ ls') : AllStem ls' e :=
  fun s hs => (h s hs).mono hls

theorem root (h : AllStem ls e) : Stems ls e := h e (mem_parts_self e)

theorem logic {c : Connective} {es : List Expr} (h : Stems ls (.logic c es))
    (hes : ∀ e ∈ es, AllStem ls e) : AllStem ls (.logic c es) := by
  intro s hs
  rw [parts, List.mem_cons, mem_partsAll] at hs
  obtain rfl | ⟨e, he, hs⟩ := hs
  · exact h
  · exact hes e he s hs

/-- What a condition gives up to a join is a part of it, and no join of that kind. -/
theorem of_mem_spread {c : Connective} (hc : c ≠ .not) {x : Expr} (h : AllStem ls e)
    (hx : x ∈ spread c e) : AllStem ls x ∧ ∀ ds, x ≠ .logic c ds := by
  by_cases hl : ∃ es, e = .logic c es
  · obtain ⟨es, rfl⟩ := hl
    rw [spread_logic_self] at hx
    constructor
    · intro s hs
      refine h s ?_
      rw [parts, List.mem_cons, mem_partsAll]
      exact .inr ⟨x, hx, hs⟩
    · cases h.root with
      | atom hl h => cases h
      | deny e => contradiction
      | join joins several apart => exact apart x hx
  · have hne : ∀ ds, e ≠ .logic c ds := fun ds hd => hl ⟨ds, hd⟩
    rw [spread_of_ne hne, List.mem_singleton] at hx
    exact hx ▸ ⟨h, hne⟩

/-- Every condition gives up something to a join. -/
theorem length_spread_pos (c : Connective) (h : AllStem ls e) : 0 < (spread c e).length := by
  by_cases hl : ∃ es, e = .logic c es
  · obtain ⟨es, rfl⟩ := hl
    rw [spread_logic_self]
    cases h.root with
    | atom hl h => cases h
    | deny e => exact Nat.zero_lt_one
    | join joins several apart => exact Nat.lt_of_lt_of_le Nat.zero_lt_two several
  · rw [spread_of_ne fun ds hd => hl ⟨ds, hd⟩]
    exact Nat.zero_lt_one

theorem joined {c : Connective} (hc : c ≠ .not) {more : List Expr} (h : AllStem ls e)
    (hm : ∀ e ∈ more, AllStem ls e) : AllStem ls (Derivation.joined c e more) := by
  cases more with
  | nil => exact h
  | cons next more =>
      have hall : ∀ y ∈ e :: next :: more, AllStem ls y := List.forall_mem_cons.mpr ⟨h, hm⟩
      have hspread : ∀ x ∈ (e :: next :: more).flatMap (spread c),
          AllStem ls x ∧ ∀ ds, x ≠ .logic c ds := by
        intro x hx
        obtain ⟨y, hy, hx⟩ := List.mem_flatMap.mp hx
        exact (hall y hy).of_mem_spread hc hx
      refine logic (.join hc ?_ fun x hx => (hspread x hx).2) fun x hx => (hspread x hx).1
      have hfirst := length_spread_pos c h
      have hnext := length_spread_pos c (hm next List.mem_cons_self)
      simp only [List.flatMap_cons, List.length_append]
      omega

theorem comparison {op : Operator} {left right : Expr} (hl : AllStem ls left)
    (hr : AllStem ls right) : AllStem ls (.comparison op left right) := by
  intro s hs
  rw [parts, List.mem_cons, List.mem_append] at hs
  obtain rfl | hs | hs := hs
  · exact .comparison op left right
  · exact hl s hs
  · exact hr s hs

theorem call {name : String} {args : List Expr} (hname : .function name ∈ ls)
    (h : ∀ e ∈ args, AllStem ls e) : AllStem ls (.call name args) := by
  intro s hs
  rw [parts, List.mem_cons, mem_partsAll] at hs
  obtain rfl | ⟨e, he, hs⟩ := hs
  · exact .call args hname
  · exact h e he s hs

theorem atom {l : Lexeme} (h : Atom l e) : AllStem [l] e := by
  intro s hs
  cases h <;> simp only [parts, List.mem_singleton] at hs <;> subst hs
  all_goals exact .atom List.mem_cons_self (by constructor <;> assumption)

end AllStem

namespace Derivation

mutual

theorem stem_disjunction : (d : Derivation .disjunction) → AllStem d.lexemes d.denote
  | disjunction first more =>
      .joined (by decide) ((stem_conjunction first).mono (List.subset_append_left _ _)) fun e he =>
        (stem_disjuncts more e he).mono (List.subset_append_right _ _)

theorem stem_disjuncts : (d : Derivation .disjuncts) → ∀ e ∈ d.denote, AllStem d.lexemes e
  | noDisjunct => by simp [denote]
  | disjunct next more => by
      simp only [denote, lexemes, List.forall_mem_cons]
      refine ⟨(stem_conjunction next).mono ?_, fun e he => (stem_disjuncts more e he).mono ?_⟩
      · exact List.subset_cons_of_subset _ (List.subset_append_left _ _)
      · exact List.subset_cons_of_subset _ (List.subset_append_right _ _)

theorem stem_conjunction : (d : Derivation .conjunction) → AllStem d.lexemes d.denote
  | conjunction first more =>
      .joined (by decide) ((stem_denial first).mono (List.subset_append_left _ _)) fun e he =>
        (stem_conjuncts more e he).mono (List.subset_append_right _ _)

theorem stem_conjuncts : (d : Derivation .conjuncts) → ∀ e ∈ d.denote, AllStem d.lexemes e
  | noConjunct => by simp [denote]
  | conjunct next more => by
      simp only [denote, lexemes, List.forall_mem_cons]
      refine ⟨(stem_denial next).mono ?_, fun e he => (stem_conjuncts more e he).mono ?_⟩
      · exact List.subset_cons_of_subset _ (List.subset_append_left _ _)
      · exact List.subset_cons_of_subset _ (List.subset_append_right _ _)

theorem stem_denial : (d : Derivation .denial) → AllStem d.lexemes d.denote
  | deny inner => by
      refine .logic (.deny _) ?_
      simpa [lexemes] using (stem_denial inner).mono (List.subset_cons_self _ _)
  | affirm inner => stem_comparison inner

theorem stem_comparison : (d : Derivation .comparison) → AllStem d.lexemes d.denote
  | compared left op right =>
      .comparison ((stem_operand left).mono (List.subset_append_left _ _))
        ((stem_operand right).mono (List.subset_append_of_subset_right _
          (List.subset_append_right _ _)))
  | alone inner => stem_operand inner

theorem stem_operand : (d : Derivation .operand) → AllStem d.lexemes d.denote
  | atom h => .atom h
  | call name args =>
      .call List.mem_cons_self fun e he => (stem_arguments args e he).mono
        (List.subset_cons_of_subset _ (List.subset_cons_of_subset _ (List.subset_append_left _ _)))
  | group inner =>
      (stem_disjunction inner).mono
        (List.subset_cons_of_subset _ (List.subset_append_left _ _))

theorem stem_operands : (d : Derivation .operands) → ∀ e ∈ d.denote, AllStem d.lexemes e
  | lastOperand last => by simpa [denote, lexemes] using stem_operand last
  | moreOperands next more => by
      simp only [denote, lexemes, List.forall_mem_cons]
      refine ⟨(stem_operand next).mono (List.subset_append_left _ _),
        fun e he => (stem_operands more e he).mono ?_⟩
      exact List.subset_append_of_subset_right _ (List.subset_cons_self _ _)

theorem stem_arguments : (d : Derivation .arguments) → ∀ e ∈ d.denote, AllStem d.lexemes e
  | noArgument => by simp [denote]
  | arguments args => stem_operands args

end

end Derivation

end Grammar

namespace Expr

open Grammar

/-- The parts of an expression that was read from a text stand in tokens of the text. -/
theorem allStem_of_ofText {text : List Char} {e : Expr} (h : ofText text = .ok e) :
    ∃ ts, TokenList.ofText text = .ok ts ∧ AllStem (ts.tokens.map Token.lexeme) e := by
  unfold ofText at h
  split at h
  · contradiction
  · next ts hts =>
    split at h
    · contradiction
    · next hread =>
      injection h with h
      subst h
      obtain ⟨d, -, hl, rfl⟩ := derivation_of_ofTokens hread
      exact ⟨ts, hts, hl ▸ d.stem_disjunction⟩

end Expr

end TreeSift
