import TreeSift.Proofs.Expr.Complete

/-!
# TreeSift.Proofs.Expr.Unambiguous

The grammar is unambiguous: tokens have one derivation at most, whether it is proper or not.

Two derivations of a rule that start at the same token and stop where the rule may stop are
compared from the left.  Where they could go different ways, the first token decides, or the token
after one of them may not stand there (the `agree_` lemmas, in which the two never meet); where
they go the same way, each part ends alike in both, and the rest follows by induction.
-/

namespace TreeSift

namespace Grammar

/-- If both derivations start at one place and both end where the rule may end, then they end at one
place and are the same. -/
def Agree {r : Rule} (d d' : Derivation r) : Prop :=
  ∀ ⦃ts rest rest' : List Token⦄, Spans d.lexemes ts rest → Spans d'.lexemes ts rest' →
    Closes r rest → Closes r rest' → d = d' ∧ rest = rest'

theorem Agree.symm {r : Rule} {d d' : Derivation r} (h : Agree d d') : Agree d' d := by
  intro ts rest rest' hl hl' hc hc'
  obtain ⟨rfl, rfl⟩ := h hl' hl hc' hc
  exact ⟨rfl, rfl⟩

theorem Agree.operand {d d' : Derivation .operand} (h : Agree d d') {ts rest rest' : List Token}
    (hl : Spans d.lexemes ts rest) (hl' : Spans d'.lexemes ts rest') : d = d' ∧ rest = rest' :=
  h hl hl' (fun _ _ => rfl) (fun _ _ => rfl)

/-! ## different ways never meet -/

theorem agree_noDisjunct (next : Derivation .conjunction) (more : Derivation .disjuncts) :
    Agree .noDisjunct (.disjunct next more) := by
  intro ts rest rest' hl hl' hc _
  obtain rfl := hl
  obtain ⟨p, r, rfl, -⟩ := hl'
  exact absurd ⟨p, r, rfl⟩ (hc.not_starts (l := .or) rfl)

theorem agree_noConjunct (next : Derivation .denial) (more : Derivation .conjuncts) :
    Agree .noConjunct (.conjunct next more) := by
  intro ts rest rest' hl hl' hc _
  obtain rfl := hl
  obtain ⟨p, r, rfl, -⟩ := hl'
  exact absurd ⟨p, r, rfl⟩ (hc.not_starts (l := .and) rfl)

theorem agree_deny_affirm (inner : Derivation .denial) (inner' : Derivation .comparison) :
    Agree (.deny inner) (.affirm inner') := by
  intro ts rest rest' hl hl' _ _
  obtain ⟨p, r, rfl, -⟩ := hl
  exact absurd ⟨p, r, rfl⟩
    (not_starts_of_opensOperand (starts_comparison inner' hl') (m := .not) rfl)

theorem agree_atom_call {l : Lexeme} {e : Expr} (he : Atom l e) (name : String)
    (args : Derivation .arguments) : Agree (.atom he) (.call name args) := by
  intro ts rest rest' hl hl' _ _
  obtain ⟨p, r, rfl, -⟩ := hl
  obtain ⟨p', r', hr, -⟩ := hl'
  cases hr
  cases he

theorem agree_atom_group {l : Lexeme} {e : Expr} (he : Atom l e)
    (inner : Derivation .disjunction) : Agree (.atom he) (.group inner) := by
  intro ts rest rest' hl hl' _ _
  obtain ⟨p, r, rfl, -⟩ := hl
  obtain ⟨p', r', hr, -⟩ := hl'
  cases hr
  cases he

theorem agree_call_group (name : String) (args : Derivation .arguments)
    (inner : Derivation .disjunction) : Agree (.call name args) (.group inner) := by
  intro ts rest rest' hl hl' _ _
  obtain ⟨p, r, rfl, -⟩ := hl
  obtain ⟨p', r', hr, -⟩ := hl'
  cases hr

theorem agree_noArgument (args : Derivation .operands) :
    Agree .noArgument (.arguments args) := by
  intro ts rest rest' hl hl' hc _
  obtain rfl := hl
  obtain ⟨l, hs, ho⟩ := starts_operands args hl'
  exact absurd hs (hc.not_starts (follow_of_opensOperand ho))

/-! ## the same way is gone alike -/

mutual

theorem disjunction_unique : (d d' : Derivation .disjunction) → Agree d d'
  | .disjunction first more, .disjunction first' more' => by
      intro ts rest rest' hl hl' hc hc'
      obtain ⟨mid, hf, hm⟩ := spans_append.mp hl
      obtain ⟨mid', hf', hm'⟩ := spans_append.mp hl'
      obtain ⟨rfl, rfl⟩ := conjunction_unique first first' hf hf' (closes_of_disjuncts more hm hc)
        (closes_of_disjuncts more' hm' hc')
      obtain ⟨rfl, rfl⟩ := disjuncts_unique more more' hm hm' hc hc'
      exact ⟨rfl, rfl⟩

theorem disjuncts_unique : (d d' : Derivation .disjuncts) → Agree d d'
  | .noDisjunct, .noDisjunct => fun _ _ _ hl hl' _ _ => ⟨rfl, hl.symm.trans hl'⟩
  | .noDisjunct, .disjunct next' more' => agree_noDisjunct next' more'
  | .disjunct next more, .noDisjunct => (agree_noDisjunct next more).symm
  | .disjunct next more, .disjunct next' more' => by
      intro ts rest rest' hfirst hsecond hc hc'
      obtain ⟨p, r, rfl, hl⟩ := hfirst
      obtain ⟨p', r', hr, hl'⟩ := hsecond
      cases hr
      obtain ⟨mid, hn, hm⟩ := spans_append.mp hl
      obtain ⟨mid', hn', hm'⟩ := spans_append.mp hl'
      obtain ⟨rfl, rfl⟩ := conjunction_unique next next' hn hn' (closes_of_disjuncts more hm hc)
        (closes_of_disjuncts more' hm' hc')
      obtain ⟨rfl, rfl⟩ := disjuncts_unique more more' hm hm' hc hc'
      exact ⟨rfl, rfl⟩

theorem conjunction_unique : (d d' : Derivation .conjunction) → Agree d d'
  | .conjunction first more, .conjunction first' more' => by
      intro ts rest rest' hl hl' hc hc'
      obtain ⟨mid, hf, hm⟩ := spans_append.mp hl
      obtain ⟨mid', hf', hm'⟩ := spans_append.mp hl'
      obtain ⟨rfl, rfl⟩ := denial_unique first first' hf hf' (closes_of_conjuncts more hm hc)
        (closes_of_conjuncts more' hm' hc')
      obtain ⟨rfl, rfl⟩ := conjuncts_unique more more' hm hm' hc hc'
      exact ⟨rfl, rfl⟩

theorem conjuncts_unique : (d d' : Derivation .conjuncts) → Agree d d'
  | .noConjunct, .noConjunct => fun _ _ _ hl hl' _ _ => ⟨rfl, hl.symm.trans hl'⟩
  | .noConjunct, .conjunct next' more' => agree_noConjunct next' more'
  | .conjunct next more, .noConjunct => (agree_noConjunct next more).symm
  | .conjunct next more, .conjunct next' more' => by
      intro ts rest rest' hfirst hsecond hc hc'
      obtain ⟨p, r, rfl, hl⟩ := hfirst
      obtain ⟨p', r', hr, hl'⟩ := hsecond
      cases hr
      obtain ⟨mid, hn, hm⟩ := spans_append.mp hl
      obtain ⟨mid', hn', hm'⟩ := spans_append.mp hl'
      obtain ⟨rfl, rfl⟩ := denial_unique next next' hn hn' (closes_of_conjuncts more hm hc)
        (closes_of_conjuncts more' hm' hc')
      obtain ⟨rfl, rfl⟩ := conjuncts_unique more more' hm hm' hc hc'
      exact ⟨rfl, rfl⟩

theorem denial_unique : (d d' : Derivation .denial) → Agree d d'
  | .deny inner, .deny inner' => by
      intro ts rest rest' hfirst hsecond hc hc'
      obtain ⟨p, r, rfl, hl⟩ := hfirst
      obtain ⟨p', r', hr, hl'⟩ := hsecond
      cases hr
      obtain ⟨rfl, rfl⟩ := denial_unique inner inner' hl hl' hc hc'
      exact ⟨rfl, rfl⟩
  | .deny inner, .affirm inner' => agree_deny_affirm inner inner'
  | .affirm inner, .deny inner' => (agree_deny_affirm inner' inner).symm
  | .affirm inner, .affirm inner' => by
      intro ts rest rest' hl hl' hc hc'
      obtain ⟨rfl, rfl⟩ := comparison_unique inner inner' hl hl' hc hc'
      exact ⟨rfl, rfl⟩

theorem comparison_unique : (d d' : Derivation .comparison) → Agree d d'
  | .compared left op right, .compared left' op' right' => by
      intro ts rest rest' hl hl' hc hc'
      obtain ⟨mid, hll, hl⟩ := spans_append.mp hl
      obtain ⟨after, hlo, hlr⟩ := spans_append.mp hl
      obtain ⟨mid', hll', hl'⟩ := spans_append.mp hl'
      obtain ⟨after', hlo', hlr'⟩ := spans_append.mp hl'
      obtain ⟨rfl, rfl⟩ := (operand_unique left left').operand hll hll'
      have hop := readsOperator_before_operand 0 hlo hlr
      obtain ⟨rfl, rfl⟩ := hop.unique (readsOperator_before_operand 0 hlo' hlr')
      obtain ⟨rfl, rfl⟩ := (operand_unique right right').operand hlr hlr'
      exact ⟨rfl, rfl⟩
  | .compared left op right, .alone inner' => by
      intro ts rest rest' hl hl' hc hc'
      obtain ⟨mid, hll, hl⟩ := spans_append.mp hl
      obtain ⟨after, hlo, hlr⟩ := spans_append.mp hl
      obtain ⟨rfl, rfl⟩ := (operand_unique left inner').operand hll hl'
      have hop := readsOperator_before_operand 0 hlo hlr
      exact absurd (operator_eq_none_of_closes 0 hc') hop.ne_none
  | .alone inner, .compared left' op' right' => by
      intro ts rest rest' hl hl' hc hc'
      obtain ⟨mid', hll', hl'⟩ := spans_append.mp hl'
      obtain ⟨after', hlo', hlr'⟩ := spans_append.mp hl'
      obtain ⟨rfl, rfl⟩ := (operand_unique inner left').operand hl hll'
      have hop := readsOperator_before_operand 0 hlo' hlr'
      exact absurd (operator_eq_none_of_closes 0 hc) hop.ne_none
  | .alone inner, .alone inner' => by
      intro ts rest rest' hl hl' hc hc'
      obtain ⟨rfl, rfl⟩ := (operand_unique inner inner').operand hl hl'
      exact ⟨rfl, rfl⟩

theorem operand_unique : (d d' : Derivation .operand) → Agree d d'
  | .atom he, .atom he' => by
      intro ts rest rest' hfirst hsecond hc hc'
      obtain ⟨p, r, rfl, rfl⟩ := hfirst
      obtain ⟨p', r', hr, rfl⟩ := hsecond
      cases hr
      obtain rfl := he.unique he'
      exact ⟨rfl, rfl⟩
  | .atom he, .call name' args' => agree_atom_call he name' args'
  | .atom he, .group inner' => agree_atom_group he inner'
  | .call name args, .atom he' => (agree_atom_call he' name args).symm
  | .call name args, .call name' args' => by
      intro ts rest rest' hfirst hsecond hc hc'
      obtain ⟨p, r, rfl, q, r', rfl, hl⟩ := hfirst
      obtain ⟨p₁, r₁, hr, q₁, r₂, hr', hl'⟩ := hsecond
      cases hr
      cases hr'
      obtain ⟨mid, hla, q', r'', rfl, rfl⟩ := spans_append.mp hl
      obtain ⟨mid', hla', q₂, r₃, rfl, rfl⟩ := spans_append.mp hl'
      obtain ⟨rfl, hr⟩ :=
        arguments_unique args args' hla hla' (closes_cons rfl) (closes_cons rfl)
      cases hr
      exact ⟨rfl, rfl⟩
  | .call name args, .group inner' => agree_call_group name args inner'
  | .group inner, .atom he' => (agree_atom_group he' inner).symm
  | .group inner, .call name' args' => (agree_call_group name' args' inner).symm
  | .group inner, .group inner' => by
      intro ts rest rest' hfirst hsecond hc hc'
      obtain ⟨p, r, rfl, hl⟩ := hfirst
      obtain ⟨p', r', hr, hl'⟩ := hsecond
      cases hr
      obtain ⟨mid, hli, q, r'', rfl, rfl⟩ := spans_append.mp hl
      obtain ⟨mid', hli', q', r₂, rfl, rfl⟩ := spans_append.mp hl'
      obtain ⟨rfl, hr⟩ :=
        disjunction_unique inner inner' hli hli' (closes_cons rfl) (closes_cons rfl)
      cases hr
      exact ⟨rfl, rfl⟩

theorem arguments_unique : (d d' : Derivation .arguments) → Agree d d'
  | .noArgument, .noArgument => fun _ _ _ hl hl' _ _ => ⟨rfl, hl.symm.trans hl'⟩
  | .noArgument, .arguments args' => agree_noArgument args'
  | .arguments args, .noArgument => (agree_noArgument args).symm
  | .arguments args, .arguments args' => by
      intro ts rest rest' hl hl' hc hc'
      obtain ⟨rfl, rfl⟩ := operands_unique args args' hl hl' hc hc'
      exact ⟨rfl, rfl⟩

theorem operands_unique : (d d' : Derivation .operands) → Agree d d'
  | .lastOperand last, .lastOperand last' => by
      intro ts rest rest' hl hl' hc hc'
      obtain ⟨rfl, rfl⟩ := (operand_unique last last').operand hl hl'
      exact ⟨rfl, rfl⟩
  | .lastOperand last, .moreOperands next' more' => by
      intro ts rest rest' hl hl' hc hc'
      obtain ⟨mid', hln', p, r, rfl, -⟩ := spans_append.mp hl'
      obtain ⟨rfl, rfl⟩ := (operand_unique last next').operand hl hln'
      exact absurd ⟨p, r, rfl⟩ (hc.not_starts (l := .comma) rfl)
  | .moreOperands next more, .lastOperand last' => by
      intro ts rest rest' hl hl' hc hc'
      obtain ⟨mid, hln, p, r, rfl, -⟩ := spans_append.mp hl
      obtain ⟨rfl, rfl⟩ := (operand_unique next last').operand hln hl'
      exact absurd ⟨p, r, rfl⟩ (hc'.not_starts (l := .comma) rfl)
  | .moreOperands next more, .moreOperands next' more' => by
      intro ts rest rest' hl hl' hc hc'
      obtain ⟨mid, hln, p, r, rfl, hlm⟩ := spans_append.mp hl
      obtain ⟨mid', hln', p', r', rfl, hlm'⟩ := spans_append.mp hl'
      obtain ⟨rfl, hr⟩ := (operand_unique next next').operand hln hln'
      cases hr
      obtain ⟨rfl, rfl⟩ := operands_unique more more' hlm hlm' hc hc'
      exact ⟨rfl, rfl⟩

end

end Grammar

end TreeSift
