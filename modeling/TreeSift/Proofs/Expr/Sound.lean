import TreeSift.Proofs.Expr.Reading

/-!
# TreeSift.Proofs.Expr.Sound

Whatever the readers of the grammar accept has a derivation.

The proofs go the way the readers go, and end for the same reason: every reading leaves fewer
tokens.  What they carry along is the tree, the tokens it spans, the expression it denotes, and that
the mark a term bears for a bare operand is the tree's own (`isBare`).  The last is what makes the
trees proper.
-/

namespace TreeSift

namespace Grammar

open TreeSift.Grammar.Derivation

/-- What follows an `or` is at least one condition. -/
theorem ne_nil_of_reads_disjuncts {stop : Nat} {ts rest : List Token} {es : List Expr}
    (h : Reads (disjuncts stop ts) es rest) (hs : Starts .or ts) : es ≠ [] := by
  obtain ⟨hn, -⟩ | ⟨_, _, _, _, _, -, -, -, -, rfl⟩ := reads_disjuncts.mp h
  · exact absurd hs hn
  · simp

/-- What follows an `and` is at least one condition. -/
theorem ne_nil_of_reads_conjuncts {stop : Nat} {ts rest : List Token} {es : List Expr}
    (h : Reads (conjuncts stop ts) es rest) (hs : Starts .and ts) : es ≠ [] := by
  obtain ⟨hn, -⟩ | ⟨_, _, _, _, _, -, -, -, -, rfl⟩ := reads_conjuncts.mp h
  · exact absurd hs hn
  · simp

/-- A derivation accounts for a reading that went from `ts` to `rest` and gave the term `t`: it is
made of the tokens in between, stands for the term's expression, and is bare where the term is. -/
structure Fits {r : Rule} (d : Derivation r) (ts rest : List Token) (t : Term)
    (expr : Expr) : Prop where
  proper : d.Proper
  spans : Spans d.lexemes ts rest
  expr_eq : expr = t.expr
  bare_eq : d.isBare = t.bare.isSome

mutual

theorem disjunction_sound {stop : Nat} {ts rest : List Token} {t : Term}
    (h : Reads (disjunction stop ts) t rest) :
    ∃ d : Derivation .disjunction, Fits d ts rest t d.denote := by
  obtain ⟨first, mid, hfirst, h⟩ := reads_disjunction.mp h
  obtain ⟨df, hp, hl, he, hb⟩ := conjunction_sound hfirst
  obtain ⟨-, rfl, rfl⟩ | ⟨hs, more, hbare, hmore, rfl⟩ := h
  · have hspans : Spans (lexemes (.disjunction df .noDisjunct)) ts mid := by
      simpa [lexemes] using hl
    exact ⟨.disjunction df .noDisjunct, ⟨hp, trivial, .inl rfl⟩, hspans, he, hb⟩
  · obtain ⟨dm, hpm, hlm, rfl⟩ := disjuncts_sound hmore
    have hne := ne_nil_of_reads_disjuncts hmore hs
    refine ⟨.disjunction df dm, ⟨hp, hpm, .inr (by simp [hb, hbare])⟩,
      spans_append.mpr ⟨mid, hl, hlm⟩, ?_, ?_⟩
    · rw [← he]
      exact joined_eq_simplify (by decide) (flat_conjunction df) (flat_disjuncts dm) hne
    · cases dm with
      | noDisjunct => contradiction
      | disjunct => rfl
termination_by 8 * ts.length + 4
decreasing_by
  · omega
  · have := hfirst.length_lt
    omega

theorem disjuncts_sound {stop : Nat} {ts rest : List Token} {es : List Expr}
    (h : Reads (disjuncts stop ts) es rest) :
    ∃ d : Derivation .disjuncts, d.Proper ∧ Spans d.lexemes ts rest ∧ d.denote = es := by
  obtain ⟨-, rfl, rfl⟩ | ⟨p, r, next, mid, more, hts, hnext, hbare, hmore, rfl⟩ :=
    reads_disjuncts.mp h
  · exact ⟨.noDisjunct, trivial, rfl, rfl⟩
  · obtain ⟨dn, hp, hl, he, hb⟩ := conjunction_sound hnext
    obtain ⟨dm, hpm, hlm, rfl⟩ := disjuncts_sound hmore
    exact ⟨.disjunct dn dm, ⟨hp, hpm, by simp [hb, hbare]⟩,
      ⟨p, r, hts, spans_append.mpr ⟨mid, hl, hlm⟩⟩, by rw [denote, he]⟩
termination_by 8 * ts.length + 4
decreasing_by
  all_goals simp only [hts, List.length_cons]
  · omega
  · have := hnext.length_lt
    omega

theorem conjunction_sound {stop : Nat} {ts rest : List Token} {t : Term}
    (h : Reads (conjunction stop ts) t rest) :
    ∃ d : Derivation .conjunction, Fits d ts rest t d.denote := by
  obtain ⟨first, mid, hfirst, h⟩ := reads_conjunction.mp h
  obtain ⟨df, hp, hl, he, hb⟩ := denial_sound hfirst
  obtain ⟨-, rfl, rfl⟩ | ⟨hs, more, hbare, hmore, rfl⟩ := h
  · have hspans : Spans (lexemes (.conjunction df .noConjunct)) ts mid := by
      simpa [lexemes] using hl
    exact ⟨.conjunction df .noConjunct, ⟨hp, trivial, .inl rfl⟩, hspans, he, hb⟩
  · obtain ⟨dm, hpm, hlm, rfl⟩ := conjuncts_sound hmore
    have hne := ne_nil_of_reads_conjuncts hmore hs
    refine ⟨.conjunction df dm, ⟨hp, hpm, .inr (by simp [hb, hbare])⟩,
      spans_append.mpr ⟨mid, hl, hlm⟩, ?_, ?_⟩
    · rw [← he]
      exact joined_eq_simplify (by decide) (flat_denial df) (flat_conjuncts dm) hne
    · cases dm with
      | noConjunct => contradiction
      | conjunct => rfl
termination_by 8 * ts.length + 3
decreasing_by
  · omega
  · have := hfirst.length_lt
    omega

theorem conjuncts_sound {stop : Nat} {ts rest : List Token} {es : List Expr}
    (h : Reads (conjuncts stop ts) es rest) :
    ∃ d : Derivation .conjuncts, d.Proper ∧ Spans d.lexemes ts rest ∧ d.denote = es := by
  obtain ⟨-, rfl, rfl⟩ | ⟨p, r, next, mid, more, hts, hnext, hbare, hmore, rfl⟩ :=
    reads_conjuncts.mp h
  · exact ⟨.noConjunct, trivial, rfl, rfl⟩
  · obtain ⟨dn, hp, hl, he, hb⟩ := denial_sound hnext
    obtain ⟨dm, hpm, hlm, rfl⟩ := conjuncts_sound hmore
    exact ⟨.conjunct dn dm, ⟨hp, hpm, by simp [hb, hbare]⟩,
      ⟨p, r, hts, spans_append.mpr ⟨mid, hl, hlm⟩⟩, by rw [denote, he]⟩
termination_by 8 * ts.length + 3
decreasing_by
  all_goals simp only [hts, List.length_cons]
  · omega
  · have := hnext.length_lt
    omega

theorem denial_sound {stop : Nat} {ts rest : List Token} {t : Term}
    (h : Reads (denial stop ts) t rest) :
    ∃ d : Derivation .denial, Fits d ts rest t d.denote := by
  obtain ⟨-, h⟩ | ⟨p, r, inner, hts, hinner, hbare, rfl⟩ := reads_denial.mp h
  · obtain ⟨d, hp, hl, he, hb⟩ := comparison_sound h
    exact ⟨.affirm d, hp, hl, he, hb⟩
  · obtain ⟨d, hp, hl, he, hb⟩ := denial_sound hinner
    exact ⟨.deny d, ⟨hp, by simp [hb, hbare]⟩, ⟨p, r, hts, hl⟩, by rw [denote, he], rfl⟩
termination_by 8 * ts.length + 2
decreasing_by
  · omega
  · simp only [hts, List.length_cons]
    omega

theorem comparison_sound {stop : Nat} {ts rest : List Token} {t : Term}
    (h : Reads (comparison stop ts) t rest) :
    ∃ d : Derivation .comparison, Fits d ts rest t d.denote := by
  obtain ⟨left, mid, hleft, h⟩ := reads_comparison.mp h
  obtain ⟨dl, hp, hl, he, hb⟩ := operand_sound hleft
  obtain ⟨-, rfl, rfl⟩ | ⟨op, after, right, hop, hright, rfl⟩ := h
  · refine ⟨.alone dl, hp, hl, he, ?_⟩
    cases hg : left.2 <;> simp_all [isBare]
  · obtain ⟨dr, hpr, hlr, her, -⟩ := operand_sound hright
    exact ⟨.compared dl op dr, ⟨hp, hpr⟩,
      spans_append.mpr ⟨mid, hl, spans_append.mpr ⟨after, hop.spans, hlr⟩⟩,
      by rw [denote, he, her], rfl⟩
termination_by 8 * ts.length + 1
decreasing_by
  · omega
  · have h₁ := hleft.length_lt
    have h₂ := hop.length_lt
    omega

theorem operand_sound {stop : Nat} {ts rest : List Token} {v : Expr × Bool}
    (h : Reads (operand stop ts) v rest) :
    ∃ d : Derivation .operand, d.Proper ∧ Spans d.lexemes ts rest ∧ d.denote = v.1 ∧
      d.isBare = !v.2 := by
  obtain ⟨l, p, e, hts, he, rfl⟩ | ⟨name, p, q, r, es, hts, hargs, rfl⟩ |
    ⟨p, r, inner, q, hts, hinner, rfl⟩ := reads_operand.mp h
  · exact ⟨.atom he, trivial, ⟨p, rest, hts, rfl⟩, rfl, rfl⟩
  · obtain ⟨q', rfl, rfl⟩ | ⟨-, hargs⟩ := hargs
    · exact ⟨.call name .noArgument, trivial, ⟨p, _, hts, q, _, rfl, q', rest, rfl, rfl⟩, rfl, rfl⟩
    · obtain ⟨d, q', hp, hl, rfl⟩ := operands_sound hargs
      exact ⟨.call name (.arguments d), hp, ⟨p, _, hts, q, r, rfl,
        spans_append.mpr ⟨_, hl, q', rest, rfl, rfl⟩⟩, rfl, rfl⟩
  · obtain ⟨d, hp, hl, he, -⟩ := disjunction_sound hinner
    exact ⟨.group d, hp, ⟨p, r, hts, spans_append.mpr ⟨_, hl, q, rest, rfl, rfl⟩⟩, he, rfl⟩
termination_by 8 * ts.length
decreasing_by
  all_goals simp only [hts, List.length_cons]
  all_goals omega

theorem operands_sound {stop : Nat} {ts rest : List Token} {es : List Expr}
    (h : Reads (operands stop ts) es rest) :
    ∃ (d : Derivation .operands) (p : Nat), d.Proper ∧
      Spans d.lexemes ts (⟨.closeParen, p⟩ :: rest) ∧ d.denote = es := by
  obtain ⟨first, mid, hfirst, h⟩ := reads_operands.mp h
  obtain ⟨df, hp, hl, he, -⟩ := operand_sound hfirst
  obtain ⟨p, rfl, rfl⟩ | ⟨p, r, more, hmid, hmore, rfl⟩ := h
  · exact ⟨.lastOperand df, p, hp, hl, by rw [denote, he]⟩
  · obtain ⟨dm, q, hpm, hlm, rfl⟩ := operands_sound hmore
    exact ⟨.moreOperands df dm, q, ⟨hp, hpm⟩,
      spans_append.mpr ⟨mid, hl, p, r, hmid, hlm⟩, by rw [denote, he]⟩
termination_by 8 * ts.length + 1
decreasing_by
  · omega
  · have := hfirst.length_lt
    simp only [hmid, List.length_cons] at this
    omega

end

end Grammar

end TreeSift
