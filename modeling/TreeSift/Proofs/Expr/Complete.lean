import TreeSift.Proofs.Expr.Sound

/-!
# TreeSift.Proofs.Expr.Complete

Whatever has a proper derivation is accepted.

For this one has to know where a rule ends.  `follow` lists the tokens that may come after a rule,
and `opensOperand` those that an operand can start with.  The two are disjoint from the tokens that
would carry a rule on, so the readers, which always take as much as they can, stop where the
derivation does.
-/

namespace TreeSift

namespace Grammar

open TreeSift.Grammar.Derivation

/-- The tokens an operand can start with. -/
def opensOperand : Lexeme → Bool
  | .word w => w == "true" || w == "false" || w == "null"
  | .path _ => true
  | .string _ => true
  | .number _ => true
  | .date _ => true
  | .parameter _ => true
  | .function _ => true
  | .openParen => true
  | _ => false

/-- The tokens that may come after a rule; an operand shows its end by itself. -/
def follow : Rule → Lexeme → Bool
  | .operand, _ => true
  | .comparison, l => l == .closeParen || l == .or || l == .and
  | .denial, l => l == .closeParen || l == .or || l == .and
  | .conjunction, l => l == .closeParen || l == .or
  | .conjuncts, l => l == .closeParen || l == .or
  | _, l => l == .closeParen

/-- The tokens after a rule are none, or start with one that may come there. -/
def Closes (r : Rule) (ts : List Token) : Prop := ∀ l, Starts l ts → follow r l = true

theorem Starts.unique {l l' : Lexeme} {ts : List Token} (h : Starts l ts) (h' : Starts l' ts) :
    l = l' := by
  obtain ⟨p, r, rfl⟩ := h
  obtain ⟨p', r', h'⟩ := h'
  injection h' with h' _
  injection h'

@[simp] theorem starts_cons {l : Lexeme} {t : Token} {ts : List Token} :
    Starts l (t :: ts) ↔ t.lexeme = l := by
  obtain ⟨m, p⟩ := t
  constructor
  · exact fun h => Starts.unique ⟨p, ts, rfl⟩ h
  · intro h
    subst h
    exact ⟨p, ts, rfl⟩

theorem closes_nil (r : Rule) : Closes r [] := by
  intro l h
  obtain ⟨p, r, h⟩ := h
  contradiction

theorem closes_cons {r : Rule} {t : Token} {ts : List Token} (h : follow r t.lexeme = true) :
    Closes r (t :: ts) := by
  intro l hl
  rw [starts_cons] at hl
  exact hl ▸ h

theorem Closes.not_starts {r : Rule} {ts : List Token} (h : Closes r ts) {l : Lexeme}
    (hl : follow r l = false) : ¬ Starts l ts := by
  intro hs
  rw [h l hs] at hl
  contradiction

/-- What may follow a disjunction may follow a conjunction, and what may follow that a denial. -/
theorem follow_mono {l : Lexeme} :
    (follow .disjunction l = true → follow .conjunction l = true) ∧
      (follow .conjunction l = true → follow .denial l = true) := by
  cases l <;> simp [follow]

/-! ## where rules start -/

theorem opensOperand_of_atom {l : Lexeme} {e : Expr} (h : Atom l e) : opensOperand l = true := by
  cases h <;> rfl

/-- No argument list ends before a token that starts an operand. -/
theorem follow_of_opensOperand {l : Lexeme} (h : opensOperand l = true) :
    follow .arguments l = false := by
  cases l <;> simp_all [follow, opensOperand]

theorem starts_operand (d : Derivation .operand) {ts rest : List Token}
    (h : Spans d.lexemes ts rest) : ∃ l, Starts l ts ∧ opensOperand l = true := by
  cases d with
  | atom he =>
      obtain ⟨p, r, rfl, -⟩ := h
      exact ⟨_, ⟨p, r, rfl⟩, opensOperand_of_atom he⟩
  | call name args =>
      obtain ⟨p, r, rfl, -⟩ := h
      exact ⟨_, ⟨p, r, rfl⟩, rfl⟩
  | group inner =>
      obtain ⟨p, r, rfl, -⟩ := h
      exact ⟨_, ⟨p, r, rfl⟩, rfl⟩

theorem starts_operands (d : Derivation .operands) {ts rest : List Token}
    (h : Spans d.lexemes ts rest) : ∃ l, Starts l ts ∧ opensOperand l = true := by
  cases d with
  | lastOperand last => exact starts_operand last h
  | moreOperands next more =>
      obtain ⟨mid, hn, -⟩ := spans_append.mp h
      exact starts_operand next hn

theorem starts_comparison (d : Derivation .comparison) {ts rest : List Token}
    (h : Spans d.lexemes ts rest) : ∃ l, Starts l ts ∧ opensOperand l = true := by
  cases d with
  | compared left op right =>
      obtain ⟨mid, hl, -⟩ := spans_append.mp h
      exact starts_operand left hl
  | alone inner => exact starts_operand inner h

/-- A token that no operand starts with is not where something starts with an operand. -/
theorem not_starts_of_opensOperand {ts : List Token} (h : ∃ l, Starts l ts ∧ opensOperand l = true)
    {m : Lexeme} (hm : opensOperand m = false) : ¬ Starts m ts := by
  obtain ⟨l, hl, ho⟩ := h
  intro hs
  rw [hl.unique hs, hm] at ho
  contradiction

/-! ## where rules end -/

theorem closes_of_disjuncts (d : Derivation .disjuncts) {ts rest : List Token}
    (h : Spans d.lexemes ts rest) (hc : Closes .disjunction rest) : Closes .conjunction ts := by
  cases d with
  | noDisjunct =>
      obtain rfl := h
      exact fun l hl => follow_mono.1 (hc l hl)
  | disjunct next more =>
      obtain ⟨p, r, rfl, -⟩ := h
      exact closes_cons rfl

theorem closes_of_conjuncts (d : Derivation .conjuncts) {ts rest : List Token}
    (h : Spans d.lexemes ts rest) (hc : Closes .conjunction rest) : Closes .denial ts := by
  cases d with
  | noConjunct =>
      obtain rfl := h
      exact fun l hl => follow_mono.2 (hc l hl)
  | conjunct next more =>
      obtain ⟨p, r, rfl, -⟩ := h
      exact closes_cons rfl

/-- An operator is read whole before an operand. -/
theorem readsOperator_before_operand (stop : Nat) {ts mid rest : List Token} {op : Operator}
    {d : Derivation .operand} (hop : Spans (spelling op) ts mid) (h : Spans d.lexemes mid rest) :
    ReadsOperator stop ts op mid :=
  readsOperator_of_spans hop (not_starts_of_opensOperand (starts_operand d h) rfl)
    (not_starts_of_opensOperand (starts_operand d h) rfl)

/-- No operator stands after a comparison. -/
theorem operator_eq_none_of_closes (stop : Nat) {ts : List Token} (h : Closes .comparison ts) :
    operator stop ts = .ok none :=
  operator_eq_none.mpr ⟨fun _ => h.not_starts rfl, h.not_starts rfl⟩

/-! ## proper derivations are read -/

theorem bare_eq_none {t : Term} {b : Bool} (h : b = t.bare.isSome) (hb : b = false) :
    t.bare = none := by
  rw [hb] at h
  exact Option.isNone_iff_eq_none.mp (by simpa using h)

mutual

theorem disjunction_complete (stop : Nat) {ts rest : List Token} :
    (d : Derivation .disjunction) → d.Proper → Spans d.lexemes ts rest → Closes .disjunction rest →
      ∃ t, Reads (disjunction stop ts) t rest ∧ d.denote = t.expr ∧ d.isBare = t.bare.isSome
  | .disjunction first more, hp, hl, hc => by
      obtain ⟨hpf, hpm, hbare⟩ := hp
      obtain ⟨mid, hlf, hlm⟩ := spans_append.mp hl
      obtain ⟨t, hf, he, hb⟩ :=
        conjunction_complete stop first hpf hlf (closes_of_disjuncts more hlm hc)
      cases more with
      | noDisjunct =>
          obtain rfl := hlm
          refine ⟨t, reads_disjunction.mpr ⟨t, _, hf, .inl ⟨hc.not_starts rfl, rfl, rfl⟩⟩, he, hb⟩
      | disjunct next more =>
          have ht : t.bare = none := bare_eq_none hb (by simpa using hbare)
          have hm := disjuncts_complete stop _ hpm hlm hc
          have hs : Starts .or mid := by
            obtain ⟨p, r, rfl, -⟩ := hlm
            exact ⟨p, r, rfl⟩
          refine ⟨_, reads_disjunction.mpr ⟨t, mid, hf, .inr ⟨hs, _, ht, hm, rfl⟩⟩, ?_, rfl⟩
          rw [← he]
          exact joined_eq_simplify (by decide) (flat_conjunction first)
            (flat_disjuncts (.disjunct next more)) (by simp [denote])
termination_by d => sizeOf d

theorem disjuncts_complete (stop : Nat) {ts rest : List Token} :
    (d : Derivation .disjuncts) → d.Proper → Spans d.lexemes ts rest → Closes .disjunction rest →
      Reads (disjuncts stop ts) d.denote rest
  | .noDisjunct, _, hl, hc => by
      obtain rfl := hl
      exact reads_disjuncts.mpr (.inl ⟨hc.not_starts rfl, rfl, rfl⟩)
  | .disjunct next more, hp, hl, hc => by
      obtain ⟨hpn, hpm, hbare⟩ := hp
      obtain ⟨p, r, rfl, hl⟩ := hl
      obtain ⟨mid, hln, hlm⟩ := spans_append.mp hl
      obtain ⟨t, hn, he, hb⟩ :=
        conjunction_complete stop next hpn hln (closes_of_disjuncts more hlm hc)
      have hm := disjuncts_complete stop more hpm hlm hc
      exact reads_disjuncts.mpr
        (.inr ⟨p, r, t, mid, _, rfl, hn, bare_eq_none hb hbare, hm, by rw [denote, he]⟩)
termination_by d => sizeOf d

theorem conjunction_complete (stop : Nat) {ts rest : List Token} :
    (d : Derivation .conjunction) → d.Proper → Spans d.lexemes ts rest → Closes .conjunction rest →
      ∃ t, Reads (conjunction stop ts) t rest ∧ d.denote = t.expr ∧ d.isBare = t.bare.isSome
  | .conjunction first more, hp, hl, hc => by
      obtain ⟨hpf, hpm, hbare⟩ := hp
      obtain ⟨mid, hlf, hlm⟩ := spans_append.mp hl
      obtain ⟨t, hf, he, hb⟩ :=
        denial_complete stop first hpf hlf (closes_of_conjuncts more hlm hc)
      cases more with
      | noConjunct =>
          obtain rfl := hlm
          refine ⟨t, reads_conjunction.mpr ⟨t, _, hf, .inl ⟨hc.not_starts rfl, rfl, rfl⟩⟩, he, hb⟩
      | conjunct next more =>
          have ht : t.bare = none := bare_eq_none hb (by simpa using hbare)
          have hm := conjuncts_complete stop _ hpm hlm hc
          have hs : Starts .and mid := by
            obtain ⟨p, r, rfl, -⟩ := hlm
            exact ⟨p, r, rfl⟩
          refine ⟨_, reads_conjunction.mpr ⟨t, mid, hf, .inr ⟨hs, _, ht, hm, rfl⟩⟩, ?_, rfl⟩
          rw [← he]
          exact joined_eq_simplify (by decide) (flat_denial first)
            (flat_conjuncts (.conjunct next more)) (by simp [denote])
termination_by d => sizeOf d

theorem conjuncts_complete (stop : Nat) {ts rest : List Token} :
    (d : Derivation .conjuncts) → d.Proper → Spans d.lexemes ts rest → Closes .conjunction rest →
      Reads (conjuncts stop ts) d.denote rest
  | .noConjunct, _, hl, hc => by
      obtain rfl := hl
      exact reads_conjuncts.mpr (.inl ⟨hc.not_starts rfl, rfl, rfl⟩)
  | .conjunct next more, hp, hl, hc => by
      obtain ⟨hpn, hpm, hbare⟩ := hp
      obtain ⟨p, r, rfl, hl⟩ := hl
      obtain ⟨mid, hln, hlm⟩ := spans_append.mp hl
      obtain ⟨t, hn, he, hb⟩ := denial_complete stop next hpn hln (closes_of_conjuncts more hlm hc)
      have hm := conjuncts_complete stop more hpm hlm hc
      exact reads_conjuncts.mpr
        (.inr ⟨p, r, t, mid, _, rfl, hn, bare_eq_none hb hbare, hm, by rw [denote, he]⟩)
termination_by d => sizeOf d

theorem denial_complete (stop : Nat) {ts rest : List Token} :
    (d : Derivation .denial) → d.Proper → Spans d.lexemes ts rest → Closes .denial rest →
      ∃ t, Reads (denial stop ts) t rest ∧ d.denote = t.expr ∧ d.isBare = t.bare.isSome
  | .deny inner, hp, hl, hc => by
      obtain ⟨p, r, rfl, hl⟩ := hl
      obtain ⟨t, hi, he, hb⟩ := denial_complete stop inner hp.1 hl hc
      exact ⟨_, reads_denial.mpr (.inr ⟨p, r, t, rfl, hi, bare_eq_none hb hp.2, rfl⟩),
        by rw [denote, he], rfl⟩
  | .affirm inner, hp, hl, hc => by
      obtain ⟨t, hi, he, hb⟩ := comparison_complete stop inner hp hl hc
      have hn : ¬ Starts .not ts := not_starts_of_opensOperand (starts_comparison inner hl) rfl
      exact ⟨t, reads_denial.mpr (.inl ⟨hn, hi⟩), he, hb⟩
termination_by d => sizeOf d

theorem comparison_complete (stop : Nat) {ts rest : List Token} :
    (d : Derivation .comparison) → d.Proper → Spans d.lexemes ts rest → Closes .comparison rest →
      ∃ t, Reads (comparison stop ts) t rest ∧ d.denote = t.expr ∧ d.isBare = t.bare.isSome
  | .compared left op right, hp, hl, _ => by
      obtain ⟨mid, hll, hl⟩ := spans_append.mp hl
      obtain ⟨after, hlo, hlr⟩ := spans_append.mp hl
      have hleft := operand_complete stop left hp.1 hll
      have hright := operand_complete stop right hp.2 hlr
      have hop := readsOperator_before_operand stop hlo hlr
      exact ⟨_, reads_comparison.mpr ⟨_, mid, hleft, .inr ⟨op, after, _, hop, hright, rfl⟩⟩,
        rfl, rfl⟩
  | .alone inner, hp, hl, hc => by
      have hi := operand_complete stop inner hp hl
      have hop := operator_eq_none_of_closes stop hc
      refine ⟨_, reads_comparison.mpr ⟨_, rest, hi, .inl ⟨hop, rfl, rfl⟩⟩, rfl, ?_⟩
      cases hb : inner.isBare <;> simp [isBare, hb]
termination_by d => sizeOf d

theorem operand_complete (stop : Nat) {ts rest : List Token} :
    (d : Derivation .operand) → d.Proper → Spans d.lexemes ts rest →
      Reads (operand stop ts) (d.denote, !d.isBare) rest
  | .atom he, _, hl => by
      obtain ⟨p, r, rfl, rfl⟩ := hl
      exact reads_operand.mpr (.inl ⟨_, p, _, rfl, he, rfl⟩)
  | .call name args, hp, hl => by
      obtain ⟨p, r, rfl, q, r', rfl, hl⟩ := hl
      obtain ⟨mid, hla, q', r'', rfl, rfl⟩ := spans_append.mp hl
      exact reads_operand.mpr
        (.inr (.inl ⟨name, p, q, r', _, rfl, arguments_complete stop args hp hla, rfl⟩))
  | .group inner, hp, hl => by
      obtain ⟨p, r, rfl, hl⟩ := hl
      obtain ⟨mid, hli, q, r', rfl, rfl⟩ := spans_append.mp hl
      obtain ⟨t, hi, he, -⟩ := disjunction_complete stop inner hp hli (closes_cons rfl)
      exact reads_operand.mpr (.inr (.inr ⟨p, r, t, q, rfl, hi, by rw [denote, he]; rfl⟩))
termination_by d => sizeOf d

theorem arguments_complete (stop : Nat) {ts rest : List Token} {p : Nat} :
    (d : Derivation .arguments) → d.Proper → Spans d.lexemes ts (⟨.closeParen, p⟩ :: rest) →
      ReadsArguments stop ts d.denote rest
  | .noArgument, _, hl => .inl ⟨p, hl, rfl⟩
  | .arguments args, hp, hl => by
      have hs : ¬ Starts .closeParen ts := not_starts_of_opensOperand (starts_operands args hl) rfl
      exact .inr ⟨hs, operands_complete stop args hp hl⟩
termination_by d => sizeOf d

theorem operands_complete (stop : Nat) {ts rest : List Token} {p : Nat} :
    (d : Derivation .operands) → d.Proper → Spans d.lexemes ts (⟨.closeParen, p⟩ :: rest) →
      Reads (operands stop ts) d.denote rest
  | .lastOperand last, hp, hl =>
      reads_operands.mpr ⟨_, _, operand_complete stop last hp hl, .inl ⟨p, rfl, rfl⟩⟩
  | .moreOperands next more, hp, hl => by
      obtain ⟨mid, hln, q, r, rfl, hlm⟩ := spans_append.mp hl
      have hn := operand_complete stop next hp.1 hln
      have hm := operands_complete stop more hp.2 hlm
      exact reads_operands.mpr ⟨_, _, hn, .inr ⟨q, r, _, rfl, hm, rfl⟩⟩
termination_by d => sizeOf d

end

end Grammar

end TreeSift
