import TreeSift.Proofs.Expr.Derivation

/-!
# TreeSift.Proofs.Expr.Reading

What each reader of the grammar does, said once.

`Reads x v rest` says that a reading succeeded with the value `v` and left `rest`; it forgets the
proof that a reading takes tokens, which the readers carry only to end.  For every reader there is
one equivalence that opens it, so no proof about the grammar unfolds a reader again.
-/

namespace TreeSift

namespace Grammar

/-- The next token is the given one. -/
def Starts (l : Lexeme) (ts : List Token) : Prop := ∃ p r, ts = ⟨l, p⟩ :: r

/-- The tokens start with the given ones, and `rest` follows. -/
def Spans : List Lexeme → List Token → List Token → Prop
  | [], ts, rest => ts = rest
  | l :: ls, ts, rest => ∃ p r, ts = ⟨l, p⟩ :: r ∧ Spans ls r rest

/-- The reading succeeded with a value, and these tokens are left. -/
def Reads {α : Type} {n : Nat} (x : Except ParseError (Parsed α n)) (v : α) (rest : List Token) :
    Prop :=
  ∃ r, x = .ok r ∧ r.value = v ∧ r.rest = rest

/-! ## tokens in front -/

@[simp] theorem spans_nil {ts rest : List Token} : Spans [] ts rest ↔ ts = rest := Iff.rfl

theorem spans_cons {l : Lexeme} {ls : List Lexeme} {ts rest : List Token} :
    Spans (l :: ls) ts rest ↔ ∃ p r, ts = ⟨l, p⟩ :: r ∧ Spans ls r rest := Iff.rfl

theorem spans_append {as bs : List Lexeme} {ts rest : List Token} :
    Spans (as ++ bs) ts rest ↔ ∃ mid, Spans as ts mid ∧ Spans bs mid rest := by
  induction as generalizing ts with
  | nil => simp
  | cons a as ih =>
      simp only [List.cons_append, spans_cons, ih]
      constructor
      · intro h
        obtain ⟨p, r, hts, mid, has, hbs⟩ := h
        exact ⟨mid, ⟨p, r, hts, has⟩, hbs⟩
      · intro h
        obtain ⟨mid, ⟨p, r, hts, has⟩, hbs⟩ := h
        exact ⟨p, r, hts, mid, has, hbs⟩

/-- Tokens with nothing after them are the ones they start with. -/
theorem spans_all {ls : List Lexeme} {ts : List Token} :
    Spans ls ts [] ↔ ls = ts.map Token.lexeme := by
  induction ls generalizing ts with
  | nil => cases ts <;> simp
  | cons l ls ih =>
      simp only [spans_cons, ih]
      constructor
      · intro h
        obtain ⟨p, r, rfl, rfl⟩ := h
        rfl
      · intro h
        cases ts with
        | nil => contradiction
        | cons t ts =>
            injection h with hl hls
            exact ⟨t.position, ts, by rw [hl], hls⟩

/-! ## success and failure -/

theorem Reads.length_lt {α : Type} {n : Nat} {x : Except ParseError (Parsed α n)} {v : α}
    {rest : List Token} (h : Reads x v rest) : rest.length < n := by
  obtain ⟨r, -, -, rfl⟩ := h
  exact r.short

/-- A reading has one outcome. -/
theorem Reads.unique {α : Type} {n : Nat} {x : Except ParseError (Parsed α n)} {v w : α}
    {rest rest' : List Token} (h : Reads x v rest) (h' : Reads x w rest') :
    v = w ∧ rest = rest' := by
  obtain ⟨r, hr, rfl, rfl⟩ := h
  obtain ⟨r', hr', rfl, rfl⟩ := h'
  rw [hr] at hr'
  injection hr' with hr'
  subst hr'
  exact ⟨rfl, rfl⟩

@[simp] theorem reads_pure {α : Type} {n : Nat} {r : Parsed α n} {v : α} {rest : List Token} :
    Reads (pure r) v rest ↔ r.value = v ∧ r.rest = rest := by
  simp [Reads, pure, Except.pure]

@[simp] theorem reads_error {α : Type} {n : Nat} {e : ParseError} {v : α} {rest : List Token} :
    ¬ Reads (.error e : Except ParseError (Parsed α n)) v rest := by
  simp [Reads]

theorem reads_bind {α β : Type} {n : Nat} {x : Except ParseError β}
    {f : β → Except ParseError (Parsed α n)} {v : α} {rest : List Token} :
    Reads (x >>= f) v rest ↔ ∃ b, x = .ok b ∧ Reads (f b) v rest := by
  cases x with
  | error e => simp [bind, Except.bind]
  | ok b => simp [bind, Except.bind]

theorem condition_eq_ok {t : Term} {e : Expr} :
    t.condition = .ok e ↔ t.bare = none ∧ t.expr = e := by
  unfold Term.condition
  cases h : t.bare with
  | none => simp
  | some p => simp

/-! ## operands of one token, operators -/

theorem atom_eq_ok {stop : Nat} {t : Token} {r : List Token} {e : Expr} :
    atom stop t r = .ok e ↔ Atom t.lexeme e := by
  constructor
  · intro h
    unfold atom at h
    split at h
    · next text hl => injection h with h; subst h; exact hl ▸ .path text
    · next text hl => injection h with h; subst h; exact hl ▸ .string text
    · next text hl =>
      split at h
      · next v hv => injection h with h; subst h; exact hl ▸ .number hv
      · contradiction
    · next text hl =>
      split at h
      · next m hm => injection h with h; subst h; exact hl ▸ .date hm
      · contradiction
    · next name hl => injection h with h; subst h; exact hl ▸ .parameter name
    · next hl => injection h with h; subst h; exact hl ▸ .true
    · next hl => injection h with h; subst h; exact hl ▸ .false
    · next hl => injection h with h; subst h; exact hl ▸ .null
    · contradiction
  · intro h
    obtain ⟨l, p⟩ := t
    cases h with
    | number h => simp [atom, h]
    | date h => simp [atom, h]
    | _ => rfl

/-- A token is one operand at most. -/
theorem Atom.unique {l : Lexeme} {e e' : Expr} (h : Atom l e) (h' : Atom l e') : e = e' := by
  have he : atom 0 ⟨l, 0⟩ [] = .ok e := atom_eq_ok.mpr h
  have he' : atom 0 ⟨l, 0⟩ [] = .ok e' := atom_eq_ok.mpr h'
  rw [he] at he'
  injection he'

/-- The operator at the start of the tokens is the given one, and `rest` follows. -/
def ReadsOperator (stop : Nat) (ts : List Token) (op : Operator) (rest : List Token) : Prop :=
  ∃ r, operator stop ts = .ok (some r) ∧ r.value = op ∧ r.rest = rest

theorem ReadsOperator.length_lt {stop : Nat} {ts rest : List Token} {op : Operator}
    (h : ReadsOperator stop ts op rest) : rest.length < ts.length := by
  obtain ⟨r, -, -, rfl⟩ := h
  exact r.short

theorem ReadsOperator.ne_none {stop : Nat} {ts rest : List Token} {op : Operator}
    (h : ReadsOperator stop ts op rest) : operator stop ts ≠ .ok none := by
  obtain ⟨r, hr, -⟩ := h
  simp [hr]

theorem ReadsOperator.unique {stop : Nat} {ts rest rest' : List Token} {op op' : Operator}
    (h : ReadsOperator stop ts op rest) (h' : ReadsOperator stop ts op' rest') :
    op = op' ∧ rest = rest' := by
  obtain ⟨r, hr, rfl, rfl⟩ := h
  obtain ⟨r', hr', rfl, rfl⟩ := h'
  rw [hr] at hr'
  injection hr' with hr'
  injection hr' with hr'
  subst hr'
  exact ⟨rfl, rfl⟩

theorem takeNot_of_not_starts {ts : List Token} (h : ¬ Starts .not ts) :
    takeNot ts = (false, ts) := by
  unfold takeNot
  split
  · next p r => exact absurd ⟨p, r, rfl⟩ h
  · rfl

theorem takeAny_of_not_starts {ts : List Token} (h : ¬ Starts (.word "any") ts) :
    takeAny ts = (false, ts) := by
  unfold takeAny
  split
  · next p r => exact absurd ⟨p, r, rfl⟩ h
  · rfl

theorem spans_takeNot (ts : List Token) :
    Spans (if (takeNot ts).1 then [.not] else []) ts (takeNot ts).2 := by
  unfold takeNot
  split
  · next p r => exact ⟨p, r, rfl, rfl⟩
  · rfl

theorem spans_takeAny (ts : List Token) :
    Spans (if (takeAny ts).1 then [.word "any"] else []) ts (takeAny ts).2 := by
  unfold takeAny
  split
  · next p r => exact ⟨p, r, rfl, rfl⟩
  · rfl

theorem spelling_containsOperator (negated any : Bool) :
    spelling (containsOperator negated any) =
      .comparison .contains ::
        ((if negated then [.not] else []) ++ if any then [.word "any"] else []) := by
  cases negated <;> cases any <;> rfl

theorem spelling_likeOperator (negated : Bool) :
    spelling (if negated then .notLike else .like) =
      .comparison .like :: if negated then [.not] else [] := by
  cases negated <;> rfl

/-- An operator that is read is written there. -/
theorem ReadsOperator.spans {stop : Nat} {ts rest : List Token} {op : Operator}
    (h : ReadsOperator stop ts op rest) : Spans (spelling op) ts rest := by
  obtain ⟨r, hr, rfl, rfl⟩ := h
  unfold operator at hr
  split at hr
  · next p r =>
    injection hr with hr
    injection hr with hr
    subst hr
    dsimp only
    rw [spelling_likeOperator]
    exact ⟨p, r, rfl, spans_takeNot r⟩
  · next p r =>
    injection hr with hr
    injection hr with hr
    subst hr
    dsimp only
    rw [spelling_containsOperator]
    exact ⟨p, r, rfl, spans_append.mpr ⟨_, spans_takeNot r, spans_takeAny _⟩⟩
  · next w p r hl hc =>
    injection hr with hr
    injection hr with hr
    subst hr
    cases w with
    | like => exact (hl rfl).elim
    | contains => exact (hc rfl).elim
    | _ => exact ⟨p, r, rfl, rfl⟩
  · next p q r =>
    injection hr with hr
    injection hr with hr
    subst hr
    exact ⟨p, _, rfl, q, r, rfl, rfl⟩
  · contradiction
  · injection hr with hr
    contradiction

/-- An operator that is written, with what may follow it, is read. -/
theorem readsOperator_of_spans {stop : Nat} {ts rest : List Token} {op : Operator}
    (h : Spans (spelling op) ts rest) (hn : ¬ Starts .not rest) (ha : ¬ Starts (.word "any") rest) :
    ReadsOperator stop ts op rest := by
  cases op with
  | like =>
      obtain ⟨p, r, rfl, rfl⟩ := h
      exact ⟨_, rfl, by simp [takeNot_of_not_starts hn], by simp [takeNot_of_not_starts hn]⟩
  | notLike =>
      obtain ⟨p, r, rfl, q, r', rfl, rfl⟩ := h
      exact ⟨_, rfl, rfl, rfl⟩
  | contains =>
      obtain ⟨p, r, rfl, rfl⟩ := h
      exact ⟨_, rfl, by simp [takeNot_of_not_starts hn, takeAny_of_not_starts ha, containsOperator],
        by simp [takeNot_of_not_starts hn, takeAny_of_not_starts ha]⟩
  | notContains =>
      obtain ⟨p, r, rfl, q, r', rfl, rfl⟩ := h
      exact ⟨_, rfl, by simp [takeNot, takeAny_of_not_starts ha, containsOperator],
        by simp [takeNot, takeAny_of_not_starts ha]⟩
  | containsAny =>
      obtain ⟨p, r, rfl, q, r', rfl, rfl⟩ := h
      exact ⟨_, rfl, rfl, rfl⟩
  | notContainsAny =>
      obtain ⟨p, r, rfl, q, r', rfl, q', r'', rfl, rfl⟩ := h
      exact ⟨_, rfl, rfl, rfl⟩
  | notWithin =>
      obtain ⟨p, r, rfl, q, r', rfl, rfl⟩ := h
      exact ⟨_, rfl, rfl, rfl⟩
  | _ =>
      obtain ⟨p, r, rfl, rfl⟩ := h
      exact ⟨_, rfl, rfl, rfl⟩

theorem operator_eq_none {stop : Nat} {ts : List Token} :
    operator stop ts = .ok none ↔ (∀ w, ¬ Starts (.comparison w) ts) ∧ ¬ Starts .not ts := by
  constructor
  · intro h
    unfold operator at h
    split at h
    · cases h
    · cases h
    · cases h
    · cases h
    · cases h
    · next hl hc hw hi hn =>
      constructor
      · intro w h
        obtain ⟨p, r, rfl⟩ := h
        exact hw w p r rfl
      · intro h
        obtain ⟨p, r, rfl⟩ := h
        exact hn p r rfl
  · intro h
    obtain ⟨hw, hn⟩ := h
    unfold operator
    split
    · next p r => exact absurd ⟨p, r, rfl⟩ (hw _)
    · next p r => exact absurd ⟨p, r, rfl⟩ (hw _)
    · next w p r _ _ => exact absurd ⟨p, r, rfl⟩ (hw _)
    · next p q r => exact absurd ⟨p, _, rfl⟩ hn
    · next p r _ => exact absurd ⟨p, r, rfl⟩ hn
    · rfl

/-! ## the rules -/

theorem not_starts {l : Lexeme} {ts : List Token} (h : ∀ p r, ts = ⟨l, p⟩ :: r → False) :
    ¬ Starts l ts := by
  intro h
  obtain ⟨p, r, hr⟩ := h
  exact h p r hr

theorem reads_disjunction {stop : Nat} {ts rest : List Token} {t : Term} :
    Reads (disjunction stop ts) t rest ↔ ∃ first mid, Reads (conjunction stop ts) first mid ∧
      (¬ Starts .or mid ∧ t = first ∧ mid = rest ∨
        Starts .or mid ∧ ∃ more, first.bare = none ∧ Reads (disjuncts stop mid) more rest ∧
          t = ⟨(Expr.any (first.expr :: more)).simplify, none⟩) := by
  rw [disjunction, reads_bind]
  constructor
  · intro h
    obtain ⟨first, hfirst, h⟩ := h
    refine ⟨first.value, first.rest, ⟨first, hfirst, rfl, rfl⟩, ?_⟩
    split at h
    · next p r hr =>
      simp only [reads_bind, reads_pure, condition_eq_ok] at h
      obtain ⟨_, ⟨hbare, rfl⟩, more, hmore, rfl, rfl⟩ := h
      exact .inr ⟨⟨p, r, hr⟩, more.value, hbare, ⟨more, hmore, rfl, rfl⟩, rfl⟩
    · next hne =>
      rw [reads_pure] at h
      exact .inl ⟨not_starts hne, h.1.symm, h.2⟩
  · intro h
    obtain ⟨_, _, ⟨first, hfirst, rfl, rfl⟩, h⟩ := h
    refine ⟨first, hfirst, ?_⟩
    split
    · next p r hr =>
      obtain ⟨hs, -⟩ | ⟨-, _, hbare, ⟨more, hmore, rfl, rfl⟩, rfl⟩ := h
      · exact absurd ⟨p, r, hr⟩ hs
      · simp only [reads_bind, reads_pure, condition_eq_ok]
        exact ⟨_, ⟨hbare, rfl⟩, more, hmore, rfl, rfl⟩
    · next hne =>
      obtain ⟨-, rfl, rfl⟩ | ⟨⟨p, r, hr⟩, -⟩ := h
      · exact reads_pure.mpr ⟨rfl, rfl⟩
      · exact (hne p r hr).elim

theorem reads_disjuncts {stop : Nat} {ts rest : List Token} {es : List Expr} :
    Reads (disjuncts stop ts) es rest ↔
      ¬ Starts .or ts ∧ es = [] ∧ ts = rest ∨
      ∃ p r next mid more, ts = ⟨.or, p⟩ :: r ∧ Reads (conjunction stop r) next mid ∧
        next.bare = none ∧ Reads (disjuncts stop mid) more rest ∧ es = next.expr :: more := by
  constructor
  · intro h
    rw [disjuncts.eq_def] at h
    split at h
    · next p r =>
      simp only [reads_bind, reads_pure, condition_eq_ok] at h
      obtain ⟨next, hnext, _, ⟨hbare, rfl⟩, more, hmore, rfl, rfl⟩ := h
      exact .inr ⟨p, r, next.value, next.rest, more.value, rfl, ⟨next, hnext, rfl, rfl⟩, hbare,
        ⟨more, hmore, rfl, rfl⟩, rfl⟩
    · next hne =>
      rw [reads_pure] at h
      exact .inl ⟨not_starts hne, h.1.symm, h.2⟩
  · intro h
    obtain ⟨hs, rfl, rfl⟩ | ⟨p, r, _, _, _, rfl, ⟨next, hnext, rfl, rfl⟩, hbare, ⟨more, hmore,
      rfl, rfl⟩, rfl⟩ := h
    · rw [disjuncts.eq_def]
      split
      · next p r => exact absurd ⟨p, r, rfl⟩ hs
      · exact reads_pure.mpr ⟨rfl, rfl⟩
    · rw [disjuncts.eq_def]
      simp only [reads_bind, reads_pure, condition_eq_ok]
      exact ⟨next, hnext, _, ⟨hbare, rfl⟩, more, hmore, rfl, rfl⟩

theorem reads_conjunction {stop : Nat} {ts rest : List Token} {t : Term} :
    Reads (conjunction stop ts) t rest ↔ ∃ first mid, Reads (denial stop ts) first mid ∧
      (¬ Starts .and mid ∧ t = first ∧ mid = rest ∨
        Starts .and mid ∧ ∃ more, first.bare = none ∧ Reads (conjuncts stop mid) more rest ∧
          t = ⟨(Expr.all (first.expr :: more)).simplify, none⟩) := by
  rw [conjunction, reads_bind]
  constructor
  · intro h
    obtain ⟨first, hfirst, h⟩ := h
    refine ⟨first.value, first.rest, ⟨first, hfirst, rfl, rfl⟩, ?_⟩
    split at h
    · next p r hr =>
      simp only [reads_bind, reads_pure, condition_eq_ok] at h
      obtain ⟨_, ⟨hbare, rfl⟩, more, hmore, rfl, rfl⟩ := h
      exact .inr ⟨⟨p, r, hr⟩, more.value, hbare, ⟨more, hmore, rfl, rfl⟩, rfl⟩
    · next hne =>
      rw [reads_pure] at h
      exact .inl ⟨not_starts hne, h.1.symm, h.2⟩
  · intro h
    obtain ⟨_, _, ⟨first, hfirst, rfl, rfl⟩, h⟩ := h
    refine ⟨first, hfirst, ?_⟩
    split
    · next p r hr =>
      obtain ⟨hs, -⟩ | ⟨-, _, hbare, ⟨more, hmore, rfl, rfl⟩, rfl⟩ := h
      · exact absurd ⟨p, r, hr⟩ hs
      · simp only [reads_bind, reads_pure, condition_eq_ok]
        exact ⟨_, ⟨hbare, rfl⟩, more, hmore, rfl, rfl⟩
    · next hne =>
      obtain ⟨-, rfl, rfl⟩ | ⟨⟨p, r, hr⟩, -⟩ := h
      · exact reads_pure.mpr ⟨rfl, rfl⟩
      · exact (hne p r hr).elim

theorem reads_conjuncts {stop : Nat} {ts rest : List Token} {es : List Expr} :
    Reads (conjuncts stop ts) es rest ↔
      ¬ Starts .and ts ∧ es = [] ∧ ts = rest ∨
      ∃ p r next mid more, ts = ⟨.and, p⟩ :: r ∧ Reads (denial stop r) next mid ∧
        next.bare = none ∧ Reads (conjuncts stop mid) more rest ∧ es = next.expr :: more := by
  constructor
  · intro h
    rw [conjuncts.eq_def] at h
    split at h
    · next p r =>
      simp only [reads_bind, reads_pure, condition_eq_ok] at h
      obtain ⟨next, hnext, _, ⟨hbare, rfl⟩, more, hmore, rfl, rfl⟩ := h
      exact .inr ⟨p, r, next.value, next.rest, more.value, rfl, ⟨next, hnext, rfl, rfl⟩, hbare,
        ⟨more, hmore, rfl, rfl⟩, rfl⟩
    · next hne =>
      rw [reads_pure] at h
      exact .inl ⟨not_starts hne, h.1.symm, h.2⟩
  · intro h
    obtain ⟨hs, rfl, rfl⟩ | ⟨p, r, _, _, _, rfl, ⟨next, hnext, rfl, rfl⟩, hbare, ⟨more, hmore,
      rfl, rfl⟩, rfl⟩ := h
    · rw [conjuncts.eq_def]
      split
      · next p r => exact absurd ⟨p, r, rfl⟩ hs
      · exact reads_pure.mpr ⟨rfl, rfl⟩
    · rw [conjuncts.eq_def]
      simp only [reads_bind, reads_pure, condition_eq_ok]
      exact ⟨next, hnext, _, ⟨hbare, rfl⟩, more, hmore, rfl, rfl⟩

theorem reads_denial {stop : Nat} {ts rest : List Token} {t : Term} :
    Reads (denial stop ts) t rest ↔
      ¬ Starts .not ts ∧ Reads (comparison stop ts) t rest ∨
      ∃ p r inner, ts = ⟨.not, p⟩ :: r ∧ Reads (denial stop r) inner rest ∧ inner.bare = none ∧
        t = ⟨.deny inner.expr, none⟩ := by
  constructor
  · intro h
    rw [denial.eq_def] at h
    split at h
    · next p r =>
      simp only [reads_bind, reads_pure, condition_eq_ok] at h
      obtain ⟨inner, hinner, _, ⟨hbare, rfl⟩, rfl, rfl⟩ := h
      exact .inr ⟨p, r, inner.value, rfl, ⟨inner, hinner, rfl, rfl⟩, hbare, rfl⟩
    · next hne => exact .inl ⟨not_starts hne, h⟩
  · intro h
    obtain ⟨hs, h⟩ | ⟨p, r, _, rfl, ⟨inner, hinner, rfl, rfl⟩, hbare, rfl⟩ := h
    · rw [denial.eq_def]
      split
      · next p r => exact absurd ⟨p, r, rfl⟩ hs
      · exact h
    · rw [denial.eq_def]
      simp only [reads_bind, reads_pure, condition_eq_ok]
      exact ⟨inner, hinner, _, ⟨hbare, rfl⟩, rfl, rfl⟩

theorem reads_comparison {stop : Nat} {ts rest : List Token} {t : Term} :
    Reads (comparison stop ts) t rest ↔ ∃ left mid, Reads (operand stop ts) left mid ∧
      (operator stop mid = .ok none ∧ mid = rest ∧
          t = ⟨left.1, if left.2 then none else some (positionOf stop ts)⟩ ∨
        ∃ op after right, ReadsOperator stop mid op after ∧ Reads (operand stop after) right rest ∧
          t = ⟨.comparison op left.1 right.1, none⟩) := by
  rw [comparison, reads_bind]
  constructor
  · intro h
    obtain ⟨left, hleft, h⟩ := h
    refine ⟨left.value, left.rest, ⟨left, hleft, rfl, rfl⟩, ?_⟩
    rw [reads_bind] at h
    obtain ⟨op?, hop, h⟩ := h
    cases op? with
    | none =>
        obtain ⟨rfl, rfl⟩ := reads_pure.mp h
        exact .inl ⟨hop, rfl, rfl⟩
    | some op =>
        simp only [reads_bind, reads_pure] at h
        obtain ⟨right, hright, rfl, rfl⟩ := h
        have hright' : Reads (operand stop op.rest) right.value right.rest :=
          ⟨right, hright, rfl, rfl⟩
        exact .inr ⟨op.value, op.rest, right.value, ⟨op, hop, rfl, rfl⟩, hright', rfl⟩
  · intro h
    obtain ⟨_, _, ⟨left, hleft, rfl, rfl⟩, h⟩ := h
    refine ⟨left, hleft, reads_bind.mpr ?_⟩
    obtain ⟨hop, rfl, rfl⟩ | ⟨_, _, _, ⟨op, hop, rfl, rfl⟩, ⟨right, hright, rfl, rfl⟩, rfl⟩ := h
    · exact ⟨none, hop, reads_pure.mpr ⟨rfl, rfl⟩⟩
    · refine ⟨some op, hop, ?_⟩
      simp only [reads_bind, reads_pure]
      exact ⟨right, hright, rfl, rfl⟩

theorem reads_operands {stop : Nat} {ts rest : List Token} {es : List Expr} :
    Reads (operands stop ts) es rest ↔ ∃ first mid, Reads (operand stop ts) first mid ∧
      ((∃ p, mid = ⟨.closeParen, p⟩ :: rest ∧ es = [first.1]) ∨
        ∃ p r more, mid = ⟨.comma, p⟩ :: r ∧ Reads (operands stop r) more rest ∧
          es = first.1 :: more) := by
  rw [operands, reads_bind]
  constructor
  · intro h
    obtain ⟨first, hfirst, h⟩ := h
    refine ⟨first.value, first.rest, ⟨first, hfirst, rfl, rfl⟩, ?_⟩
    split at h
    · next p r hr =>
      simp only [reads_bind, reads_pure] at h
      obtain ⟨more, hmore, rfl, rfl⟩ := h
      exact .inr ⟨p, r, more.value, hr, ⟨more, hmore, rfl, rfl⟩, rfl⟩
    · next p r hr =>
      obtain ⟨rfl, rfl⟩ := reads_pure.mp h
      exact .inl ⟨p, hr, rfl⟩
    · exact (reads_error h).elim
  · intro h
    obtain ⟨_, _, ⟨first, hfirst, rfl, rfl⟩, h⟩ := h
    refine ⟨first, hfirst, ?_⟩
    obtain ⟨p, hr, rfl⟩ | ⟨p, r, _, hr, ⟨more, hmore, rfl, rfl⟩, rfl⟩ := h
    · split
      · next p' r' hr' => rw [hr] at hr'; cases hr'
      · next p' r' hr' =>
        rw [hr] at hr'
        cases hr'
        exact reads_pure.mpr ⟨rfl, rfl⟩
      · next hc => exact absurd hr (hc _ _)
    · split
      · next p' r' hr' =>
        rw [hr] at hr'
        cases hr'
        simp only [reads_bind, reads_pure]
        exact ⟨more, hmore, rfl, rfl⟩
      · next p' r' hr' => rw [hr] at hr'; cases hr'
      · next hc _ => exact absurd hr (hc _ _)

/-- The arguments of a call and its closing parenthesis, after the opening one. -/
def ReadsArguments (stop : Nat) (ts : List Token) (es : List Expr) (rest : List Token) : Prop :=
  (∃ p, ts = ⟨.closeParen, p⟩ :: rest ∧ es = []) ∨
    ¬ Starts .closeParen ts ∧ Reads (operands stop ts) es rest

theorem reads_operand {stop : Nat} {ts rest : List Token} {v : Expr × Bool} :
    Reads (operand stop ts) v rest ↔
      (∃ l p e, ts = ⟨l, p⟩ :: rest ∧ Atom l e ∧ v = (e, false)) ∨
      (∃ name p q r es, ts = ⟨.function name, p⟩ :: ⟨.openParen, q⟩ :: r ∧
        ReadsArguments stop r es rest ∧ v = (.call name es, false)) ∨
      ∃ p r inner q, ts = ⟨.openParen, p⟩ :: r ∧
        Reads (disjunction stop r) inner (⟨.closeParen, q⟩ :: rest) ∧ v = (inner.expr, true) := by
  constructor
  · intro h
    rw [operand.eq_def] at h
    split at h
    · exact (reads_error h).elim
    · next name p r =>
      refine .inr (.inl ?_)
      split at h
      · next q q' r =>
        obtain ⟨rfl, rfl⟩ := reads_pure.mp h
        exact ⟨name, p, q, _, [], rfl, .inl ⟨q', rfl, rfl⟩, rfl⟩
      · next q r hne =>
        simp only [reads_bind, reads_pure] at h
        obtain ⟨args, hargs, rfl, rfl⟩ := h
        exact ⟨name, p, q, r, args.value, rfl,
          .inr ⟨not_starts hne, args, hargs, rfl, rfl⟩, rfl⟩
      · exact (reads_error h).elim
    · next p r =>
      refine .inr (.inr ?_)
      rw [reads_bind] at h
      obtain ⟨inner, hinner, h⟩ := h
      split at h
      · next q r' hr =>
        obtain ⟨rfl, rfl⟩ := reads_pure.mp h
        exact ⟨p, r, inner.value, q, rfl, ⟨inner, hinner, rfl, hr⟩, rfl⟩
      · exact (reads_error h).elim
    · next t r _ _ =>
      simp only [reads_bind, reads_pure, atom_eq_ok] at h
      obtain ⟨e, he, rfl, rfl⟩ := h
      exact .inl ⟨t.lexeme, t.position, e, rfl, he, rfl⟩
  · intro h
    obtain ⟨l, p, e, rfl, he, rfl⟩ | ⟨name, p, q, r, es, rfl, hargs, rfl⟩ | ⟨p, r, _, q, rfl,
      ⟨inner, hinner, rfl, hr⟩, rfl⟩ := h
    · rw [operand.eq_def]
      have hatom : atom stop ⟨l, p⟩ rest = .ok e := atom_eq_ok.mpr he
      cases he <;> exact reads_bind.mpr ⟨_, hatom, reads_pure.mpr ⟨rfl, rfl⟩⟩
    · rw [operand.eq_def]
      obtain ⟨q', rfl, rfl⟩ | ⟨hs, args, hargs, rfl, rfl⟩ := hargs
      · exact reads_pure.mpr ⟨rfl, rfl⟩
      · cases r with
        | nil => exact reads_bind.mpr ⟨args, hargs, reads_pure.mpr ⟨rfl, rfl⟩⟩
        | cons t r =>
            obtain ⟨l, q'⟩ := t
            cases l
            case closeParen => exact absurd ⟨q', r, rfl⟩ hs
            all_goals exact reads_bind.mpr ⟨args, hargs, reads_pure.mpr ⟨rfl, rfl⟩⟩
    · rw [operand.eq_def]
      simp only [reads_bind]
      refine ⟨inner, hinner, ?_⟩
      split
      · next q' r' hr' =>
        rw [hr] at hr'
        cases hr'
        exact reads_pure.mpr ⟨rfl, rfl⟩
      · next hne => exact absurd hr (hne _ _)

end Grammar

end TreeSift
