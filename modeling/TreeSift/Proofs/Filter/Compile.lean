import TreeSift.Proofs.Filter.Evaluate

/-!
# TreeSift.Proofs.Filter.Compile

A compiled expression does what the expression means.

The computations of a predicate and of the evaluator are equal in whatever lawful monad strategies
act (`Expr.compile_eq`), so they make the same calls in the same order.  The proof goes along the
compilation, with one lemma for each way to put compiled parts together.
-/

namespace TreeSift

theorem bind_eq_ok {ε α β : Type} {x : Except ε α} {f : α → Except ε β} {b : β} :
    (x >>= f) = .ok b ↔ ∃ a, x = .ok a ∧ f a = .ok b := by
  cases x with
  | error e => simp [bind, Except.bind]
  | ok a => simp [bind, Except.bind]

theorem map_eq_ok {ε α β : Type} {x : Except ε α} {f : α → β} {b : β} :
    (do return f (← x)) = .ok b ↔ ∃ a, x = .ok a ∧ f a = b := by
  simp [bind_eq_ok, pure, Except.pure]

variable {m : Type → Type} [Monad m]

namespace Expr

/-! ## compiled parts -/

@[simp] theorem counts_boolean (b : Bool) : counts (some (.boolean b)) = b := rfl

/-- The constant of a comparison is what the evaluator asks the strategy with. -/
theorem ask_of_testFor {c : Context m} {op : Operator} {strategy : Comparison m}
    {constant : Option Value} {test : Value → Value → m Bool}
    (hs : c.comparison? op = some strategy) (h : testFor op strategy constant = .ok test)
    (l r : Value) : c.ask op constant l r = test l r := by
  unfold Context.ask
  rw [hs]
  cases constant with
  | none =>
      injection h with h
      rw [← h]
      rfl
  | some v =>
      simp only [testFor] at h
      simp only [Option.map_some]
      cases hv : strategy.specialize v with
      | unchanged =>
          rw [hv] at h
          injection h with h
          rw [← h]
      | replaced t =>
          rw [hv] at h
          injection h with h
          rw [← h]
      | refused reason =>
          rw [hv] at h
          contradiction

variable {c : Context m} {node : Attributes}

theorem constant_eq_value (v : Value) :
    (Resolver.constant v : Resolver m) node = value c node (.literal v) := by
  cases v <;> rfl

theorem path_eq_value (segments : List String) :
    (Resolver.path (String.ofList (pathText segments)) : Resolver m) node =
      value c node (.path segments) := by
  unfold Resolver.path
  rw [value]
  cases node.resolve (String.ofList (pathText segments)) with
  | none => rfl
  | some v => cases v <;> rfl

theorem bound_eq_value {name : String} {r : Resolver m} (h : bound c name = .ok r) :
    r node = value c node (.parameter name) := by
  unfold bound at h
  rw [value]
  cases hp : c.parameter? name with
  | none =>
      rw [hp] at h
      contradiction
  | some v =>
      rw [hp] at h
      injection h with h
      subst h
      cases v <;> rfl

/-- An operand that has the value of an expression counts as a condition as the expression does. -/
theorem truthy_eq_evaluate {e : Expr} {r : Resolver m} (h : r node = value c node e) :
    Predicate.truthy r node = evaluate c node e := by
  unfold Predicate.truthy evaluate
  rw [h]
  congr 1
  funext v
  cases v <;> rfl

theorem calling_eq_value {name : String} {args : List Expr} {r : Resolver m}
    (h : calling c name args.length (compileOperands c args) = .ok r)
    (hargs : ∀ {rs}, compileOperands c args = .ok rs →
      Resolver.values rs node = values c node args) :
    r node = value c node (.call name args) := by
  unfold calling at h
  rw [value]
  cases hf : c.function? name with
  | none =>
      rw [hf] at h
      contradiction
  | some f =>
      rw [hf] at h
      dsimp only at h
      split at h
      · obtain ⟨rs, hrs, rfl⟩ := map_eq_ok.mp h
        unfold Resolver.call
        exact congrArg (· >>= _) (hargs hrs)
      · contradiction

/-- A condition that is an expression's truth value holds as the expression does. -/
theorem eq_evaluate_of_condition [LawfulMonad m] {e : Expr} {p : Predicate m}
    (h : Resolver.condition p node = value c node e) : p node = evaluate c node e := by
  unfold evaluate
  rw [← h]
  simp [Resolver.condition]

theorem joined_eq_value [LawfulMonad m] {connective : Connective} {es : List Expr}
    {ps : List (Predicate m)}
    (hall : Predicate.all ps node = every c node es)
    (hany : Predicate.any ps node = either c node es) :
    Resolver.condition (.joined connective ps) node = value c node (.logic connective es) := by
  unfold Resolver.condition
  cases connective with
  | and => rw [value, Predicate.joined, hall]
  | or => rw [value, Predicate.joined, hany]
  | not =>
      rw [value, Predicate.joined, Predicate.negate, hall]
      simp

theorem comparing_eq_value [LawfulMonad m] {op : Operator} {left right : Expr} {p : Predicate m}
    (h : comparing c op (constant? c right) (compileOperand c left) (compileOperand c right) =
      .ok p)
    (hleft : ∀ {r}, compileOperand c left = .ok r → r node = value c node left)
    (hright : ∀ {r}, compileOperand c right = .ok r → r node = value c node right) :
    Resolver.condition p node = value c node (.comparison op left right) := by
  unfold comparing at h
  cases hs : c.comparison? op with
  | none =>
      rw [hs] at h
      contradiction
  | some strategy =>
      rw [hs] at h
      obtain ⟨l, hl, h⟩ := bind_eq_ok.mp h
      obtain ⟨r, hr, h⟩ := bind_eq_ok.mp h
      obtain ⟨test, htest, rfl⟩ := map_eq_ok.mp h
      unfold Resolver.condition Predicate.compared
      rw [value, hleft hl, bind_assoc]
      congr 1
      funext v
      cases v with
      | none => simp
      | some v =>
          dsimp only
          rw [hright hr, bind_assoc]
          congr 1
          funext w
          cases w with
          | none => simp
          | some w => simp only [ask_of_testFor hs htest]

/-! ## compiled expressions -/

mutual

/-- A predicate is the evaluation of the expression it was compiled from. -/
theorem compile_eq [LawfulMonad m] : (e : Expr) → {p : Predicate m} →
    compile c e = .ok p → p node = evaluate c node e
  | .logic connective es, p, h => by
      rw [compile] at h
      obtain ⟨ps, hps, rfl⟩ := map_eq_ok.mp h
      obtain ⟨hall, hany⟩ := compileAll_eq es hps
      exact eq_evaluate_of_condition (joined_eq_value hall hany)
  | .comparison op left right, p, h => by
      rw [compile] at h
      exact eq_evaluate_of_condition
        (comparing_eq_value h (compileOperand_eq left) (compileOperand_eq right))
  | .call name args, p, h => by
      rw [compile] at h
      obtain ⟨r, hr, rfl⟩ := map_eq_ok.mp h
      exact truthy_eq_evaluate (calling_eq_value hr (compileOperands_eq args))
  | .path segments, p, h => by
      rw [compile] at h
      injection h with h
      subst h
      exact truthy_eq_evaluate (path_eq_value segments)
  | .literal v, p, h => by
      rw [compile] at h
      injection h with h
      subst h
      exact truthy_eq_evaluate (constant_eq_value v)
  | .parameter name, p, h => by
      rw [compile] at h
      obtain ⟨r, hr, rfl⟩ := map_eq_ok.mp h
      exact truthy_eq_evaluate (bound_eq_value hr)

theorem compileAll_eq [LawfulMonad m] : (es : List Expr) → {ps : List (Predicate m)} →
    compileAll c es = .ok ps →
      Predicate.all ps node = every c node es ∧ Predicate.any ps node = either c node es
  | [], ps, h => by
      rw [compileAll] at h
      injection h with h
      subst h
      exact ⟨rfl, rfl⟩
  | e :: es, ps, h => by
      rw [compileAll] at h
      obtain ⟨p, hp, h⟩ := bind_eq_ok.mp h
      obtain ⟨qs, hqs, rfl⟩ := map_eq_ok.mp h
      obtain ⟨hall, hany⟩ := compileAll_eq es hqs
      have he := compile_eq e hp
      unfold evaluate at he
      rw [Predicate.all, Predicate.any, every, either, he, hall, hany]
      simp

/-- An operand has the value of the expression it was compiled from. -/
theorem compileOperand_eq [LawfulMonad m] : (e : Expr) → {r : Resolver m} →
    compileOperand c e = .ok r → r node = value c node e
  | .logic connective es, r, h => by
      rw [compileOperand] at h
      obtain ⟨ps, hps, rfl⟩ := map_eq_ok.mp h
      obtain ⟨hall, hany⟩ := compileAll_eq es hps
      exact joined_eq_value hall hany
  | .comparison op left right, r, h => by
      rw [compileOperand] at h
      obtain ⟨p, hp, rfl⟩ := map_eq_ok.mp h
      exact comparing_eq_value hp (compileOperand_eq left) (compileOperand_eq right)
  | .call name args, r, h => by
      rw [compileOperand] at h
      exact calling_eq_value h (compileOperands_eq args)
  | .path segments, r, h => by
      rw [compileOperand] at h
      injection h with h
      subst h
      exact path_eq_value segments
  | .literal v, r, h => by
      rw [compileOperand] at h
      injection h with h
      subst h
      exact constant_eq_value v
  | .parameter name, r, h => by
      rw [compileOperand] at h
      exact bound_eq_value h

theorem compileOperands_eq [LawfulMonad m] : (es : List Expr) → {rs : List (Resolver m)} →
    compileOperands c es = .ok rs → Resolver.values rs node = values c node es
  | [], rs, h => by
      rw [compileOperands] at h
      injection h with h
      subst h
      rfl
  | e :: es, rs, h => by
      rw [compileOperands] at h
      obtain ⟨r, hr, h⟩ := bind_eq_ok.mp h
      obtain ⟨qs, hqs, rfl⟩ := map_eq_ok.mp h
      have hhead : r node = value c node e := compileOperand_eq e hr
      have htail : Resolver.values qs node = values c node es := compileOperands_eq es hqs
      rw [values, ← hhead, ← htail]
      rfl

end

end Expr

end TreeSift
