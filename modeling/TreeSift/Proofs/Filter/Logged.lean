import TreeSift.Filter.Standard
import TreeSift.Proofs.Filter.Compile

/-!
# TreeSift.Proofs.Filter.Logged

The calls that a filter makes.

`Context.logged` is a context whose strategies and functions write down that they are called.  It
compiles the same expressions (`Expr.compile_logged`), and what its predicates do is what those of
the plain context do, once the list is forgotten (`Expr.forgets_evaluate`).
-/

namespace TreeSift

/-- A call that an expression makes. -/
inductive Call where
  /-- The strategy of an operator was asked about two values. -/
  | comparison (op : Operator) (left right : Value)
  /-- A function was called on a node with arguments. -/
  | function (name : String) (node : Attributes) (args : List Value)

/-- Computations that keep a list of calls, the first one first. -/
abbrev Logged (m : Type → Type) := StateT (List Call) m

variable {m : Type → Type} [Monad m]

/-- A computation that puts one call on the list. -/
def Call.mark {α : Type} (call : Call) (x : m α) : Logged m α := fun log => do
  return (← x, log ++ [call])

/-- The same strategy, watched. -/
def Comparison.logged (op : Operator) (s : Comparison m) : Comparison (Logged m) where
  test l r := (Call.comparison op l r).mark (s.test l r)
  specialize v :=
    match s.specialize v with
    | .unchanged => .unchanged
    | .replaced test => .replaced fun l r => (Call.comparison op l r).mark (test l r)
    | .refused reason => .refused reason

/-- The same function, watched. -/
def Function.logged (name : String) (f : Function m) : Function (Logged m) where
  arity := f.arity
  call node args := (Call.function name node args).mark (f.call node args)

/-- A registry with every entry replaced by one of another kind. -/
def Registry.mapEntries {κ α β : Type} (f : κ → α → β) (r : Registry κ α) : Registry κ β :=
  ⟨r.entries.map fun e => (e.1, f e.1 e.2)⟩

/-- The same context, with its strategies and functions watched. -/
def Context.logged (c : Context m) : Context (Logged m) where
  parameters := c.parameters
  comparisons := c.comparisons.mapEntries Comparison.logged
  functions := c.functions.mapEntries Function.logged

theorem Registry.get?_mapEntries {κ α β : Type} [DecidableEq κ] (f : κ → α → β)
    (r : Registry κ α) (k : κ) : (r.mapEntries f).get? k = (r.get? k).map (f k) := by
  obtain ⟨es⟩ := r
  simp only [Registry.get?, Registry.mapEntries]
  induction es with
  | nil => rfl
  | cons e es ih =>
      obtain ⟨k', a⟩ := e
      by_cases h : k' = k
      · subst h
        simp [find?]
      · simpa [find?, h] using ih

variable {c : Context m} {node : Attributes}

@[simp] theorem Context.parameter?_logged (name : String) :
    c.logged.parameter? name = c.parameter? name := rfl

@[simp] theorem Context.comparison?_logged (op : Operator) :
    c.logged.comparison? op = (c.comparison? op).map (Comparison.logged op) :=
  Registry.get?_mapEntries _ _ _

@[simp] theorem Context.function?_logged (name : String) :
    c.logged.function? name = (c.function? name).map (Function.logged name) :=
  Registry.get?_mapEntries _ _ _

namespace Expr

@[simp] theorem constant?_logged (e : Expr) : constant? c.logged e = constant? c e := by
  cases e <;> rfl

/-! ## a watched context compiles the same expressions -/

theorem testFor_logged {op : Operator} {s : Comparison m} {constant : Option Value}
    {test : Value → Value → m Bool} (h : testFor op s constant = .ok test) :
    ∃ test', testFor op (s.logged op) constant = .ok test' := by
  cases constant with
  | none => exact ⟨_, rfl⟩
  | some v =>
      simp only [testFor, Comparison.logged] at h ⊢
      cases hv : s.specialize v with
      | unchanged => exact ⟨_, rfl⟩
      | replaced t => exact ⟨_, rfl⟩
      | refused reason =>
          rw [hv] at h
          contradiction

theorem comparing_logged {op : Operator} {constant : Option Value}
    {left right : Except FilterError (Resolver m)}
    {left' right' : Except FilterError (Resolver (Logged m))} {p : Predicate m}
    (h : comparing c op constant left right = .ok p)
    (hleft : ∀ {r}, left = .ok r → ∃ r', left' = .ok r')
    (hright : ∀ {r}, right = .ok r → ∃ r', right' = .ok r') :
    ∃ q, comparing c.logged op constant left' right' = .ok q := by
  unfold comparing at h ⊢
  rw [Context.comparison?_logged]
  cases hs : c.comparison? op with
  | none =>
      rw [hs] at h
      contradiction
  | some strategy =>
      rw [hs] at h
      obtain ⟨l, hl, h⟩ := bind_eq_ok.mp h
      obtain ⟨r, hr, h⟩ := bind_eq_ok.mp h
      obtain ⟨test, htest, -⟩ := map_eq_ok.mp h
      obtain ⟨l', hl'⟩ := hleft hl
      obtain ⟨r', hr'⟩ := hright hr
      obtain ⟨test', htest'⟩ := testFor_logged htest
      exact ⟨_, bind_eq_ok.mpr ⟨l', hl', bind_eq_ok.mpr ⟨r', hr', map_eq_ok.mpr ⟨_, htest', rfl⟩⟩⟩⟩

theorem calling_logged {name : String} {given : Nat} {args : Except FilterError (List (Resolver m))}
    {args' : Except FilterError (List (Resolver (Logged m)))} {r : Resolver m}
    (h : calling c name given args = .ok r)
    (hargs : ∀ {rs}, args = .ok rs → ∃ rs', args' = .ok rs') :
    ∃ r', calling c.logged name given args' = .ok r' := by
  unfold calling at h ⊢
  rw [Context.function?_logged]
  cases hf : c.function? name with
  | none =>
      rw [hf] at h
      contradiction
  | some f =>
      rw [hf] at h
      dsimp only [Option.map_some, Function.logged] at h ⊢
      split at h
      · next ha =>
        obtain ⟨rs, hrs, -⟩ := map_eq_ok.mp h
        obtain ⟨rs', hrs'⟩ := hargs hrs
        rw [if_pos ha]
        exact ⟨_, map_eq_ok.mpr ⟨rs', hrs', rfl⟩⟩
      · contradiction

theorem bound_logged {name : String} {r : Resolver m} (h : bound c name = .ok r) :
    ∃ r', bound c.logged name = .ok r' := by
  unfold bound at h ⊢
  rw [Context.parameter?_logged]
  cases hp : c.parameter? name with
  | none =>
      rw [hp] at h
      contradiction
  | some v => exact ⟨_, rfl⟩

mutual

/-- A watched context compiles every expression that the plain one does. -/
theorem compile_logged : (e : Expr) → {p : Predicate m} → compile c e = .ok p →
    ∃ q, compile c.logged e = .ok q
  | .logic connective es, p, h => by
      rw [compile] at h ⊢
      obtain ⟨ps, hps, -⟩ := map_eq_ok.mp h
      obtain ⟨qs, hqs⟩ := compileAll_logged es hps
      exact ⟨_, map_eq_ok.mpr ⟨qs, hqs, rfl⟩⟩
  | .comparison op left right, p, h => by
      rw [compile] at h ⊢
      rw [constant?_logged]
      exact comparing_logged h (compileOperand_logged left) (compileOperand_logged right)
  | .call name args, p, h => by
      rw [compile] at h ⊢
      obtain ⟨r, hr, -⟩ := map_eq_ok.mp h
      obtain ⟨r', hr'⟩ := calling_logged hr (compileOperands_logged args)
      exact ⟨_, map_eq_ok.mpr ⟨r', hr', rfl⟩⟩
  | .path segments, p, h => ⟨_, by rw [compile]⟩
  | .literal v, p, h => ⟨_, by rw [compile]⟩
  | .parameter name, p, h => by
      rw [compile] at h ⊢
      obtain ⟨r, hr, -⟩ := map_eq_ok.mp h
      obtain ⟨r', hr'⟩ := bound_logged hr
      exact ⟨_, map_eq_ok.mpr ⟨r', hr', rfl⟩⟩

theorem compileAll_logged : (es : List Expr) → {ps : List (Predicate m)} →
    compileAll c es = .ok ps → ∃ qs, compileAll c.logged es = .ok qs
  | [], ps, h => ⟨_, by rw [compileAll]⟩
  | e :: es, ps, h => by
      rw [compileAll] at h ⊢
      obtain ⟨p, hp, h⟩ := bind_eq_ok.mp h
      obtain ⟨rs, hrs, -⟩ := map_eq_ok.mp h
      obtain ⟨q, hq⟩ := compile_logged e hp
      obtain ⟨qs, hqs⟩ := compileAll_logged es hrs
      exact ⟨_, bind_eq_ok.mpr ⟨q, hq, map_eq_ok.mpr ⟨qs, hqs, rfl⟩⟩⟩

theorem compileOperand_logged : (e : Expr) → {r : Resolver m} → compileOperand c e = .ok r →
    ∃ r', compileOperand c.logged e = .ok r'
  | .logic connective es, r, h => by
      rw [compileOperand] at h ⊢
      obtain ⟨ps, hps, -⟩ := map_eq_ok.mp h
      obtain ⟨qs, hqs⟩ := compileAll_logged es hps
      exact ⟨_, map_eq_ok.mpr ⟨qs, hqs, rfl⟩⟩
  | .comparison op left right, r, h => by
      rw [compileOperand] at h ⊢
      obtain ⟨p, hp, -⟩ := map_eq_ok.mp h
      rw [constant?_logged]
      obtain ⟨q, hq⟩ :=
        comparing_logged hp (compileOperand_logged left) (compileOperand_logged right)
      exact ⟨_, map_eq_ok.mpr ⟨q, hq, rfl⟩⟩
  | .call name args, r, h => by
      rw [compileOperand] at h ⊢
      exact calling_logged h (compileOperands_logged args)
  | .path segments, r, h => ⟨_, by rw [compileOperand]⟩
  | .literal v, r, h => ⟨_, by rw [compileOperand]⟩
  | .parameter name, r, h => by
      rw [compileOperand] at h ⊢
      exact bound_logged h

theorem compileOperands_logged : (es : List Expr) → {rs : List (Resolver m)} →
    compileOperands c es = .ok rs → ∃ rs', compileOperands c.logged es = .ok rs'
  | [], rs, h => ⟨_, by rw [compileOperands]⟩
  | e :: es, rs, h => by
      rw [compileOperands] at h ⊢
      obtain ⟨r, hr, h⟩ := bind_eq_ok.mp h
      obtain ⟨qs, hqs, -⟩ := map_eq_ok.mp h
      obtain ⟨r', hr'⟩ := compileOperand_logged e hr
      obtain ⟨qs', hqs'⟩ := compileOperands_logged es hqs
      exact ⟨_, bind_eq_ok.mpr ⟨r', hr', map_eq_ok.mpr ⟨qs', hqs', rfl⟩⟩⟩

end

end Expr

/-! ## forgetting the calls -/

/-- Without the list, the one computation is the other. -/
def Forgets {α : Type} (x : Logged m α) (y : m α) : Prop := ∀ log, Prod.fst <$> x.run log = y

section
variable [LawfulMonad m]

theorem forgets_pure {α : Type} (a : α) : Forgets (pure a : Logged m α) (pure a) := by
  intro log
  simp

theorem Forgets.bind {α β : Type} {x : Logged m α} {y : m α} {f : α → Logged m β} {g : α → m β}
    (hx : Forgets x y) (hf : ∀ a, Forgets (f a) (g a)) : Forgets (x >>= f) (y >>= g) := by
  intro log
  rw [← hx log, StateT.run_bind, map_bind, bind_map_left]
  congr 1
  funext p
  exact hf p.1 p.2

theorem forgets_mark {α : Type} (call : Call) (x : m α) : Forgets (call.mark x) x := by
  intro log
  show Prod.fst <$> (x >>= fun a => pure (a, log ++ [call])) = x
  simp

theorem forgets_ask (op : Operator) (constant : Option Value) (l r : Value) :
    Forgets (c.logged.ask op constant l r) (c.ask op constant l r) := by
  unfold Context.ask
  rw [Context.comparison?_logged]
  cases c.comparison? op with
  | none => exact forgets_pure false
  | some s =>
      cases constant with
      | none => exact forgets_mark _ _
      | some v =>
          simp only [Option.map_some, Comparison.logged]
          cases s.specialize v with
          | unchanged => exact forgets_mark _ _
          | replaced test => exact forgets_mark _ _
          | refused reason => exact forgets_mark _ _

namespace Expr

mutual

/-- Watching does not change values. -/
theorem forgets_value : (e : Expr) → Forgets (value c.logged node e) (value c node e)
  | .logic .and es => by
      rw [value, value]
      exact (forgets_every es).bind fun b => forgets_pure _
  | .logic .or es => by
      rw [value, value]
      exact (forgets_either es).bind fun b => forgets_pure _
  | .logic .not es => by
      rw [value, value]
      exact (forgets_every es).bind fun b => forgets_pure _
  | .comparison op left right => by
      rw [value, value, constant?_logged]
      refine (forgets_value left).bind fun l => ?_
      cases l with
      | none => exact forgets_pure _
      | some l =>
          refine (forgets_value right).bind fun r => ?_
          cases r with
          | none => exact forgets_pure _
          | some r => exact (forgets_ask _ _ _ _).bind fun b => forgets_pure _
  | .call name args => by
      rw [value, value, Context.function?_logged]
      cases c.function? name with
      | none => exact forgets_pure _
      | some f =>
          refine (forgets_values args).bind fun vs => ?_
          cases vs with
          | none => exact forgets_pure _
          | some vs => exact forgets_mark _ _
  | .path segments => by
      rw [value, value]
      cases node.resolve (String.ofList (pathText segments)) with
      | none => exact forgets_pure _
      | some v => cases v <;> exact forgets_pure _
  | .literal v => by cases v <;> exact forgets_pure _
  | .parameter name => by
      rw [value, value, Context.parameter?_logged]
      cases c.parameter? name with
      | none => exact forgets_pure _
      | some v => cases v <;> exact forgets_pure _

theorem forgets_every : (es : List Expr) → Forgets (every c.logged node es) (every c node es)
  | [] => forgets_pure _
  | e :: es => by
      rw [every, every]
      refine (forgets_value e).bind fun v => ?_
      cases counts v with
      | false => exact forgets_pure _
      | true => exact forgets_every es

theorem forgets_either : (es : List Expr) → Forgets (either c.logged node es) (either c node es)
  | [] => forgets_pure _
  | e :: es => by
      rw [either, either]
      refine (forgets_value e).bind fun v => ?_
      cases counts v with
      | false => exact forgets_either es
      | true => exact forgets_pure _

theorem forgets_values : (es : List Expr) → Forgets (values c.logged node es) (values c node es)
  | [] => forgets_pure _
  | e :: es => by
      rw [values, values]
      refine (forgets_value e).bind fun v => ?_
      cases v with
      | none => exact forgets_pure _
      | some v =>
          refine (forgets_values es).bind fun vs => ?_
          cases vs with
          | none => exact forgets_pure _
          | some vs => exact forgets_pure _

end

/-- Watching does not change verdicts. -/
theorem forgets_evaluate (e : Expr) : Forgets (evaluate c.logged node e) (evaluate c node e) :=
  (forgets_value e).bind fun _ => forgets_pure _

/-- **A compiled predicate agrees with the evaluator**, in verdict and in calls.  Whenever an
expression compiles, its predicate is the evaluation of the expression on every node.  It compiles
against the watched context too; the predicate from there gives the same verdict, and the list of
calls it leaves is the evaluator's. -/
theorem compile_agrees {e : Expr} {p : Predicate m} (h : compile c e = .ok p) :
    (∀ node, p node = evaluate c node e) ∧
    ∃ q, compile c.logged e = .ok q ∧ ∀ node log,
      Prod.fst <$> (q node).run log = p node ∧
      (q node).run log = (evaluate c.logged node e).run log := by
  obtain ⟨q, hq⟩ := compile_logged e h
  refine ⟨fun node => compile_eq e h, q, hq, fun node log => ?_⟩
  have hqe : q node = evaluate c.logged node e := compile_eq e hq
  rw [hqe, compile_eq e h]
  exact ⟨forgets_evaluate e log, rfl⟩

/-- `[a] == 1 and [b] == 1 and [a] == 1`. -/
def threeChecks : Expr :=
  let check (name : String) : Expr := .comparison .eq (.path [name]) (.literal (.long 1))
  .logic .and [check "a", check "b", check "a"]

/-- A node on which `a` leads to 1 and nothing else leads anywhere. -/
def onlyA : Attributes :=
  ⟨"node", "/node", fun path => if path = "a" then some (.long 1) else none⟩

/-- `[b]` has no value, so `==` is asked about `[a]` alone, and once. -/
theorem compile_agrees_threeChecks :
    ∃ p q, compile (Context.standard : Context Id) threeChecks = .ok p ∧
      compile (Context.standard : Context Id).logged threeChecks = .ok q ∧ p onlyA = false ∧
      (q onlyA).run [] = (false, [.comparison .eq (.long 1) (.long 1)]) := by
  obtain ⟨p, hp⟩ : ∃ p, compile (Context.standard : Context Id) threeChecks = .ok p := ⟨_, rfl⟩
  obtain ⟨heval, q, hq, hlog⟩ := compile_agrees hp
  refine ⟨p, q, hp, hq, ?_, ?_⟩
  · rw [heval]
    rfl
  · rw [(hlog onlyA []).2]
    rfl

end Expr

end

end TreeSift
