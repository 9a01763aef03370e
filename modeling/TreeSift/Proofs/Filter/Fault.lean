import Mathlib.Data.List.Basic
import TreeSift.Proofs.Expr.Parts
import TreeSift.Proofs.Filter.Compile

/-!
# TreeSift.Proofs.Filter.Fault

Which expressions compile, and what is wrong with the others.

1. What an expression needs, each of its parts needs by itself (`Context.Supports`): an operator a
   strategy, which must not refuse a constant on its right; a call a function that accepts so many
   arguments; a parameter a value.
2. `Expr.faults` is the list of everything that is wrong.  Children and arguments come from left to
   right; of a comparison the operator is first, then come the left and the right operand, and the
   refusal of a constant is last; of a call the name is first, then comes the number of arguments.
   The list goes on after a fault.
3. Compiling does not go on.  It fails with the first fault of the list, and succeeds if the list is
   empty (`Expr.compile_reports_first_fault`).
-/

namespace TreeSift

variable {m : Type → Type}

namespace Expr

/-! ## faults -/

/-- An operator without a strategy. -/
def operatorFaults (c : Context m) (op : Operator) : List FilterError :=
  match c.comparison? op with
  | none => [.unknownOperator op]
  | some _ => []

/-- A constant that the strategy of an operator refuses on its right. -/
def refusals (c : Context m) (op : Operator) (constant : Option Value) : List FilterError :=
  match c.comparison? op, constant with
  | some strategy, some v =>
    match strategy.specialize v with
    | .refused reason => [.invalidArgument op reason]
    | _ => []
  | _, _ => []

/-- A name without a function, or with one that does not accept so many arguments. -/
def callFaults (c : Context m) (name : String) (given : Nat) : List FilterError :=
  match c.function? name with
  | none => [.unknownFunction name]
  | some f => if f.arity.accepts given then [] else [.wrongArity name f.arity given]

/-- A parameter without a value. -/
def parameterFaults (c : Context m) (name : String) : List FilterError :=
  match c.parameter? name with
  | none => [.unboundParameter name]
  | some _ => []

mutual

/-- Everything that is wrong with an expression, in order. -/
def faults (c : Context m) : Expr → List FilterError
  | logic _ children => faultsAll c children
  | comparison op left right =>
    operatorFaults c op ++ (faults c left ++ (faults c right ++ refusals c op (constant? c right)))
  | call name args => callFaults c name args.length ++ faultsAll c args
  | path _ => []
  | literal _ => []
  | parameter name => parameterFaults c name

/-- Everything that is wrong with several expressions, in order. -/
def faultsAll (c : Context m) : List Expr → List FilterError
  | [] => []
  | e :: es => faults c e ++ faultsAll c es

end

/-- What is wrong with an expression apart from its operands. -/
def ownFaults (c : Context m) : Expr → List FilterError
  | comparison op _ right => operatorFaults c op ++ refusals c op (constant? c right)
  | call name args => callFaults c name args.length
  | parameter name => parameterFaults c name
  | logic _ _ => []
  | path _ => []
  | literal _ => []

end Expr

open TreeSift.Expr

/-- Whether a context has what an expression needs apart from its operands. -/
def Context.Supports (c : Context m) : Expr → Prop
  | .comparison op _ right => ∃ strategy, c.comparison? op = some strategy ∧
      ∀ v, constant? c right = some v → ∀ reason, strategy.specialize v ≠ .refused reason
  | .call name args => ∃ f, c.function? name = some f ∧ f.arity.accepts args.length = true
  | .parameter name => ∃ v, c.parameter? name = some v
  | _ => True

namespace Expr

variable {c : Context m}

/-! ## faults are those of the parts -/

mutual

/-- A fault of an expression is one of its own or one of its operands'. -/
theorem mem_faults_iff {error : FilterError} : (e : Expr) →
    (error ∈ faults c e ↔ ∃ s ∈ parts e, error ∈ ownFaults c s)
  | .logic connective es => by
      rw [faults, parts, mem_faultsAll_iff es, List.exists_mem_cons_iff, ownFaults]
      simp
  | .comparison op left right => by
      rw [faults, parts, List.exists_mem_cons_iff, ownFaults]
      simp only [List.mem_append, mem_faults_iff left, mem_faults_iff right, or_and_right,
        exists_or, or_assoc]
      -- the refusal comes after the operands, and is one of the comparison's own faults
      refine or_congr_right ?_
      rw [← or_assoc, or_comm]
  | .call name args => by
      rw [faults, parts, List.mem_append, mem_faultsAll_iff args, List.exists_mem_cons_iff, ownFaults]
  | .path segments => by simp [faults, parts, ownFaults]
  | .literal v => by simp [faults, parts, ownFaults]
  | .parameter name => by simp [faults, parts, ownFaults]

theorem mem_faultsAll_iff {error : FilterError} : (es : List Expr) →
    (error ∈ faultsAll c es ↔ ∃ s ∈ partsAll es, error ∈ ownFaults c s)
  | [] => by simp [faultsAll, partsAll]
  | e :: es => by
      rw [faultsAll, partsAll, List.mem_append, mem_faults_iff e, mem_faultsAll_iff es]
      simp only [List.mem_append, or_and_right, exists_or]

end

theorem operatorFaults_eq_nil {op : Operator} :
    operatorFaults c op = [] ↔ ∃ strategy, c.comparison? op = some strategy := by
  unfold operatorFaults
  cases c.comparison? op <;> simp

theorem mem_refusals {op : Operator} {constant : Option Value} {error : FilterError} :
    error ∈ refusals c op constant ↔ ∃ strategy v reason, c.comparison? op = some strategy ∧
      constant = some v ∧ strategy.specialize v = .refused reason ∧
        error = .invalidArgument op reason := by
  unfold refusals
  cases c.comparison? op with
  | none => simp
  | some strategy =>
      cases constant with
      | none => simp
      | some v => cases hv : strategy.specialize v <;> simp [hv]

theorem callFaults_eq_nil {name : String} {given : Nat} :
    callFaults c name given = [] ↔
      ∃ f, c.function? name = some f ∧ f.arity.accepts given = true := by
  unfold callFaults
  cases c.function? name <;> simp

theorem parameterFaults_eq_nil {name : String} :
    parameterFaults c name = [] ↔ ∃ v, c.parameter? name = some v := by
  unfold parameterFaults
  cases c.parameter? name <;> simp

/-- A part is supported if nothing is wrong with it. -/
theorem supports_iff {e : Expr} : c.Supports e ↔ ownFaults c e = [] := by
  cases e with
  | comparison op left right =>
      rw [ownFaults, List.append_eq_nil_iff, operatorFaults_eq_nil]
      constructor
      · intro h
        obtain ⟨strategy, hs, hv⟩ := h
        refine ⟨⟨strategy, hs⟩, List.eq_nil_iff_forall_not_mem.mpr fun error herror => ?_⟩
        obtain ⟨strategy', v, reason, hs', hc, hr, -⟩ := mem_refusals.mp herror
        obtain rfl := Option.some.inj (hs.symm.trans hs')
        exact hv v hc reason hr
      · intro h
        obtain ⟨⟨strategy, hs⟩, hnone⟩ := h
        refine ⟨strategy, hs, fun v hc reason hr => ?_⟩
        exact List.eq_nil_iff_forall_not_mem.mp hnone _
          (mem_refusals.mpr ⟨strategy, v, reason, hs, hc, hr, rfl⟩)
  | call name args => exact callFaults_eq_nil.symm
  | parameter name => exact parameterFaults_eq_nil.symm
  | logic connective children => exact iff_of_true trivial rfl
  | path segments => exact iff_of_true trivial rfl
  | literal v => exact iff_of_true trivial rfl

theorem faults_eq_nil_iff {e : Expr} : faults c e = [] ↔ ∀ s ∈ parts e, c.Supports s := by
  simp only [List.eq_nil_iff_forall_not_mem, mem_faults_iff, supports_iff, not_exists, not_and]
  exact ⟨fun h s hs error => h error s hs, fun h error s hs => h s hs error⟩

/-! ## compiling reports the first fault -/

/-- A computation fails with the first of some errors, and has a result if there are none. -/
def Reports {α : Type} (x : Except FilterError α) (errors : List FilterError) : Prop :=
  ∀ error, x = .error error ↔ errors.head? = some error

namespace Reports

variable {α β : Type} {x : Except FilterError α} {errors : List FilterError}

theorem ok (a : α) : Reports (.ok a) [] := by simp [Reports]

theorem error (e : FilterError) (errors : List FilterError) :
    Reports (.error e : Except FilterError α) (e :: errors) := by simp [Reports]

theorem exists_ok_iff (h : Reports x errors) : (∃ a, x = .ok a) ↔ errors = [] := by
  cases x with
  | ok a =>
      cases errors with
      | nil => simp
      | cons e es => exact absurd ((h e).mpr rfl) (by simp)
  | error e =>
      have he := (h e).mp rfl
      cases errors with
      | nil => simp at he
      | cons e es => simp

theorem bind {f : α → Except FilterError β} {more : List FilterError} (h : Reports x errors)
    (hf : ∀ a, Reports (f a) more) : Reports (x >>= f) (errors ++ more) := by
  cases x with
  | ok a =>
      obtain rfl := h.exists_ok_iff.mp ⟨a, rfl⟩
      exact hf a
  | error e =>
      cases errors with
      | nil => exact absurd (h.exists_ok_iff.mpr rfl) (by simp)
      | cons e' es =>
          obtain rfl := Option.some.inj ((h e).mp rfl)
          exact error _ _

theorem map {f : α → β} (h : Reports x errors) : Reports (do return f (← x)) errors := by
  have hbind := h.bind fun a => ok (f a)
  rwa [List.append_nil] at hbind

end Reports

theorem reports_testFor {op : Operator} {strategy : Comparison m}
    (hs : c.comparison? op = some strategy) (constant : Option Value) :
    Reports (testFor op strategy constant) (refusals c op constant) := by
  unfold refusals testFor
  rw [hs]
  cases constant with
  | none => exact .ok _
  | some v =>
      dsimp only
      cases strategy.specialize v with
      | unchanged => exact .ok _
      | replaced test => exact .ok _
      | refused reason => exact .error _ _

variable [Monad m]

theorem reports_comparing {op : Operator} {constant : Option Value}
    {left right : Except FilterError (Resolver m)} {errors errors' : List FilterError}
    (hl : Reports left errors) (hr : Reports right errors') :
    Reports (comparing c op constant left right)
      (operatorFaults c op ++ (errors ++ (errors' ++ refusals c op constant))) := by
  unfold comparing operatorFaults
  cases hs : c.comparison? op with
  | none => exact .error _ _
  | some strategy => exact hl.bind fun l => hr.bind fun r => (reports_testFor hs constant).map

theorem reports_calling {name : String} {given : Nat}
    {args : Except FilterError (List (Resolver m))} {errors : List FilterError}
    (h : Reports args errors) :
    Reports (calling c name given args) (callFaults c name given ++ errors) := by
  unfold calling callFaults
  cases c.function? name with
  | none => exact .error _ _
  | some f =>
      dsimp only
      split
      · exact h.map
      · exact .error _ _

theorem reports_bound (name : String) : Reports (bound c name) (parameterFaults c name) := by
  unfold bound parameterFaults
  cases c.parameter? name with
  | none => exact .error _ _
  | some v => exact .ok _

mutual

theorem reports_compile : (e : Expr) → Reports (compile c e) (faults c e)
  | .logic connective es => by
      rw [compile, faults]
      exact (reports_compileAll es).map
  | .comparison op left right => by
      rw [compile, faults]
      exact reports_comparing (reports_compileOperand left) (reports_compileOperand right)
  | .call name args => by
      rw [compile, faults]
      exact (reports_calling (reports_compileOperands args)).map
  | .path segments => by
      rw [compile, faults]
      exact .ok _
  | .literal v => by
      rw [compile, faults]
      exact .ok _
  | .parameter name => by
      rw [compile, faults]
      exact (reports_bound name).map

theorem reports_compileAll : (es : List Expr) → Reports (compileAll c es) (faultsAll c es)
  | [] => by
      rw [compileAll, faultsAll]
      exact .ok _
  | e :: es => by
      rw [compileAll, faultsAll]
      exact (reports_compile e).bind fun p => (reports_compileAll es).map

theorem reports_compileOperand : (e : Expr) → Reports (compileOperand c e) (faults c e)
  | .logic connective es => by
      rw [compileOperand, faults]
      exact (reports_compileAll es).map
  | .comparison op left right => by
      rw [compileOperand, faults]
      exact (reports_comparing (reports_compileOperand left) (reports_compileOperand right)).map
  | .call name args => by
      rw [compileOperand, faults]
      exact reports_calling (reports_compileOperands args)
  | .path segments => by
      rw [compileOperand, faults]
      exact .ok _
  | .literal v => by
      rw [compileOperand, faults]
      exact .ok _
  | .parameter name => by
      rw [compileOperand, faults]
      exact reports_bound name

theorem reports_compileOperands : (es : List Expr) →
    Reports (compileOperands c es) (faultsAll c es)
  | [] => by
      rw [compileOperands, faultsAll]
      exact .ok _
  | e :: es => by
      rw [compileOperands, faultsAll]
      exact (reports_compileOperand e).bind fun r => (reports_compileOperands es).map

end

theorem exists_compile_iff (e : Expr) :
    (∃ p, compile c e = .ok p) ↔ ∀ s ∈ parts e, c.Supports s := by
  rw [(reports_compile e).exists_ok_iff, faults_eq_nil_iff]

/-- Of `shout($p) like $q` every name is unknown to the empty context, and the operator comes
first. -/
example : faults (Context.empty : Context Id)
    (.comparison .like (.call "shout" [.parameter "p"]) (.parameter "q")) =
    [.unknownOperator .like, .unknownFunction "shout", .unboundParameter "p",
      .unboundParameter "q"] := rfl

end Expr

end TreeSift
