import TreeSift.Filter.Standard
import TreeSift.Proofs.Filter.Compile
import TreeSift.Proofs.Filter.Fault

/-!
# TreeSift.Proofs.Filter.Constant

A constant on the right of an operator is worth the same as a value that is met there.

1. Only `like` and `like not` prepare for a constant.  What a usual strategy makes of one answers as
   the strategy does, and it refuses only what satisfies it with no value on the left
   (`Operator.standsFor_specialize`).
2. So it does not matter to a verdict whether a value is known while compiling or is what a path
   leads to on a node (`Expr.compile_parameter_agrees`).
-/

namespace TreeSift

variable {m : Type → Type} [Monad m]

/-- What is made of a constant answers as it is to be answered with it; if it is refused, the answer
is always no. -/
def Specialization.StandsFor (holds : Value → Bool) : Specialization m → Prop
  | .unchanged => True
  | .replaced test => ∀ left right, test left right = pure (holds left)
  | .refused _ => ∀ left, holds left = false

namespace Operator

theorem standsFor_specializeLike (negate : Bool) (v : Value) :
    (Comparison.specializeLike negate v : Specialization m).StandsFor (likeHolds negate · v) := by
  unfold Comparison.specializeLike
  cases h : Pattern.whole? v.display with
  | none =>
      intro left
      simp only [likeHolds, h]
  | some p =>
      intro left right
      simp only [likeHolds, h]

theorem standsFor_specialize (op : Operator) (v : Value) :
    ((Comparison.standard op : Comparison m).specialize v).StandsFor (op.holds · v) := by
  cases op with
  | like => exact standsFor_specializeLike false v
  | notLike => exact standsFor_specializeLike true v
  | _ => trivial

end Operator

variable {c : Context m} {op : Operator} {v : Value} {node : Attributes}

/-- A usual strategy is asked about two values with one answer, whether or not the right one is
constant. -/
theorem Context.ask_standard (hop : c.comparison? op = some (.standard op))
    {constant : Option Value} (hconstant : ∀ w, constant = some w → w = v) (left : Value) :
    c.ask op constant left v = pure (op.holds left v) := by
  unfold Context.ask
  rw [hop]
  cases constant with
  | none => rfl
  | some w =>
      obtain rfl : w = v := hconstant w rfl
      have hstands := op.standsFor_specialize (m := m) w
      simp only [Option.map_some]
      cases hw : (Comparison.standard op : Comparison m).specialize w with
      | unchanged => rfl
      | refused reason => rfl
      | replaced test =>
          rw [hw] at hstands
          exact hstands left w

namespace Expr

/-- What a comparison by a usual strategy means, if it is known what is on its right. -/
theorem evaluate_standard [LawfulMonad m] (hop : c.comparison? op = some (.standard op))
    (left : Expr) {right : Expr} (hright : value c node right = pure (some v))
    (hconstant : ∀ w, constant? c right = some w → w = v) :
    evaluate c node (.comparison op left right) =
      (fun l => l.any (op.holds · v)) <$> value c node left := by
  rw [evaluate, value, hright, bind_assoc, map_eq_pure_bind]
  congr 1
  funext l
  cases l with
  | none => simp [counts, Value.isTruthy]
  | some l => simp [c.ask_standard hop hconstant]

/-- The verdict on a value that the strategy would refuse as a constant. -/
theorem evaluate_refused [LawfulMonad m] (hop : c.comparison? op = some (.standard op))
    (left : Expr) {right : Expr} (hright : value c node right = pure (some v))
    (hconstant : ∀ w, constant? c right = some w → w = v) {reason : Refusal}
    (hrefused : (Comparison.standard op : Comparison m).specialize v = .refused reason) :
    evaluate c node (.comparison op left right) =
      (fun _ => false) <$> evaluate c node (.comparison op left right) := by
  have hno : ∀ l, op.holds l v = false := by
    have hstands := op.standsFor_specialize (m := m) v
    rwa [hrefused] at hstands
  have hany : (fun l : Option Value => l.any (op.holds · v)) = fun _ => false := by
    funext l
    cases l with
    | none => rfl
    | some l => exact hno l
  rw [evaluate_standard hop left hright hconstant, hany, Functor.map_map]

theorem value_path {segments : List String}
    (h : node.resolve (String.ofList (pathText segments)) = some v) (hv : v ≠ .null) :
    value c node (.path segments) = pure (some v) := by
  rw [value, h]
  cases v with
  | null => contradiction
  | _ => rfl

theorem value_parameter {name : String} (h : c.parameter? name = some v) (hv : v ≠ .null) :
    value c node (.parameter name) = pure (some v) := by
  rw [value, h]
  cases v with
  | null => contradiction
  | _ => rfl

omit [Monad m] in
/-- A comparison with a path has the faults of one with a bound parameter, but for a refusal. -/
theorem faults_comparison_parameter {name : String} (h : c.parameter? name = some v)
    (left : Expr) (segments : List String) :
    faults c (.comparison op left (.parameter name)) =
      faults c (.comparison op left (.path segments)) ++ refusals c op (some v) := by
  have hnone : refusals c op none = [] := by
    unfold refusals
    cases c.comparison? op <;> rfl
  have hbound : parameterFaults c name = [] := parameterFaults_eq_nil.mpr ⟨v, h⟩
  simp only [faults, constant?, h, hnone, hbound, List.append_nil, List.nil_append,
    List.append_assoc]

/-- **It does not matter to a verdict when a value gets known.**  A comparison with a bound parameter
is prepared for the parameter's value while it is compiled.  On a node where a path leads to the
value, it gives the verdict that the comparison with the path gives.  If it alone does not compile,
it has an invalid argument, and the comparison with the path never holds there.  What a strategy
makes of a constant answers as the strategy does, and it refuses one only if it holds with no
value on the left. -/
theorem compile_parameter_agrees [LawfulMonad m] (hop : c.comparison? op = some (.standard op))
    {name : String} (hname : c.parameter? name = some v) (hv : v ≠ .null) {segments : List String}
    (hnode : node.resolve (String.ofList (pathText segments)) = some v) (left : Expr) :
    (∀ p, compile c (.comparison op left (.parameter name)) = .ok p →
      ∃ q, compile c (.comparison op left (.path segments)) = .ok q ∧ p node = q node) ∧
    (∀ error q, compile c (.comparison op left (.parameter name)) = .error error →
      compile c (.comparison op left (.path segments)) = .ok q →
        (∃ reason, error = .invalidArgument op reason) ∧
          q node = (fun _ => false) <$> q node) ∧
    ∀ right, ((Comparison.standard op : Comparison m).specialize right).StandsFor
      (op.holds · right) := by
  have hfaults : faults c (.comparison op left (.parameter name)) =
      faults c (.comparison op left (.path segments)) ++ refusals c op (some v) :=
    faults_comparison_parameter hname left segments
  have hpath : ∀ w, constant? c (.path segments) = some w → w = v := by
    intro w hw
    contradiction
  have hparameter : ∀ w, constant? c (.parameter name) = some w → w = v := by
    intro w hw
    exact Option.some.inj (hw.symm.trans hname)
  refine ⟨?_, ?_, op.standsFor_specialize⟩
  · intro p hp
    have hnone := (reports_compile _).exists_ok_iff.mp ⟨p, hp⟩
    rw [hfaults] at hnone
    obtain ⟨q, hq⟩ := (reports_compile _).exists_ok_iff.mpr (List.append_eq_nil_iff.mp hnone).1
    refine ⟨q, hq, ?_⟩
    rw [compile_eq _ hp, compile_eq _ hq,
      evaluate_standard hop left (value_parameter hname hv) hparameter,
      evaluate_standard hop left (value_path hnode hv) hpath]
  · intro error q herror hq
    have hmem := List.mem_of_mem_head? ((reports_compile _ error).mp herror)
    have hnone := (reports_compile _).exists_ok_iff.mp ⟨q, hq⟩
    rw [hfaults, hnone, List.nil_append] at hmem
    obtain ⟨strategy, w, reason, hstrategy, hw, hrefused, rfl⟩ := mem_refusals.mp hmem
    obtain rfl := Option.some.inj (hstrategy.symm.trans hop)
    obtain rfl := Option.some.inj hw
    refine ⟨⟨reason, rfl⟩, ?_⟩
    rw [compile_eq _ hq]
    exact evaluate_refused hop left (value_path hnode hv) hpath hrefused

/-- A node on which `a` leads to a text and everything else to another one. -/
def twoTexts (a other : String) : Attributes :=
  ⟨"node", "/node", fun path => some (.text (if path = "a" then a else other))⟩

/-- `[a] like not $p` and `[a] like not [q]`, for a pattern and for a text that is none. -/
theorem compile_parameter_agrees_notLike :
    let c (text : String) := (Context.standard : Context Id).bind "p" (.text text)
    let known : Expr := .comparison .notLike (.path ["a"]) (.parameter "p")
    let met : Expr := .comparison .notLike (.path ["a"]) (.path ["q"])
    (∃ p q, compile (c "x+") known = .ok p ∧ compile (c "x+") met = .ok q ∧
      q (twoTexts "y" "x+") = true ∧ p (twoTexts "y" "x+") = true) ∧
    ∃ error q, compile (c "(") known = .error error ∧ compile (c "(") met = .ok q ∧
      q (twoTexts "y" "(") = false := by
  intro c known met
  have hop (text : String) : (c text).comparison? .notLike = some (.standard .notLike) := rfl
  have hname (text : String) : (c text).parameter? "p" = some (.text text) := rfl
  have hnode (text : String) : (twoTexts "y" text).resolve (String.ofList (pathText ["q"])) =
      some (.text text) := rfl
  refine ⟨?_, ?_⟩
  · obtain ⟨p, hp⟩ : ∃ p, compile (c "x+") known = .ok p := ⟨_, rfl⟩
    obtain ⟨q, hq, hpq⟩ := (compile_parameter_agrees (hop "x+") (hname _) (by simp) (hnode _)
      (.path ["a"])).1 p hp
    have hyes : q (twoTexts "y" "x+") = true := by
      have hholds : Operator.notLike.holds (.text "y") (.text "x+") = true := by decide +kernel
      rw [compile_eq _ hq]
      exact hholds
    exact ⟨p, q, hp, hq, hyes, hpq.trans hyes⟩
  · obtain ⟨error, herror⟩ : ∃ error, compile (c "(") known = .error error := ⟨_, rfl⟩
    obtain ⟨q, hq⟩ : ∃ q, compile (c "(") met = .ok q := ⟨_, rfl⟩
    exact ⟨error, q, herror, hq, ((compile_parameter_agrees (hop "(") (hname _) (by simp) (hnode _)
      (.path ["a"])).2.1 error q herror hq).2⟩

end Expr

end TreeSift
