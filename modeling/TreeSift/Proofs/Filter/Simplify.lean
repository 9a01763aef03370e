import TreeSift.Proofs.Expr.Flat
import TreeSift.Proofs.Filter.Logged

/-!
# TreeSift.Proofs.Filter.Simplify

Flattening an expression does not change what it compiles to.

A join of a list of conditions is the join of its two parts, wherever the list is cut
(`Predicate.joined_append`), because a part that has decided the matter ends the asking whether or
not it is a join of its own.  So a join that gives its children up to the one around it leaves the
same predicate, and as children keep their order, it also leaves the same first fault.
-/

namespace TreeSift

variable {m : Type → Type} [Monad m]

namespace Predicate

section
variable [LawfulMonad m]

/-! ## cutting a join in two -/

/-- Giving an answer again changes nothing. -/
theorem bind_answer (x : m Bool) : (do if ← x then pure true else pure false) = x := by
  have answer : (fun b => if b = true then pure true else pure false) = (pure : Bool → m Bool) := by
    funext b
    cases b <;> rfl
  rw [answer, bind_pure]

theorem all_append (ps qs : List (Predicate m)) (node : Attributes) :
    all (ps ++ qs) node = (do if ← all ps node then all qs node else pure false) := by
  induction ps with
  | nil => simp [all]
  | cons p ps ih =>
      simp only [List.cons_append, all, ih, bind_assoc]
      congr 1
      funext b
      cases b <;> simp

theorem any_append (ps qs : List (Predicate m)) (node : Attributes) :
    any (ps ++ qs) node = (do if ← any ps node then pure true else any qs node) := by
  induction ps with
  | nil => simp [any]
  | cons p ps ih =>
      simp only [List.cons_append, any, ih, bind_assoc]
      congr 1
      funext b
      cases b <;> simp

/-- One condition joined is itself. -/
theorem joined_singleton {k : Connective} (hk : k ≠ .not) (p : Predicate m) : joined k [p] = p := by
  funext node
  cases k with
  | and => exact bind_answer (p node)
  | or => exact bind_answer (p node)
  | not => contradiction

/-- The join of a list is the join of its two parts. -/
theorem joined_append {k : Connective} (hk : k ≠ .not) (ps qs : List (Predicate m)) :
    joined k (ps ++ qs) = joined k [joined k ps, joined k qs] := by
  funext node
  cases k with
  | and => simp only [joined, all_append, all, bind_answer]
  | or => simp only [joined, any_append, any, bind_answer]
  | not => contradiction

end

end Predicate

namespace Expr

variable {c : Context m}

/-! ## compiling a join in two parts -/

theorem compileAll_append (as bs : List Expr) :
    compileAll c (as ++ bs) = do return (← compileAll c as) ++ (← compileAll c bs) := by
  induction as with
  | nil =>
      rw [List.nil_append, compileAll]
      cases compileAll c bs <;> rfl
  | cons a as ih => simp [compileAll, ih]

theorem compile_logic_append [LawfulMonad m] {k : Connective} (hk : k ≠ .not) (as bs : List Expr) :
    compile c (.logic k (as ++ bs)) = do
      return .joined k [← compile c (.logic k as), ← compile c (.logic k bs)] := by
  simp [compile, compileAll_append, Predicate.joined_append hk]

theorem compile_logic_singleton [LawfulMonad m] {k : Connective} (hk : k ≠ .not) (e : Expr) :
    compile c (.logic k [e]) = compile c e := by
  rw [compile, compileAll, compileAll]
  cases compile c e with
  | error error => rfl
  | ok p => exact congrArg Except.ok (Predicate.joined_singleton hk p)

/-- What an expression contributes to a join is joined to the expression again. -/
theorem compile_logic_spread [LawfulMonad m] {k : Connective} (hk : k ≠ .not) (e : Expr) :
    compile c (.logic k (spread k e)) = compile c e := by
  by_cases h : ∃ es, e = .logic k es
  · obtain ⟨es, rfl⟩ := h
    rw [spread_logic_self]
  · rw [spread_of_ne fun es he => h ⟨es, he⟩, compile_logic_singleton hk]

/-! ## flattening -/

mutual

/-- A flattened expression compiles to what the expression compiles to. -/
theorem compile_simplify [LawfulMonad m] : (e : Expr) → compile c e.simplify = compile c e
  | .logic .and es => by rw [simplify, compile_flatten (by decide) es]
  | .logic .or es => by rw [simplify, compile_flatten (by decide) es]
  | .logic .not es => by rw [simplify, compile, compile, compileAll_simplifyAll es]
  | .comparison _ _ _ => by simp [simplify]
  | .call _ _ => by simp [simplify]
  | .path _ => by simp [simplify]
  | .literal _ => by simp [simplify]
  | .parameter _ => by simp [simplify]

theorem compileAll_simplifyAll [LawfulMonad m] : (es : List Expr) →
    compileAll c (simplifyAll es) = compileAll c es
  | [] => by rw [simplifyAll]
  | e :: es => by
      rw [simplifyAll, compileAll, compileAll, compile_simplify e, compileAll_simplifyAll es]

theorem compile_flatten [LawfulMonad m] {k : Connective} (hk : k ≠ .not) : (es : List Expr) →
    compile c (.logic k (flatten k es)) = compile c (.logic k es)
  | [] => by rw [flatten]
  | e :: es => by
      have hhead : compile c (.logic k (spread k e.simplify)) = compile c (.logic k [e]) := by
        rw [compile_logic_spread hk, compile_simplify e, compile_logic_singleton hk]
      rw [flatten, compile_logic_append hk, hhead, compile_flatten hk es,
        ← compile_logic_append hk, List.singleton_append]

end

/-- **Flattening preserves meaning**, in verdict, calls and errors.  An expression and its flattened
form fail with the same error or compile to the same predicate.  They do so against the watched
context too, where the predicate gives the same verdict and leaves the list of calls. -/
theorem compile_simplify_agrees [LawfulMonad m] (c : Context m) (e : Expr) :
    (∀ error, compile c e.simplify = .error error ↔ compile c e = .error error) ∧
    ∀ p, compile c e = .ok p → compile c e.simplify = .ok p ∧
      ∃ q, compile c.logged e = .ok q ∧ compile c.logged e.simplify = .ok q ∧
        ∀ node log, Prod.fst <$> (q node).run log = p node := by
  refine ⟨fun error => by rw [compile_simplify], fun p hp => ⟨by rw [compile_simplify, hp], ?_⟩⟩
  obtain ⟨q, hq⟩ := compile_logged e hp
  refine ⟨q, hq, by rw [compile_simplify, hq], fun node log => ?_⟩
  rw [compile_eq e hp, compile_eq e hq]
  exact forgets_evaluate e log

/-- `[a] == 1 and (([a] == 1 and (and)) and not ([b] == 1 and [a] == 1))`, in which the innermost
conjunction is empty. -/
def nestedChecks : Expr :=
  let check (name : String) : Expr := .comparison .eq (.path [name]) (.literal (.long 1))
  .all [check "a", .all [.all [check "a", .all []], .deny (.all [check "b", check "a"])]]

/-- On a node that has `a` alone `==` is asked twice, with or without the nesting; where no operator
is known, both forms fail for want of `==`. -/
theorem compile_simplify_nestedChecks :
    (∃ q, compile (Context.standard : Context Id).logged nestedChecks = .ok q ∧
      compile (Context.standard : Context Id).logged nestedChecks.simplify = .ok q ∧
      (q onlyA).run [] =
        (true, [.comparison .eq (.long 1) (.long 1), .comparison .eq (.long 1) (.long 1)])) ∧
    compile (Context.empty : Context Id) nestedChecks.simplify = .error (.unknownOperator .eq) := by
  constructor
  · obtain ⟨p, hp⟩ : ∃ p, compile (Context.standard : Context Id) nestedChecks = .ok p := ⟨_, rfl⟩
    obtain ⟨-, q, hq, hs, -⟩ := (compile_simplify_agrees Context.standard nestedChecks).2 p hp
    refine ⟨q, hq, hs, ?_⟩
    rw [compile_eq nestedChecks hq]
    rfl
  · exact ((compile_simplify_agrees Context.empty nestedChecks).1 _).mpr rfl

end Expr

end TreeSift
