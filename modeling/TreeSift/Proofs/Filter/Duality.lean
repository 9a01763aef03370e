import TreeSift.Proofs.Filter.Simplify

/-!
# TreeSift.Proofs.Filter.Duality

Conjunction and disjunction under denial.

1. The opposite of a conjunction of conditions is the disjunction of their opposites, and the other
   way round (`Predicate.negate_all`, `Predicate.negate_any`).  The two ask the same conditions in
   the same order: what ends the asking on one side ends it on the other.
2. A denial has the faults of what it denies, in their order.  So expressions that are dual to each
   other compile to one predicate or fail with one error (`Expr.compile_deMorgan`).
-/

namespace TreeSift

variable {m : Type → Type} [Monad m]

namespace Predicate

variable [LawfulMonad m]

/-! ## opposites -/

@[simp] theorem negate_negate (p : Predicate m) : negate (negate p) = p := by
  funext node
  simp [negate]

theorem negate_all (ps : List (Predicate m)) : negate (all ps) = any (ps.map negate) := by
  funext node
  induction ps with
  | nil => simp [negate, all, any]
  | cons p ps ih =>
      simp only [negate, all, List.map_cons, any, bind_assoc, pure_bind]
      congr 1
      funext b
      -- the condition decides on both sides, or leaves both to the rest
      cases b with
      | false => simp
      | true => simpa [negate] using ih

theorem negate_any (ps : List (Predicate m)) : negate (any ps) = all (ps.map negate) := by
  have htwice : (negate ∘ negate : Predicate m → Predicate m) = id := funext negate_negate
  rw [← negate_negate (all _), negate_all, List.map_map, htwice, List.map_id]

/-- The denial of one condition is its opposite. -/
theorem joined_not_singleton (p : Predicate m) : joined .not [p] = negate p := by
  have hone : all [p] = p := joined_singleton (k := .and) (by decide) p
  rw [joined, hone]

end Predicate

namespace Expr

variable {c : Context m}

section
variable [LawfulMonad m]

/-! ## what is denied -/

/-- Denying one condition compiles to its opposite. -/
theorem compile_deny (e : Expr) : compile c (.deny e) = do return (← compile c e).negate := by
  rw [deny, compile, compileAll, compileAll]
  cases compile c e with
  | error error => rfl
  | ok p => exact congrArg Except.ok (Predicate.joined_not_singleton p)

theorem compileAll_map_deny (es : List Expr) :
    compileAll c (es.map deny) = do return (← compileAll c es).map .negate := by
  induction es with
  | nil => simp [compileAll]
  | cons e es ih => simp [compileAll, compile_deny, ih]

/-- Denying several conditions denies their conjunction. -/
theorem compile_deny_all (es : List Expr) :
    compile c (.deny (.all es)) = compile c (.logic .not es) := by
  rw [compile_deny, all, compile, compile]
  cases compileAll c es <;> rfl

theorem compile_any_deny (es : List Expr) :
    compile c (.any (es.map deny)) = compile c (.logic .not es) := by
  simp [any, compile, compileAll_map_deny, Predicate.joined, Predicate.negate_all]

theorem compile_all_deny (es : List Expr) :
    compile c (.all (es.map deny)) = compile c (.deny (.any es)) := by
  simp [all, any, compile, compile_deny, compileAll_map_deny, Predicate.joined,
    Predicate.negate_any]

theorem compile_deny_deny (e : Expr) : compile c (.deny (.deny e)) = compile c (.all [e]) := by
  have hone : compile c (.all [e]) = compile c e := compile_logic_singleton (by decide) e
  simp [hone, compile_deny]

end

/-! ## coming to the same -/

/-- Two expressions come to the same.  They fail with the same error or have the same predicate, and
in the watched context one predicate that gives its verdict and leaves the list of calls. -/
structure Alike (c : Context m) (e e' : Expr) : Prop where
  fails (error : FilterError) : compile c e = .error error ↔ compile c e' = .error error
  agrees {p : Predicate m} (h : compile c e = .ok p) : compile c e' = .ok p ∧
    ∃ q, compile c.logged e = .ok q ∧ compile c.logged e' = .ok q ∧
      ∀ node log, Prod.fst <$> (q node).run log = p node

/-- What compiles to the same with and without being watched comes to the same. -/
theorem Alike.of_compile_eq [LawfulMonad m] {e e' : Expr} (h : compile c e = compile c e')
    (hlogged : compile c.logged e = compile c.logged e') : Alike c e e' where
  fails error := by rw [h]
  agrees {p} hp := by
    obtain ⟨q, hq⟩ := compile_logged e hp
    refine ⟨h ▸ hp, q, hq, hlogged ▸ hq, fun node log => ?_⟩
    rw [compile_eq e hp, compile_eq e hq]
    exact forgets_evaluate e log

/-- **Denial turns conjunctions and disjunctions into each other**, in verdict, calls and errors.
Denying a conjunction is denying its conditions together, or one of them at least; denying a
disjunction is denying each of its conditions; and denying twice changes nothing. -/
theorem compile_deMorgan [LawfulMonad m] (c : Context m) (es : List Expr) (e : Expr) :
    Alike c (.deny (.all es)) (.logic .not es) ∧
    Alike c (.logic .not es) (.any (es.map deny)) ∧
    Alike c (.deny (.any es)) (.all (es.map deny)) ∧
    Alike c (.deny (.deny e)) (.all [e]) :=
  ⟨.of_compile_eq (compile_deny_all es) (compile_deny_all es),
    .of_compile_eq (compile_any_deny es).symm (compile_any_deny es).symm,
    .of_compile_eq (compile_all_deny es).symm (compile_all_deny es).symm,
    .of_compile_eq (compile_deny_deny e) (compile_deny_deny e)⟩

/-- `[a] == 1`, `[b] == 1` and `[a] == 1` again, to be denied together. -/
def checks : List Expr :=
  let check (name : String) : Expr := .comparison .eq (.path [name]) (.literal (.long 1))
  [check "a", check "b", check "a"]

/-- On a node that has `a` alone, the second check is the one that fails, and its denial the one
that holds.  Either way `==` was asked once.  Without operators both forms want `==`. -/
theorem compile_deMorgan_checks :
    (∃ q, compile (Context.standard : Context Id).logged (.deny (.all checks)) = .ok q ∧
      compile (Context.standard : Context Id).logged (.logic .not checks) = .ok q ∧
      compile (Context.standard : Context Id).logged (.any (checks.map deny)) = .ok q ∧
      (q onlyA).run [] = (true, [.comparison .eq (.long 1) (.long 1)])) ∧
    (∃ q, compile (Context.standard : Context Id).logged (.deny (.any checks)) = .ok q ∧
      compile (Context.standard : Context Id).logged (.all (checks.map deny)) = .ok q ∧
      (q onlyA).run [] = (false, [.comparison .eq (.long 1) (.long 1)])) ∧
    compile (Context.empty : Context Id) (.any (checks.map deny)) =
      .error (.unknownOperator .eq) := by
  obtain ⟨p, hp⟩ : ∃ p, compile (Context.standard : Context Id) (.deny (.all checks)) = .ok p :=
    ⟨_, rfl⟩
  obtain ⟨p', hp'⟩ : ∃ p, compile (Context.standard : Context Id) (.deny (.any checks)) = .ok p :=
    ⟨_, rfl⟩
  obtain ⟨hall, heach, hany, -⟩ :=
    compile_deMorgan (Context.standard : Context Id) checks (.literal .null)
  obtain ⟨hdenied, q, hq, hq', -⟩ := hall.agrees hp
  obtain ⟨-, r, hr, hr', -⟩ := heach.agrees hdenied
  obtain rfl : q = r := Except.ok.inj (hq'.symm.trans hr)
  obtain ⟨-, s, hs, hs', -⟩ := hany.agrees hp'
  refine ⟨⟨q, hq, hq', hr', ?_⟩, ⟨s, hs, hs', ?_⟩, ?_⟩
  · rw [compile_eq _ hq]
    rfl
  · rw [compile_eq _ hs]
    rfl
  · have hfails := (compile_deMorgan (Context.empty : Context Id) checks (.literal .null)).2.1.fails
    exact (hfails _).mp rfl

end Expr

end TreeSift
