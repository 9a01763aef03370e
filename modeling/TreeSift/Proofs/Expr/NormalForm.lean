import TreeSift.Proofs.Expr.Flat
import TreeSift.Proofs.Expr.Parts

/-!
# TreeSift.Proofs.Expr.NormalForm

Flattening leads to a normal form and loses nothing on the way.

1. The conditions that connectives join are counted from left to right, down to the first thing that
   is no connective (`leaves`), and so are the denials on the way there (`denials`).  A condition
   that is spread out in a join still contributes the same, so flattening keeps both
   (`leaves_simplify`, `denials_simplify`).
2. A flattened expression is flat: its children are, and flat conditions stay so when a join takes
   them up (`flat_simplify`).  A flat expression is left alone, so the flat expressions are exactly
   the normal forms.
3. The program compares expressions by `same`, for which every expression without an undefined
   number is the same as itself (`same_self_iff`).
-/

namespace TreeSift

/-! ## expressions that are the same as themselves -/

namespace Value

mutual

/-- Whether there is no undefined number in a value, also inside of lists. -/
def isDefined : Value → Bool
  | double x => !x.isNaN
  | list items => allDefined items
  | _ => true

/-- Whether there is no undefined number in any of the values. -/
def allDefined : List Value → Bool
  | [] => true
  | v :: vs => isDefined v && allDefined vs

end

theorem compare?_self_double (x : Binary64) : (x.compare? x == some .eq) = !x.isNaN := by
  cases x with
  | nan => rfl
  | number negative m => simp [Binary64.compare?, Binary64.key?, Binary64.isNaN]

mutual

theorem same_self : (v : Value) → v.same v = v.isDefined
  | null => rfl
  | boolean b => by simp [same, isDefined]
  | long n => by simp [same, isDefined]
  | double x => by rw [same, isDefined, compare?_self_double]
  | text s => by simp [same, isDefined]
  | date m => by simp [same, isDefined]
  | list items => by rw [same, isDefined, sameItems_self items]

theorem sameItems_self : (vs : List Value) → sameItems vs vs = allDefined vs
  | [] => rfl
  | v :: vs => by rw [sameItems, allDefined, same_self v, sameItems_self vs]

end

end Value

namespace Expr

/-- No constant in the expression is or holds an undefined number. -/
def Defined (e : Expr) : Prop := ∀ v, .literal v ∈ parts e → v.isDefined = true

theorem defined_iff {e : Expr} :
    Defined e ↔ ∀ s ∈ parts e, ∀ v, s = .literal v → v.isDefined = true := by
  constructor
  · rintro h s hs v rfl
    exact h v hs
  · exact fun h v hv => h _ hv v rfl

theorem defined_logic {c : Connective} {es : List Expr} :
    Defined (.logic c es) ↔ ∀ e ∈ es, Defined e := by
  simp only [defined_iff, forall_parts_logic, reduceCtorEq, false_implies, implies_true, true_and]

theorem defined_call {name : String} {args : List Expr} :
    Defined (.call name args) ↔ ∀ e ∈ args, Defined e := by
  simp only [defined_iff, forall_parts_call, reduceCtorEq, false_implies, implies_true, true_and]

theorem defined_comparison {op : Operator} {left right : Expr} :
    Defined (.comparison op left right) ↔ Defined left ∧ Defined right := by
  simp only [Defined, parts, List.mem_cons, List.mem_append, reduceCtorEq, false_or, or_imp,
    forall_and]

mutual

/-- An expression is the same as itself unless there is an undefined number in it. -/
theorem same_self_iff : (e : Expr) → (e.same e = true ↔ e.Defined)
  | .logic c es => by simp [same, defined_logic, sameAll_self_iff es]
  | .comparison op left right => by
      simp [same, defined_comparison, same_self_iff left, same_self_iff right]
  | .call name args => by simp [same, defined_call, sameAll_self_iff args]
  | .path segments => by simp [same, Defined, parts]
  | .literal v => by simp [same, Defined, parts, Value.same_self]
  | .parameter name => by simp [same, Defined, parts]

theorem sameAll_self_iff : (es : List Expr) → (sameAll es es = true ↔ ∀ e ∈ es, e.Defined)
  | [] => by simp [sameAll]
  | e :: es => by simp [sameAll, same_self_iff e, sameAll_self_iff es]

end

/-! ## induction along connectives -/

/-- Induction that goes down along connectives and stops at anything else. -/
@[elab_as_elim]
theorem connectiveInduction {motive : Expr → Prop}
    (denial : ∀ es, (∀ e ∈ es, motive e) → motive (.logic .not es))
    (join : ∀ c es, c ≠ .not → (∀ e ∈ es, motive e) → motive (.logic c es))
    (leaf : ∀ e, (∀ c es, e ≠ .logic c es) → motive e) (e : Expr) : motive e := by
  induction e using treeInduction with
  | logic c es ih =>
      by_cases hc : c = .not
      · subst hc
        exact denial es ih
      · exact join c es hc ih
  | _ => exact leaf _ (by simp)

/-- What is no connective is left alone. -/
theorem simplify_of_ne_logic {e : Expr} (h : ∀ c es, e ≠ .logic c es) : e.simplify = e := by
  cases e with
  | logic c es => exact absurd rfl (h c es)
  | _ => simp [simplify]

theorem flat_of_ne_logic {e : Expr} (h : ∀ c es, e ≠ .logic c es) : Flat e := by
  cases e with
  | logic c es => exact absurd rfl (h c es)
  | _ => constructor

/-- What holds of a condition and of all that it joins holds of what it contributes to a join. -/
theorem forall_mem_spread {p : Expr → Prop} {c : Connective} {e : Expr} (he : p e)
    (hes : ∀ es, e = .logic c es → ∀ x ∈ es, p x) : ∀ x ∈ spread c e, p x := by
  intro x hx
  by_cases hl : ∃ es, e = .logic c es
  · obtain ⟨es, rfl⟩ := hl
    rw [spread_logic_self] at hx
    exact hes es rfl x hx
  · rw [spread_of_ne fun es h => hl ⟨es, h⟩, List.mem_singleton] at hx
    exact hx ▸ he

/-! ## what connectives join -/

mutual

/-- What connectives join in the end, from left to right. -/
def leaves : Expr → List Expr
  | logic _ children => leavesAll children
  | e => [e]

/-- What stands in several conditions, from left to right. -/
def leavesAll : List Expr → List Expr
  | [] => []
  | e :: es => leaves e ++ leavesAll es

end

mutual

/-- The number of denials among the connectives. -/
def denials : Expr → Nat
  | logic .not children => denialsAll children + 1
  | logic _ children => denialsAll children
  | _ => 0

/-- The number of denials in several conditions. -/
def denialsAll : List Expr → Nat
  | [] => 0
  | e :: es => denials e + denialsAll es

end

theorem leaves_logic (c : Connective) (es : List Expr) :
    leaves (.logic c es) = es.flatMap leaves := by
  rw [leaves]
  induction es with
  | nil => rfl
  | cons e es ih => rw [leavesAll, ih, List.flatMap_cons]

theorem denials_join {c : Connective} (hc : c ≠ .not) (es : List Expr) :
    denials (.logic c es) = denialsAll es := by
  cases c with
  | not => contradiction
  | and => rw [denials]; simp
  | or => rw [denials]; simp

theorem denialsAll_append (es ds : List Expr) :
    denialsAll (es ++ ds) = denialsAll es + denialsAll ds := by
  induction es with
  | nil => rw [List.nil_append, denialsAll, Nat.zero_add]
  | cons e es ih => rw [List.cons_append, denialsAll, denialsAll, ih, Nat.add_assoc]

/-- Conditions that are replaced by others with as many denials in them. -/
theorem denialsAll_flatMap {f : Expr → List Expr} {es : List Expr}
    (h : ∀ e ∈ es, denialsAll (f e) = denials e) :
    denialsAll (es.flatMap f) = denialsAll es := by
  induction es with
  | nil => rfl
  | cons e es ih =>
      obtain ⟨he, hes⟩ := List.forall_mem_cons.mp h
      rw [List.flatMap_cons, denialsAll_append, denialsAll, he, ih hes]

theorem denialsAll_singleton (e : Expr) : denialsAll [e] = denials e := by
  rw [denialsAll, denialsAll, Nat.add_zero]

/-! ## flattening -/

/-- A condition that is spread out joins what it joined before, -/
theorem flatMap_leaves_spread (c : Connective) (e : Expr) :
    (spread c e).flatMap leaves = leaves e := by
  by_cases hl : ∃ es, e = .logic c es
  · obtain ⟨es, rfl⟩ := hl
    rw [spread_logic_self, leaves_logic]
  · rw [spread_of_ne fun es he => hl ⟨es, he⟩, List.flatMap_singleton]

/-- and has as many denials in it. -/
theorem denialsAll_spread {c : Connective} (hc : c ≠ .not) (e : Expr) :
    denialsAll (spread c e) = denials e := by
  by_cases hl : ∃ es, e = .logic c es
  · obtain ⟨es, rfl⟩ := hl
    rw [spread_logic_self, denials_join hc]
  · rw [spread_of_ne fun es he => hl ⟨es, he⟩, denialsAll_singleton]

theorem leaves_simplify (e : Expr) : leaves e.simplify = leaves e := by
  induction e using connectiveInduction with
  | denial es ih =>
      rw [simplify_not, leaves_logic, leaves_logic, List.flatMap_map]
      exact List.flatMap_congr ih
  | join c es hc ih =>
      rw [simplify_logic hc, leaves_logic, leaves_logic, List.flatMap_assoc]
      exact List.flatMap_congr fun e he => (flatMap_leaves_spread c e.simplify).trans (ih e he)
  | leaf e he => rw [simplify_of_ne_logic he]

theorem denials_simplify (e : Expr) : denials e.simplify = denials e := by
  induction e using connectiveInduction with
  | denial es ih =>
      rw [simplify_not, denials, denials, List.map_eq_flatMap, denialsAll_flatMap]
      exact fun e he => (denialsAll_singleton e.simplify).trans (ih e he)
  | join c es hc ih =>
      rw [simplify_logic hc, denials_join hc, denials_join hc, denialsAll_flatMap]
      exact fun e he => (denialsAll_spread hc e.simplify).trans (ih e he)
  | leaf e he => rw [simplify_of_ne_logic he]

theorem flat_simplify (e : Expr) : Flat e.simplify := by
  induction e using connectiveInduction with
  | denial es ih =>
      rw [simplify_not]
      exact .logic (List.forall_mem_map.mpr ih) fun h => absurd rfl h
  | join c es hc ih =>
      rw [simplify_logic hc, ← List.flatMap_map]
      exact flat_logic_spread hc (List.forall_mem_map.mpr ih)
  | leaf e he =>
      rw [simplify_of_ne_logic he]
      exact flat_of_ne_logic he

theorem simplify_eq_self_iff {e : Expr} : e.simplify = e ↔ Flat e :=
  ⟨fun h => h ▸ flat_simplify e, Flat.simplify_eq⟩

/-- Flattening brings in no undefined numbers. -/
theorem Defined.simplify {e : Expr} (h : Defined e) : Defined e.simplify := by
  induction e using connectiveInduction with
  | denial es ih =>
      rw [defined_logic] at h
      rw [simplify_not, defined_logic]
      exact List.forall_mem_map.mpr fun e he => ih e he (h e he)
  | join c es hc ih =>
      rw [defined_logic] at h
      rw [simplify_logic hc, defined_logic]
      intro x hx
      obtain ⟨e, he, hx⟩ := List.mem_flatMap.mp hx
      have hflat := ih e he (h e he)
      exact forall_mem_spread hflat (fun ds hd => defined_logic.mp (hd ▸ hflat)) x hx
  | leaf e he => rwa [simplify_of_ne_logic he]

/-- **The flattened normal form.**  A flattened expression is flat, so flattening it again changes
nothing, and the flat expressions are those that flattening leaves alone.  What connectives join
stays in order, and as many connectives are denials.  Without undefined numbers the expressions are
also found to be the same. -/
theorem simplify_normal_form (e : Expr) :
    e.simplify.simplify = e.simplify ∧ Flat e.simplify ∧ (e.simplify = e ↔ Flat e) ∧
    leaves e.simplify = leaves e ∧ denials e.simplify = denials e ∧
    (e.Defined → e.simplify.simplify.same e.simplify = true ∧
      (Flat e → e.simplify.same e = true)) := by
  have hagain : e.simplify.simplify = e.simplify := (flat_simplify e).simplify_eq
  refine ⟨hagain, flat_simplify e, simplify_eq_self_iff, leaves_simplify e, denials_simplify e,
    fun h => ⟨?_, fun hflat => ?_⟩⟩
  · rw [hagain, same_self_iff]
    exact h.simplify
  · rw [hflat.simplify_eq, same_self_iff]
    exact h

/-- Joins in joins of their kind, one of a single condition and one of none:
`(not ([a] and ([b] and (not ()))) or (([c]) or 0))` with parentheses around every join. -/
def nestedJoins : Expr :=
  .any [.deny (.all [.path ["a"], .all [.path ["b"], .deny (.all [])]]),
    .any [.any [.path ["c"]], .literal (.double .zero)]]

/-- Three joins are taken up and the empty one stays under its denial. -/
theorem simplify_normal_form_nestedJoins :
    nestedJoins.simplify =
      .any [.deny (.all [.path ["a"], .path ["b"], .deny (.all [])]), .path ["c"],
        .literal (.double .zero)] ∧
    nestedJoins.simplify.simplify.same nestedJoins.simplify = true ∧
    leaves nestedJoins.simplify =
      [.path ["a"], .path ["b"], .path ["c"], .literal (.double .zero)] ∧
    denials nestedJoins.simplify = 2 := by
  obtain ⟨-, hflat, -, hleaves, hdenials, -⟩ := simplify_normal_form nestedJoins
  have hdefined : nestedJoins.simplify.Defined := by
    rw [← same_self_iff]
    decide
  have hsame := ((simplify_normal_form nestedJoins.simplify).2.2.2.2.2 hdefined).2 hflat
  exact ⟨rfl, hsame, hleaves, hdenials⟩

end Expr

end TreeSift
