import Mathlib.Data.List.Basic
import TreeSift.Expr.Simplify

/-!
# TreeSift.Proofs.Expr.Flat

Expressions without a join directly inside a join of its own kind.

Only connectives are looked through: what stands inside a comparison or a call does not count, just
as `simplify` leaves it alone.  Flattening leaves a flat expression as it is (`Flat.simplify_eq`),
and flat conditions stay flat when a join takes them up with their own joins spread out
(`flat_logic_spread`).
-/

namespace TreeSift

namespace Expr

/-- No conjunction directly inside a conjunction, no disjunction directly inside a disjunction. -/
inductive Flat : Expr → Prop where
  | logic {c : Connective} {es : List Expr} (flat : ∀ e ∈ es, Flat e)
      (apart : c ≠ .not → ∀ e ∈ es, ∀ ds, e ≠ .logic c ds) : Flat (.logic c es)
  | comparison (op : Operator) (left right : Expr) : Flat (.comparison op left right)
  | call (name : String) (args : List Expr) : Flat (.call name args)
  | path (segments : List String) : Flat (.path segments)
  | literal (v : Value) : Flat (.literal v)
  | parameter (name : String) : Flat (.parameter name)

/-! ## spreading -/

theorem spread_of_ne {c : Connective} {e : Expr} (h : ∀ ds, e ≠ .logic c ds) :
    spread c e = [e] := by
  cases e with
  | logic d es =>
      have hd : d ≠ c := fun hd => h es (hd ▸ rfl)
      simp [spread, hd]
  | _ => rfl

@[simp] theorem spread_logic_self (c : Connective) (es : List Expr) :
    spread c (.logic c es) = es := by
  simp [spread]

/-- What a flat expression contributes to a join is flat, and no join of that kind. -/
theorem Flat.of_mem_spread {c : Connective} (hc : c ≠ .not) {e x : Expr} (h : Flat e)
    (hx : x ∈ spread c e) : Flat x ∧ ∀ ds, x ≠ .logic c ds := by
  by_cases hl : ∃ es, e = .logic c es
  · obtain ⟨es, rfl⟩ := hl
    rw [spread_logic_self] at hx
    cases h with
    | logic flat apart => exact ⟨flat x hx, apart hc x hx⟩
  · have hne : ∀ ds, e ≠ .logic c ds := fun ds hd => hl ⟨ds, hd⟩
    rw [spread_of_ne hne, List.mem_singleton] at hx
    subst hx
    exact ⟨h, hne⟩

/-- Flat conditions joined, joins of the same kind among them spread out, are flat. -/
theorem flat_logic_spread {c : Connective} (hc : c ≠ .not) {es : List Expr}
    (h : ∀ e ∈ es, Flat e) : Flat (.logic c (es.flatMap (spread c))) := by
  have hmem : ∀ x ∈ es.flatMap (spread c), Flat x ∧ ∀ ds, x ≠ .logic c ds := by
    intro x hx
    obtain ⟨e, he, hxe⟩ := List.mem_flatMap.mp hx
    exact (h e he).of_mem_spread hc hxe
  exact .logic (fun x hx => (hmem x hx).1) fun _ x hx => (hmem x hx).2

/-! ## flattening -/

theorem simplifyAll_eq_map (es : List Expr) : simplifyAll es = es.map simplify := by
  induction es with
  | nil => simp [simplifyAll]
  | cons e es ih => simp [simplifyAll, ih]

theorem flatten_eq_flatMap (c : Connective) (es : List Expr) :
    flatten c es = es.flatMap fun e => spread c e.simplify := by
  induction es with
  | nil => simp [flatten]
  | cons e es ih => simp [flatten, ih]

/-- A join or denial with its children flattened, joins of its own kind taken up. -/
theorem simplify_logic {c : Connective} (hc : c ≠ .not) (es : List Expr) :
    simplify (.logic c es) = .logic c (es.flatMap fun e => spread c e.simplify) := by
  cases c with
  | and => rw [simplify, flatten_eq_flatMap]
  | or => rw [simplify, flatten_eq_flatMap]
  | not => contradiction

theorem simplify_not (es : List Expr) :
    simplify (.logic .not es) = .logic .not (es.map simplify) := by
  rw [simplify, simplifyAll_eq_map]

/-- Flattening has nothing to do in a flat expression. -/
theorem Flat.simplify_eq {e : Expr} (h : Flat e) : e.simplify = e := by
  induction h with
  | @logic c es flat apart ih =>
      by_cases hc : c = .not
      · subst hc
        rw [simplify_not, List.map_congr_left ih, List.map_id']
      · rw [simplify_logic hc]
        have hes : (es.flatMap fun e => spread c e.simplify) = es.flatMap fun e => [e] :=
          List.flatMap_congr fun e he => by rw [ih e he, spread_of_ne (apart hc e he)]
        rw [hes, List.flatMap_singleton']
  | _ => simp [simplify]

/-- Of flat conditions a join takes up the children of its own kind, and nothing else changes. -/
theorem simplify_logic_of_flat {c : Connective} (hc : c ≠ .not) {es : List Expr}
    (h : ∀ e ∈ es, Flat e) : simplify (.logic c es) = .logic c (es.flatMap (spread c)) := by
  rw [simplify_logic hc]
  exact congrArg _ (List.flatMap_congr fun e he => by rw [(h e he).simplify_eq])

end Expr

end TreeSift
