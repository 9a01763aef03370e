import TreeSift.Filter.Standard
import TreeSift.Proofs.Expr.Parts
import TreeSift.Proofs.Filter.Compile

/-!
# TreeSift.Proofs.Filter.Footprint

What a filter looks at in a node.

1. A node comes into an expression in two places: a path asks it for a value, and a function is
   called on it.  Nodes that are alike in these places give every part of the expression the same
   value (`Expr.value_congr`).
2. The usual functions look at little: `name()` at the name, `path()` at the path, `date` at
   neither.  So a filter reads only what it names (`Expr.compile_reads_only`).
-/

namespace TreeSift

variable {m : Type → Type}

/-- Two nodes are alike to an expression apart from its operands. -/
def Context.AlikeTo (c : Context m) (node node' : Attributes) : Expr → Prop
  | .path segments =>
    node.resolve (String.ofList (Expr.pathText segments)) =
      node'.resolve (String.ofList (Expr.pathText segments))
  | .call name _ => ∀ f, c.function? name = some f → f.call node = f.call node'
  | _ => True

namespace Expr

/-! ## nodes that are alike -/

section
variable [Monad m] {c : Context m} {node node' : Attributes}

mutual

/-- An expression has the same value on nodes that are alike to each of its parts. -/
theorem value_congr : (e : Expr) → (∀ s ∈ parts e, c.AlikeTo node node' s) →
    value c node e = value c node' e
  | .logic .and es, h => by
      rw [value, value, every_congr es fun s hs => h s (by simp [parts, hs])]
  | .logic .or es, h => by
      rw [value, value, either_congr es fun s hs => h s (by simp [parts, hs])]
  | .logic .not es, h => by
      rw [value, value, every_congr es fun s hs => h s (by simp [parts, hs])]
  | .comparison op left right, h => by
      rw [value, value, value_congr left fun s hs => h s (by simp [parts, hs]),
        value_congr right fun s hs => h s (by simp [parts, hs])]
  | .call name args, h => by
      have hcall : c.AlikeTo node node' (.call name args) := h _ (mem_parts_self _)
      rw [value, value, values_congr args fun s hs => h s (by simp [parts, hs])]
      cases hf : c.function? name with
      | none => rfl
      | some f => simp only [hcall f hf]
  | .path segments, h => by
      have hresolve : c.AlikeTo node node' (.path segments) := h _ (mem_parts_self _)
      rw [value, value, hresolve]
  | .literal v, h => by cases v <;> simp [value]
  | .parameter name, h => by rw [value, value]

theorem every_congr : (es : List Expr) → (∀ s ∈ partsAll es, c.AlikeTo node node' s) →
    every c node es = every c node' es
  | [], h => by rw [every, every]
  | e :: es, h => by
      rw [every, every, value_congr e fun s hs => h s (by simp [partsAll, hs]),
        every_congr es fun s hs => h s (by simp [partsAll, hs])]

theorem either_congr : (es : List Expr) → (∀ s ∈ partsAll es, c.AlikeTo node node' s) →
    either c node es = either c node' es
  | [], h => by rw [either, either]
  | e :: es, h => by
      rw [either, either, value_congr e fun s hs => h s (by simp [partsAll, hs]),
        either_congr es fun s hs => h s (by simp [partsAll, hs])]

theorem values_congr : (es : List Expr) → (∀ s ∈ partsAll es, c.AlikeTo node node' s) →
    values c node es = values c node' es
  | [], h => by rw [values, values]
  | e :: es, h => by
      rw [values, values, value_congr e fun s hs => h s (by simp [partsAll, hs]),
        values_congr es fun s hs => h s (by simp [partsAll, hs])]

end

/-- A compiled expression does the same on nodes that are alike to each of its parts. -/
theorem compile_congr [LawfulMonad m] {e : Expr} {p : Predicate m} (hp : compile c e = .ok p)
    (h : ∀ s ∈ parts e, c.AlikeTo node node' s) : p node = p node' := by
  rw [compile_eq e hp, compile_eq e hp, evaluate, evaluate, value_congr e h]

end

/-! ## the usual functions -/

/-- A function of that name is called somewhere in the expression. -/
def Calls (e : Expr) (name : String) : Prop := ∃ args, .call name args ∈ parts e

end Expr

/-- The usual functions under their names. -/
inductive Function.Usual [Monad m] : String → Function m → Prop where
  | name : Usual "name" .name
  | path : Usual "path" .path
  | date : Usual "date" .date

namespace Expr

variable [Monad m] [LawfulMonad m] {c : Context m} {e : Expr} {p : Predicate m}
  {node node' : Attributes}

/-- **A filter reads only what it names.**  Let an expression call no functions but the usual ones.
Then it does the same on two nodes on which each path that stands in it leads to the same; if it
calls `name()`, the nodes need to have one name as well, and if it calls `path()`, one path.  No
operator makes a difference, whatever its strategy is, since it is only shown values. -/
theorem compile_reads_only (hp : compile c e = .ok p)
    (hfunctions : ∀ name args, .call name args ∈ parts e →
      ∃ f, c.function? name = some f ∧ Function.Usual name f)
    (hname : e.Calls "name" → node.name = node'.name)
    (hpath : e.Calls "path" → node.path = node'.path)
    (hresolve : ∀ segments, .path segments ∈ parts e →
      node.resolve (String.ofList (pathText segments)) =
        node'.resolve (String.ofList (pathText segments))) :
    p node = p node' := by
  refine compile_congr hp fun s hs => ?_
  cases s with
  | path segments => exact hresolve segments hs
  | call name args =>
      intro f hf
      obtain ⟨g, hg, husual⟩ := hfunctions name args hs
      obtain rfl : f = g := Option.some.inj (hf.symm.trans hg)
      funext values
      cases husual with
      | name => simp only [Function.name, hname ⟨args, hs⟩]
      | path => simp only [Function.path, hpath ⟨args, hs⟩]
      | date => rfl
  | _ => trivial

/-- `path() == '/n' and not date([a]) > [b/c]`. -/
def namesSome : Expr :=
  .all [.comparison .eq (.call "path" []) (.literal (.text "/n")),
    .deny (.comparison .gt (.call "date" [.path ["a"]]) (.path ["b", "c"]))]

/-- A node with path `/n` and any name.  `a` leads to 1, `b/c` to nothing, and all else to a value
that is the same everywhere. -/
def located (name : String) (other : Value) : Attributes :=
  ⟨name, "/n", fun path =>
    if path = "a" then some (.long 1) else if path = "b/c" then none else some other⟩

/-- Neither the name nor what `d` leads to matters. -/
theorem compile_reads_only_namesSome :
    ∃ p, compile (Context.standard : Context Id) namesSome = .ok p ∧ ¬ namesSome.Calls "name" ∧
      (located "x" .null).resolve "d" ≠ (located "y" (.long 2)).resolve "d" ∧
      p (located "x" .null) = true ∧ p (located "y" (.long 2)) = true := by
  obtain ⟨p, hp⟩ : ∃ p, compile (Context.standard : Context Id) namesSome = .ok p := ⟨_, rfl⟩
  have hparts : ∀ s ∈ parts namesSome,
      (∀ name args, s = .call name args → name = "path" ∨ name = "date") ∧
      (∀ segments, s = .path segments → segments = ["a"] ∨ segments = ["b", "c"]) := by
    simp [namesSome, all, deny, parts, partsAll]
  have hname : ¬ namesSome.Calls "name" := by
    rintro ⟨args, hargs⟩
    have hother := (hparts _ hargs).1 "name" args rfl
    simp at hother
  have hholds : p (located "x" .null) = true := by
    rw [compile_eq _ hp]
    rfl
  have hsame : p (located "x" .null) = p (located "y" (.long 2)) := by
    refine compile_reads_only hp ?_ (absurd · hname) (fun _ => rfl) ?_
    · intro name args hs
      obtain rfl | rfl := (hparts _ hs).1 name args rfl
      · exact ⟨_, rfl, .path⟩
      · exact ⟨_, rfl, .date⟩
    · intro segments hs
      obtain rfl | rfl := (hparts _ hs).2 segments rfl <;> rfl
  exact ⟨p, hp, hname, by simp [located], hholds, hsame ▸ hholds⟩

end Expr

end TreeSift
