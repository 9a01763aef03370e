import TreeSift.Content.Walk
import TreeSift.Proofs.Content.Visit

/-!
# TreeSift.Proofs.Content.Walk

Pulling a walk is doing the recursive walk a step at a time.

1. A pulled walk is observed: it leaves the questions it asks, the nodes it returns and the pulls
   that found it over, in order.
2. `Remaining` ties a stack to the part of the recursive walk that is still to come: each level of
   the stack is a list of siblings, visited after the levels inside it and knowing what was asked
   there.  A pull takes the first of the visits to come and leaves a stack for the others.
-/

namespace TreeSift

/-- What is seen of a walk from outside. -/
inductive Event where
  /-- The branch selector was asked about a node. -/
  | asked (n : Node)
  /-- A pull returned a node. -/
  | yielded (n : Node)
  /-- A pull returned nothing. -/
  | ended

namespace Event

/-- The nodes that were asked about. -/
def askedNodes : List Event → List Node
  | [] => []
  | asked n :: es => n :: askedNodes es
  | _ :: es => askedNodes es

theorem askedNodes_append (es fs : List Event) :
    askedNodes (es ++ fs) = askedNodes es ++ askedNodes fs := by
  fun_induction askedNodes es with
  | case1 => rfl
  | case2 n es ih => rw [List.cons_append, askedNodes, ih, List.cons_append]
  | case3 e es he ih =>
    cases e with
    | asked n => exact absurd rfl (he n)
    | yielded n => exact ih
    | ended => exact ih

end Event

/-- Asks a branch selector, and leaves the question among the events. -/
def BranchSelector.ask (σ : BranchSelector) (n : Node) : StateM (List Event) Bool := fun es =>
  (σ (Event.askedNodes es) n, es ++ [.asked n])

/-- The questions and the answer of one visit. -/
def Visit.events (v : Visit) : List Event := [.asked v.node, .yielded v.node]

/-- The recursive walk from a node on, step by step. -/
def Visit.steps (σ : BranchSelector) (root : Node) : List (List Event) :=
  [.yielded root] :: (visits σ root).map events

namespace Walk

open Visit

/-- One pull, after which its outcome is among the events too. -/
def observe (σ : BranchSelector) (w : Walk) : StateM (List Event) Walk := do
  let p ← w.pull σ.ask
  modify fun es => es ++ [p.node.elim .ended .yielded]
  return p.after

/-- So many pulls. -/
def observeAll (σ : BranchSelector) : Nat → Walk → StateM (List Event) Walk
  | 0, w => pure w
  | k + 1, w => do observeAll σ k (← observe σ w)

/-- The events of so many pulls of a walk. -/
def events (σ : BranchSelector) (w : Walk) (k : Nat) : List Event :=
  ((observeAll σ k w).run []).2

/-- The visits that are still to come, given the stack and the nodes asked about so far. -/
inductive Remaining (σ : BranchSelector) : List (List Node) → List Node → List Visit → Prop where
  | nil (asked : List Node) : Remaining σ [] asked []
  | level {stack : List (List Node)} {asked : List Node} {vs : List Visit} (place : List Nat)
      (i : Nat) (ns : List Node)
      (h : Remaining σ stack (asked ++ (visitAll σ asked place i ns).map node) vs) :
      Remaining σ (ns :: stack) asked (visitAll σ asked place i ns ++ vs)

variable {σ : BranchSelector} {stack : List (List Node)} {vs : List Visit} {es : List Event}

/-- The next child on the stack is the next visit, and what is to come after it is to come on the
stack with the children of that child, if they are to come, as one more level. -/
theorem Remaining.advance {asked : List Node} (h : Remaining σ stack asked vs) :
    (advance stack = none ∧ vs = []) ∨ ∃ n after place more, Walk.advance stack = some (n, after) ∧
      vs = ⟨place, n, σ asked n⟩ :: more ∧
      Remaining σ (if σ asked n then n.children :: after else after) (asked ++ [n]) more := by
  induction h with
  | nil => exact .inl ⟨rfl, rfl⟩
  | @level stack asked vs place i ns h ih =>
      cases ns with
      | nil => simpa [visitAll, Walk.advance] using ih
      | cons n ns =>
          rw [visitAll, visit_eq] at h ⊢
          refine .inr ⟨n, ns :: stack, place ++ [i], _, rfl, rfl, ?_⟩
          cases ha : σ asked n with
          | true =>
              simp only [ha, if_true] at h ⊢
              have hns : Remaining σ (ns :: stack) (asked ++ [n] ++
                  (visitAll σ (asked ++ [n]) (place ++ [i]) 0 n.children).map node) _ :=
                .level place (i + 1) ns (by simpa using h)
              simpa using Remaining.level (place ++ [i]) 0 n.children hns
          | false =>
              simp only [ha, Bool.false_eq_true, if_false] at h ⊢
              have hns : Remaining σ (ns :: stack) (asked ++ [n]) _ :=
                .level place (i + 1) ns (by simpa using h)
              simpa using hns

/-! ## one pull -/

theorem observe_start (root : Node) :
    (observe σ ⟨some root, stack⟩).run es =
      (⟨none, root.children :: stack⟩, es ++ [.yielded root]) :=
  rfl

theorem observe_over (h : advance stack = none) :
    (observe σ ⟨none, stack⟩).run es = (⟨none, []⟩, es ++ [.ended]) := by
  unfold observe pull
  dsimp only
  split
  · rfl
  · next h' =>
    rw [h] at h'
    contradiction

theorem observe_found {n : Node} {after : List (List Node)} (h : advance stack = some (n, after)) :
    (observe σ ⟨none, stack⟩).run es =
      (⟨none, if σ (Event.askedNodes es) n then n.children :: after else after⟩,
        es ++ [.asked n, .yielded n]) := by
  unfold observe pull
  dsimp only
  split
  · next h' =>
    rw [h] at h'
    contradiction
  · next n' after' h' =>
    rw [h] at h'
    injection h' with h'
    injection h' with hn hafter
    subst hn hafter
    rw [List.append_cons]
    cases ha : σ (Event.askedNodes es) n with
    | true =>
        simp only [BranchSelector.ask, ha, StateT.run, bind, StateT.bind]
        rfl
    | false =>
        simp only [BranchSelector.ask, ha, StateT.run, bind, StateT.bind]
        rfl

/-! ## all pulls -/

/-- So many pulls do as many of the visits to come; the rest of them find the walk over. -/
theorem observeAll_of_remaining (k : Nat) (h : Remaining σ stack (Event.askedNodes es) vs) :
    ((observeAll σ k ⟨none, stack⟩).run es).2 =
      es ++ ((vs.map Visit.events).take k).flatten ++ List.replicate (k - vs.length) .ended := by
  induction k generalizing stack es vs with
  | zero =>
      simp only [observeAll, List.take_zero, Nat.zero_sub, List.flatten_nil, List.replicate_zero,
        List.append_nil]
      rfl
  | succ k ih =>
      rw [observeAll, StateT.run_bind]
      obtain ⟨ha, rfl⟩ | ⟨n, after, place, more, ha, rfl, hmore⟩ := h.advance
      · rw [observe_over ha]
        have hnil : Remaining σ [] (Event.askedNodes (es ++ [.ended])) [] := .nil _
        refine (ih hnil).trans ?_
        simp [List.replicate_succ]
      · rw [observe_found ha]
        have hasked : Event.askedNodes (es ++ [.asked n, .yielded n]) =
            Event.askedNodes es ++ [n] := Event.askedNodes_append _ _
        rw [← hasked] at hmore
        refine (ih hmore).trans ?_
        simp [Visit.events]

theorem remaining_visits (root : Node) : Remaining σ [root.children] [] (visits σ root) := by
  have h : Remaining σ [root.children] [] (visitAll σ [] [] 0 root.children ++ []) :=
    .level [] 0 root.children (.nil _)
  rwa [List.append_nil] at h

theorem events_below (root : Node) (k : Nat) :
    events σ (below root) k = (((visits σ root).map Visit.events).take k).flatten ++
      List.replicate (k - (visits σ root).length) .ended :=
  observeAll_of_remaining k (remaining_visits root)

theorem events_from' (root : Node) (k : Nat) :
    events σ (from' root) k = ((steps σ root).take k).flatten ++
      List.replicate (k - (steps σ root).length) .ended := by
  cases k with
  | zero =>
      simp only [events, observeAll, List.take_zero, Nat.zero_sub, List.flatten_nil,
        List.replicate_zero, List.append_nil]
      rfl
  | succ k =>
      unfold events from'
      rw [observeAll, StateT.run_bind, observe_start]
      refine (observeAll_of_remaining k (remaining_visits root)).trans ?_
      simp [steps]

/-- **Pulling a walk is the recursive walk, a step at a time.**  The events of `k` pulls from a
node on are those of the first `k` steps of the recursive walk, and every pull after the last step
finds nothing and asks nothing; below the node they are the same without its own.  In the recursive
walk each answer is the selector's, given the nodes before; each place is visited once at most and
shows the node that is there; and a place is visited exactly if it exists below the start and all
places between were accepted. -/
theorem events_eq_steps (σ : BranchSelector) (root : Node) :
    (∀ k, events σ (from' root) k = ((steps σ root).take k).flatten ++
      List.replicate (k - (steps σ root).length) .ended) ∧
    (∀ k, events σ (below root) k = ((steps σ root).tail.take k).flatten ++
      List.replicate (k - (steps σ root).tail.length) .ended) ∧
    Answered σ [] (visits σ root) ∧
    ((visits σ root).map Visit.place).Nodup ∧
    (∀ v ∈ visits σ root, root.at? v.place = some v.node) ∧
    ∀ p, (∃ v ∈ visits σ root, v.place = p) ↔ p ≠ [] ∧ (root.at? p).isSome = true ∧
      ∀ q, q <+: p → q ≠ [] → q ≠ p → ∃ w ∈ visits σ root, w.place = q ∧ w.accepted = true := by
  refine ⟨events_from' root, fun k => ?_, answered_visitAll _ _ _ _, nodup_visitAll _ _ _ _,
    fun v hv => (at?_of_mem_visits hv).2, fun p => visited_iff⟩
  rw [events_below]
  simp [steps]

/-- A selector that accepts only the first node it is asked about. -/
example :
    let leaf := Node.named "leaf"
    let branch := (Node.named "branch").addChild leaf
    let root := ((Node.named "root").addChild branch).addChild branch
    events (fun asked _ => asked.isEmpty) (from' root) 5 =
      [.yielded root, .asked branch, .yielded branch, .asked leaf, .yielded leaf, .asked branch,
        .yielded branch, .ended] :=
  rfl

end Walk

end TreeSift
