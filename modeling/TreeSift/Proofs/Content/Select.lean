import TreeSift.Proofs.Content.Walk

/-!
# TreeSift.Proofs.Content.Select

Selecting from a walk: which tests are made, and which nodes are returned.

1. `Remaining.select_induct` goes through a selection visit by visit, whatever the selectors do.
2. The two selectors may share a state.  A `Test` is what one of them is asked about a node; a
   `Tested` is a test with its answer and the state it left.
3. `Walk.tests` are those of the recursive walk.  What its branch selector answers depends on all
   tests before, the child selector's too; `Walk.follow` makes them first.
4. `Tested.upTo` leaves out what comes after the last node of a limit.  `Tested.Cut` says what is
   left without going through the tests.
5. A computation `Serves` tests if it makes them up to the limit and returns what they let pass.
-/

namespace TreeSift

namespace Walk

variable {m : Type → Type} [Monad m] {opens keep : Node → m Bool} {limit : Option Nat}
variable {stack : List (List Node)}

/-! ## a step of selecting -/

theorem select_zero (w : Walk) : w.select opens keep (some 0) = pure [] := by
  rw [select, if_pos rfl]

section
variable [LawfulMonad m]

theorem select_over (h : advance stack = none) :
    (⟨none, stack⟩ : Walk).select opens keep limit = pure [] := by
  have hnext : (⟨none, stack⟩ : Walk).next opens = pure none := by
    unfold next pull
    dsimp only
    split
    · rw [pure_bind]
      rfl
    · next h' =>
      rw [h] at h'
      contradiction
  rw [select, hnext]
  simp

/-- The start is not asked about, only whether it is kept. -/
theorem select_start (root : Node) (hl : limit ≠ some 0) :
    (⟨some root, stack⟩ : Walk).select opens keep limit = (do
      let w : Walk := ⟨none, root.children :: stack⟩
      if ← keep root then return root :: (← w.select opens keep (limit.map (· - 1)))
      else w.select opens keep limit) := by
  rw [select, if_neg hl]
  simp [next, pull, Pull.found]

/-- Every other node is asked about first, and then whether it is kept. -/
theorem select_found {n : Node} {after : List (List Node)} (h : advance stack = some (n, after))
    (hl : limit ≠ some 0) :
    (⟨none, stack⟩ : Walk).select opens keep limit = (do
      let w : Walk := ⟨none, if ← opens n then n.children :: after else after⟩
      if ← keep n then return n :: (← w.select opens keep (limit.map (· - 1)))
      else w.select opens keep limit) := by
  rw [select, if_neg hl]
  unfold next pull
  dsimp only
  split
  · next h' =>
    rw [h] at h'
    contradiction
  · next n' after' h' =>
    rw [h] at h'
    injection h' with h'
    injection h' with hn hafter
    subst hn hafter
    rw [bind_assoc, bind_assoc]
    congr 1
    funext b
    cases b <;> simp [Pull.found]

/-- What holds if nothing is wanted or nothing is left, and of a visit if it holds of those after
it, holds of selecting from all that are to come. -/
theorem Remaining.select_induct {σ : BranchSelector} {asked : List Node} {vs : List Visit}
    (h : Remaining σ stack asked vs)
    {P : List Node → List Visit → Option Nat → m (List Node) → Prop}
    (zero : ∀ asked vs, P asked vs (some 0) (pure []))
    (nil : ∀ asked limit, P asked [] limit (pure []))
    (cons : ∀ asked place n vs limit (after : Bool → Option Nat → m (List Node)),
      limit ≠ some 0 → (∀ limit, P (asked ++ [n]) vs limit (after (σ asked n) limit)) →
      P asked (⟨place, n, σ asked n⟩ :: vs) limit (do
        let accepted ← opens n
        if ← keep n then return n :: (← after accepted (limit.map (· - 1)))
        else after accepted limit))
    (limit : Option Nat) : P asked vs limit ((⟨none, stack⟩ : Walk).select opens keep limit) := by
  induction vs generalizing stack asked limit with
  | nil =>
      obtain ⟨ha, -⟩ | ⟨n, rest, place, more, -, hvs, -⟩ := h.advance
      · rw [select_over ha]
        exact nil asked limit
      · contradiction
  | cons v vs ih =>
      obtain ⟨-, hvs⟩ | ⟨n, rest, place, more, ha, hvs, hmore⟩ := h.advance
      · contradiction
      injection hvs with hv hvs
      subst hv hvs
      by_cases hl : limit = some 0
      · subst hl
        rw [select_zero]
        exact zero _ _
      rw [select_found ha hl]
      exact cons asked place n vs limit
        (fun accepted limit => (⟨none, if accepted then n.children :: rest else rest⟩ : Walk).select
          opens keep limit) hl (ih hmore)

/-- A whole walk from a node on is that node, if it is kept, and the walk below it. -/
theorem select_from' (root : Node) :
    (from' root).select opens keep none = (do
      let kept ← keep root
      let found ← (below root).select opens keep none
      return if kept then root :: found else found) := by
  have hl : (none : Option Nat) ≠ some 0 := by decide
  unfold from'
  rw [select_start root hl]
  dsimp only
  congr 1
  funext kept
  cases kept <;> simp [below]

end

end Walk

/-! ## tests -/

/-- What the selectors are asked about a node. -/
inductive Test where
  /-- Whether its children come next. -/
  | branch (n : Node)
  /-- Whether it is returned. -/
  | child (n : Node)

/-- A test that was made, its answer, and the state it left. -/
structure Tested (σ : Type) where
  /-- The test. -/
  test : Test
  /-- Its answer. -/
  answer : Bool
  /-- The state after it. -/
  state : σ

variable {σ : Type}

namespace Tested

/-- The node that the test made the walk return, if it was one that does. -/
def returned? (t : Tested σ) : Option Node :=
  match t.test with
  | .branch _ => none
  | .child n => if t.answer then some n else none

/-- The node that the test asked to open, and whether it did, if it was a test of that kind. -/
def opened? (t : Tested σ) : Option (Node × Bool) :=
  match t.test with
  | .branch n => some (n, t.answer)
  | .child _ => none

/-- The nodes that tests made the walk return. -/
def returned (ts : List (Tested σ)) : List Node := ts.filterMap returned?

/-- The state after tests. -/
def final (s : σ) : List (Tested σ) → σ
  | [] => s
  | t :: ts => final t.state ts

/-- The tests up to the one that returns the last node of the limit. -/
def upTo : Option Nat → List (Tested σ) → List (Tested σ)
  | _, [] => []
  | limit, t :: ts =>
    if limit = some 0 then []
    else t :: upTo (if t.returned?.isSome then limit.map (· - 1) else limit) ts

theorem final_append (s : σ) (ts us : List (Tested σ)) :
    final s (ts ++ us) = final (final s ts) us := by
  induction ts generalizing s with
  | nil => rfl
  | cons t ts ih => exact ih t.state

section
variable {t : Tested σ} {ts made : List (Tested σ)} {node : Node} {n : Nat}

theorem returned_of_none (h : t.returned? = none) : returned (t :: ts) = returned ts := by
  simp [returned, h]

theorem returned_of_some (h : t.returned? = some node) :
    returned (t :: ts) = node :: returned ts := by
  simp [returned, h]

theorem upTo_zero (ts : List (Tested σ)) : upTo (some 0) ts = [] := by
  cases ts <;> simp [upTo]

/-- Without a limit, all tests are made. -/
theorem upTo_none (ts : List (Tested σ)) : upTo none ts = ts := by
  induction ts with
  | nil => rfl
  | cons t ts ih => simp [upTo, ih]

theorem upTo_of_none (h : t.returned? = none) :
    upTo (some (n + 1)) (t :: ts) = t :: upTo (some (n + 1)) ts := by
  simp [upTo, h]

theorem upTo_of_some (h : t.returned? = some node) :
    upTo (some (n + 1)) (t :: ts) = t :: upTo (some n) ts := by
  simp [upTo, h]

/-- The tests up to the limit return as many of the nodes. -/
theorem returned_upTo (n : Nat) (ts : List (Tested σ)) :
    returned (upTo (some n) ts) = (returned ts).take n := by
  induction ts generalizing n with
  | nil => simp [upTo, returned]
  | cons t ts ih =>
      cases n with
      | zero =>
          rw [upTo_zero]
          rfl
      | succ n =>
          cases h : t.returned? with
          | none => rw [upTo_of_none h, returned_of_none h, returned_of_none h, ih]
          | some node =>
              rw [upTo_of_some h, returned_of_some h, returned_of_some h, ih, List.take_succ_cons]

/-- The part of some tests that is made if so many nodes are wanted: nothing if none are, everything
if there are too few, and else up to the test that returns the last of them. -/
structure Cut (n : Nat) (all made : List (Tested σ)) : Prop where
  start : made <+: all
  nothing : n = 0 → made = []
  few : (returned all).length < n → made = all
  last : 0 < n → n ≤ (returned all).length →
    ∃ before t, made = before ++ [t] ∧ t.returned?.isSome = true ∧ (returned made).length = n

theorem cut_zero (ts : List (Tested σ)) : Cut 0 ts [] :=
  ⟨List.nil_prefix, fun _ => rfl, nofun, nofun⟩

theorem cut_nil (n : Nat) : Cut n ([] : List (Tested σ)) [] :=
  ⟨List.nil_prefix, fun _ => rfl, fun _ => rfl, fun hn hle => absurd hle (Nat.not_le_of_lt hn)⟩

/-- A test that returns nothing is made if nodes are wanted. -/
theorem Cut.pass (hcut : Cut (n + 1) ts made) (h : t.returned? = none) :
    Cut (n + 1) (t :: ts) (t :: made) := by
  refine ⟨by simpa using hcut.start, nofun, fun hlt => ?_, fun hn hle => ?_⟩
  · rw [returned_of_none h] at hlt
    rw [hcut.few hlt]
  · rw [returned_of_none h] at hle ⊢
    obtain ⟨before, last, hmade, hlast, hlength⟩ := hcut.last hn hle
    exact ⟨t :: before, last, by rw [hmade]; rfl, hlast, hlength⟩

/-- A test that returns a node is made if nodes are wanted, and then one less is. -/
theorem Cut.count (hcut : Cut n ts made) (h : t.returned? = some node) :
    Cut (n + 1) (t :: ts) (t :: made) := by
  refine ⟨by simpa using hcut.start, nofun, fun hlt => ?_, fun hn hle => ?_⟩
  · rw [returned_of_some h] at hlt
    rw [hcut.few (Nat.lt_of_succ_lt_succ hlt)]
  · rw [returned_of_some h] at hle ⊢
    cases n with
    | zero =>
        obtain rfl := hcut.nothing rfl
        exact ⟨[], t, rfl, by rw [h]; rfl, rfl⟩
    | succ n =>
        obtain ⟨before, last, hmade, hlast, hlength⟩ :=
          hcut.last (Nat.succ_pos n) (Nat.le_of_succ_le_succ hle)
        exact ⟨t :: before, last, by rw [hmade]; rfl, hlast, by rw [List.length_cons, hlength]⟩

/-- The tests up to a limit are the part that it leaves. -/
theorem cut_upTo (n : Nat) (ts : List (Tested σ)) : Cut n ts (upTo (some n) ts) := by
  induction ts generalizing n with
  | nil => exact cut_nil n
  | cons t ts ih =>
      cases n with
      | zero =>
          rw [upTo_zero]
          exact cut_zero _
      | succ n =>
          cases h : t.returned? with
          | none =>
              rw [upTo_of_none h]
              exact (ih (n + 1)).pass h
          | some node =>
              rw [upTo_of_some h]
              exact (ih n).count h

end

end Tested

namespace Test

/-- Asks the selector that a test is for. -/
def ask (opens keep : Node → StateM σ Bool) : Test → StateM σ Bool
  | branch n => opens n
  | child n => keep n

/-- Tests made one after the other. -/
def askAll (opens keep : Node → StateM σ Bool) : List Test → σ → List (Tested σ)
  | [], _ => []
  | t :: ts, s =>
    let asked := (t.ask opens keep).run s
    ⟨t, asked.1, asked.2⟩ :: askAll opens keep ts asked.2

/-- The tests of a node that is not the start. -/
def both (n : Node) : List Test := [branch n, child n]

variable {opens keep : Node → StateM σ Bool}

theorem askAll_append (ts us : List Test) (s : σ) :
    askAll opens keep (ts ++ us) s =
      askAll opens keep ts s ++ askAll opens keep us (Tested.final s (askAll opens keep ts s)) := by
  induction ts generalizing s with
  | nil => rfl
  | cons t ts ih => exact congrArg _ (ih _)

/-- The state after tests. -/
def after (opens keep : Node → StateM σ Bool) (s : σ) (ts : List Test) : σ :=
  Tested.final s (askAll opens keep ts s)

theorem after_append (s : σ) (ts us : List Test) :
    after opens keep s (ts ++ us) = after opens keep (after opens keep s ts) us := by
  rw [after, askAll_append, Tested.final_append]
  rfl

end Test

open Test Tested

/-- The computation makes the tests up to the limit, and returns the nodes they let pass. -/
def Serves (opens keep : Node → StateM σ Bool) (limit : Option Nat) (tests : List Test) (s : σ)
    (x : StateM σ (List Node)) : Prop :=
  let made := upTo limit (askAll opens keep tests s)
  x.run s = (returned made, final s made)

section
variable {opens keep : Node → StateM σ Bool} {limit : Option Nat} {tests : List Test} {s : σ}

theorem serves_nil : Serves opens keep limit [] s (pure []) := rfl

theorem serves_zero : Serves opens keep (some 0) tests s (pure []) := by
  unfold Serves
  rw [upTo_zero]
  rfl

theorem serves_branch {n : Node} {k : Bool → StateM σ (List Node)} (hl : limit ≠ some 0)
    (h : Serves opens keep limit tests ((opens n).run s).2 (k ((opens n).run s).1)) :
    Serves opens keep limit (.branch n :: tests) s (opens n >>= k) := by
  simp only [Serves, askAll, upTo, if_neg hl, returned?]
  exact h

/-- A node that is kept is returned, and counts towards the limit. -/
theorem serves_child {n : Node} {x y : StateM σ (List Node)} (hl : limit ≠ some 0)
    (hx : Serves opens keep (limit.map (· - 1)) tests ((keep n).run s).2 x)
    (hy : Serves opens keep limit tests ((keep n).run s).2 y) :
    Serves opens keep limit (.child n :: tests) s (do
      if ← keep n then return n :: (← x) else y) := by
  unfold Serves at *
  change (ite (((keep n).run s).1 = true) (x >>= fun ns => pure (n :: ns)) y).run
    ((keep n).run s).2 = _
  simp only [askAll, ask, upTo, if_neg hl, returned?]
  cases ha : ((keep n).run s).1 with
  | true =>
      change (n :: (x.run ((keep n).run s).2).1, (x.run ((keep n).run s).2).2) = _
      rw [hx]
      rfl
  | false =>
      change y.run ((keep n).run s).2 = _
      rw [hy]
      rfl

end

namespace Walk

open Visit

/-- The answers of the branch selector in a walk that starts in a state, if it and then the child
selector are asked about each node. -/
def follow (opens keep : Node → StateM σ Bool) (s : σ) : BranchSelector := fun asked n =>
  ((opens n).run (after opens keep s (asked.flatMap both))).1

/-- The visits below a start node, after which the state is the given one. -/
def reached (opens keep : Node → StateM σ Bool) (s : σ) (root : Node) : List Visit :=
  visits (follow opens keep s) root

/-- The tests of the walk from a node on. -/
def tests (opens keep : Node → StateM σ Bool) (s : σ) (root : Node) : List Test :=
  let started := after opens keep s [.child root]
  .child root :: (reached opens keep started root).flatMap fun v => both v.node

variable {opens keep : Node → StateM σ Bool} {s : σ}

/-- From a stack on, the tests of the visits to come are made. -/
theorem serves_of_remaining {stack : List (List Node)} {asked : List Node} {vs : List Visit}
    (h : Remaining (follow opens keep s) stack asked vs) (limit : Option Nat) :
    Serves opens keep limit (vs.flatMap fun v => both v.node)
      (after opens keep s (asked.flatMap both))
      ((⟨none, stack⟩ : Walk).select opens keep limit) := by
  refine h.select_induct
    (P := fun asked vs limit x => Serves opens keep limit (vs.flatMap fun v => both v.node)
      (after opens keep s (asked.flatMap both)) x)
    (fun _ _ => serves_zero) (fun _ _ => serves_nil)
    (fun asked place n vs limit rest hl hrest => ?_) limit
  have hstate : ((keep n).run ((opens n).run (after opens keep s (asked.flatMap both))).2).2 =
      after opens keep s ((asked ++ [n]).flatMap both) := by
    rw [List.flatMap_append, after_append]
    rfl
  have hserves (limit : Option Nat) := hstate ▸ hrest limit
  exact serves_branch hl (serves_child hl (hserves _) (hserves _))

/-- A walk from a node on makes its tests, up to the limit. -/
theorem serves_from' (root : Node) (limit : Option Nat) :
    Serves opens keep limit (tests opens keep s root) s
      ((from' root).select opens keep limit) := by
  by_cases hl : limit = some 0
  · subst hl
    rw [select_zero]
    exact serves_zero
  have hremaining : Remaining (follow opens keep (after opens keep s [.child root]))
      [root.children] [] (reached opens keep (after opens keep s [.child root]) root) :=
    remaining_visits root
  have hserves (limit : Option Nat) := serves_of_remaining hremaining limit
  unfold from'
  rw [select_start root hl]
  exact serves_child hl (hserves _) (hserves _)

/-- The branch selector answers in the tests as it does in the visits. -/
theorem opened_of_answered {asked : List Node} {vs : List Visit}
    (h : Answered (follow opens keep s) asked vs) :
    (askAll opens keep (vs.flatMap fun v => both v.node)
      (after opens keep s (asked.flatMap both))).filterMap opened? =
        vs.map fun v => (v.node, v.accepted) := by
  induction vs generalizing asked with
  | nil => rfl
  | cons v vs ih =>
      obtain ⟨hv, hvs⟩ := h
      have hstate : after opens keep s ((asked ++ [v.node]).flatMap both) =
          after opens keep (after opens keep s (asked.flatMap both)) (both v.node) := by
        rw [List.flatMap_append, after_append]
        rfl
      rw [List.flatMap_cons, askAll_append, List.filterMap_append, List.map_cons, hv, ← ih hvs,
        hstate]
      rfl

end Walk

/-- Children are tested one after the other, up to the limit. -/
theorem serves_selectAmong {opens keep : Node → StateM σ Bool} {s : σ} (ns : List Node)
    (limit : Option Nat) :
    Serves opens keep limit (ns.map .child) s (Node.selectAmong keep limit ns) := by
  induction ns generalizing limit s with
  | nil => exact serves_nil
  | cons n ns ih =>
      rw [Node.selectAmong]
      split
      · next hl =>
        subst hl
        exact serves_zero
      · next hl => exact serves_child hl (ih _) (ih _)

end TreeSift
