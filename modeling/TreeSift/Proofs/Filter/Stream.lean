import TreeSift.Filter.Stream
import TreeSift.Proofs.Content.Select
import TreeSift.Proofs.Expr.RoundTrip
import TreeSift.Proofs.Filter.Logged

/-!
# TreeSift.Proofs.Filter.Stream

The tests that a stream makes, and the nodes it returns (`Stream.yields_tests`).

1. The strategies and functions of the context may keep a state.  What a stream does to it is what
   the tests it makes do to it, so that the calls can be read off if the state is their list.
2. The tests are those of `Walk.tests`, or if only the children are listed, the child selector's test
   of each of them.
3. `Filter.compile_of_writable` gives the filter of a text without reading it, for examples.
-/

namespace TreeSift

/-- The text of an expression compiles to the filter of the expression. -/
theorem Filter.compile_of_writable {m : Type → Type} [Monad m] {context : Context m} {e : Expr}
    {p : Predicate m} {role : Expr.Role} (text : String) (hw : Expr.Writable role e)
    (ht : e.render = text.toList) (hp : e.compile context = .ok p) :
    Filter.compile text context = .ok ⟨text, context, p⟩ := by
  have hread : Expr.ofText text.toList = .ok e := ht ▸ Expr.ofText_of_restored (Expr.restored hw)
  unfold Filter.compile
  rw [hread]
  change (e.compile context >>= fun p => _) = _
  rw [hp]
  rfl

namespace Stream

open Walk Test Tested Visit

section
variable {m : Type → Type} [Monad m] {s : Stream m} {branch child : Option (Filter m)}

/-- With filters for its selectors a stream selects from the walk from its start on. -/
theorem nodes_eq_ok (hb : s.filter? s.branch = .ok branch) (hc : s.filter? s.child = .ok child)
    (limit : Option Nat) : { s with limit := limit }.nodes =
      .ok ((from' s.root).select (accepts branch) (accepts child) limit) := by
  change (s.filter? s.branch >>= fun b => s.filter? s.child >>= fun c => _) = _
  rw [hb, hc]
  rfl

/-- With a filter for its child selector it selects among the children. -/
theorem children_eq_ok (hc : s.filter? s.child = .ok child) (limit : Option Nat) :
    { s with limit := limit }.children =
      .ok (Node.selectAmong (accepts child) limit s.root.children) := by
  change (s.filter? s.child >>= fun c => _) = _
  rw [hc]
  rfl

end

variable {σ : Type} {s : Stream (StateM σ)} {branch child : Option (Filter (StateM σ))}

/-- From the first state on the nodes are returned, and the second state is left. -/
def Yields (x : Except FilterError (StateM σ (List Node))) (st : σ) (ns : List Node) (st' : σ) :
    Prop :=
  x.map (fun run => run.run st) = .ok (ns, st')

theorem yields_of_serves {opens keep : Node → StateM σ Bool} {limit : Option Nat}
    {tests : List Test} {st : σ} {x : StateM σ (List Node)}
    (h : Serves opens keep limit tests st x) :
    let made := upTo limit (askAll opens keep tests st)
    Yields (.ok x) st (returned made) (final st made) :=
  congrArg Except.ok h

/-- **A stream makes the tests of the pruned walk, up to its limit.**  The start is tested by the
child selector alone.  Below it, visits are in pre-order, one for each place that is reached through
opened nodes only, and each of them is tested by the branch selector and then by the child selector.
Without a limit all tests are made; the nodes that pass the child selector are returned, and the
state is what the tests leave.  A limit takes the first of these nodes, and the tests that are made
end with the one that returns the last of them.  It does the same to the children, of which only the
child selector is asked. -/
theorem yields_tests (hb : s.filter? s.branch = .ok branch) (hc : s.filter? s.child = .ok child)
    (st : σ) :
    let opens := accepts branch
    let keep := accepts child
    let visits := reached opens keep (after opens keep st [.child s.root]) s.root
    let walk := askAll opens keep
      (.child s.root :: visits.flatMap fun v => [.branch v.node, .child v.node]) st
    let listing := askAll opens keep (s.root.children.map .child) st
    ((visits.map place).Pairwise (· < ·) ∧
      (∀ v ∈ visits, s.root.at? v.place = some v.node) ∧
      (∀ p, (∃ v ∈ visits, v.place = p) ↔ p ≠ [] ∧ (s.root.at? p).isSome = true ∧
        ∀ q, q <+: p → q ≠ [] → q ≠ p → ∃ w ∈ visits, w.place = q ∧ w.accepted = true) ∧
      walk.filterMap opened? = visits.map fun v => (v.node, v.accepted)) ∧
    (Yields { s with limit := none }.nodes st (returned walk) (final st walk) ∧
      ∀ n, Cut n walk (upTo (some n) walk) ∧
        Yields { s with limit := some n }.nodes st ((returned walk).take n)
          (final st (upTo (some n) walk))) ∧
    (Yields { s with limit := none }.children st (returned listing) (final st listing) ∧
      ∀ n, Cut n listing (upTo (some n) listing) ∧
        Yields { s with limit := some n }.children st ((returned listing).take n)
          (final st (upTo (some n) listing))) ∧
    ∀ b, { s with branch := b }.children = s.children := by
  intro opens keep visits walk listing
  have hnodes (limit : Option Nat) : Yields { s with limit := limit }.nodes st
      (returned (upTo limit walk)) (final st (upTo limit walk)) := by
    rw [nodes_eq_ok hb hc]
    exact yields_of_serves (serves_from' s.root limit)
  have hchildren (limit : Option Nat) : Yields { s with limit := limit }.children st
      (returned (upTo limit listing)) (final st (upTo limit listing)) := by
    rw [children_eq_ok hc]
    exact yields_of_serves (serves_selectAmong s.root.children limit)
  refine ⟨⟨ordered_visitAll _ _ _ _, fun v hv => (at?_of_mem_visits hv).2, fun p => visited_iff,
    opened_of_answered (answered_visitAll _ _ _ _)⟩, ⟨?_, fun n => ⟨cut_upTo n walk, ?_⟩⟩,
    ⟨?_, fun n => ⟨cut_upTo n listing, ?_⟩⟩, fun b => rfl⟩
  · simpa [upTo_none] using hnodes none
  · rw [← returned_upTo]
    exact hnodes (some n)
  · simpa [upTo_none] using hchildren none
  · rw [← returned_upTo]
    exact hchildren (some n)

/-! ## a stream of four nodes -/

/-- `[name] == n`. -/
def check (name : String) (n : Int64) : Expr := .comparison .eq (.path [name]) (.literal (.long n))

/-- A node to open, with a child. -/
def opened : Node :=
  ⟨"a", "/a", [("keep", .long 2), ("open", .long 1)], [⟨"b", "/a/b", [("keep", .long 2)], []⟩]⟩

/-- A tree with one node to open and one to leave closed. -/
def openedAndClosed : Node :=
  ⟨"", "/", [("keep", .long 2)], [opened, ⟨"c", "/c", [("keep", .long 2)], []⟩]⟩

/-- A stream that writes its calls down. -/
def watched : Stream (StateM (List Call)) where
  root := openedAndClosed
  context := (Context.standard : Context Id).logged
  branch := some (.text "[open] == 1")
  child := some (.text "[keep] == 2")

theorem writable_check (name : String) (n : Int64) (h : Lexeme.IsSegment name.toList) :
    Expr.Writable .condition (check name n) :=
  .comparison (.path (by simp) (by simpa using h)) (.literal (.long n)) (by simp)

/-- Of a tree with four nodes that are kept, the first two are returned, and the calls for them are
all that are made. -/
theorem yields_tests_watched : ∃ branch child,
    watched.filter? watched.branch = .ok branch ∧ watched.filter? watched.child = .ok child ∧
    Yields { watched with limit := some 2 }.nodes [] [openedAndClosed, opened]
      [.comparison .eq (.long 2) (.long 2), .comparison .eq (.long 1) (.long 1),
        .comparison .eq (.long 2) (.long 2)] := by
  obtain ⟨p, hp⟩ : ∃ p, (check "open" 1).compile watched.context = .ok p := ⟨_, rfl⟩
  obtain ⟨q, hq⟩ : ∃ q, (check "keep" 2).compile watched.context = .ok q := ⟨_, rfl⟩
  have hb : watched.filter? watched.branch = .ok (some ⟨"[open] == 1", watched.context, p⟩) :=
    congrArg (Except.map some) (Filter.compile_of_writable "[open] == 1"
      (writable_check "open" 1 (by decide)) (by decide) hp)
  have hc : watched.filter? watched.child = .ok (some ⟨"[keep] == 2", watched.context, q⟩) :=
    congrArg (Except.map some) (Filter.compile_of_writable "[keep] == 2"
      (writable_check "keep" 2 (by decide)) (by decide) hq)
  have h := ((yields_tests (s := watched) hb hc []).2.1.2 2).2
  cases hp
  cases hq
  exact ⟨_, _, hb, hc, h⟩

end Stream

end TreeSift
