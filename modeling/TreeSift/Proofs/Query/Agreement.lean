import TreeSift.CommandLine.Run
import TreeSift.Proofs.Filter.Stream

/-!
# TreeSift.Proofs.Query.Agreement

The ways to select nodes agree (`Query.select_agree`).

1. The stream of a query and what it selects below a node have the same two filters, compiled in the
   same order (`Query.filters?`).  The stream asks about the start, and is then the walk below it.
2. The filters of a query have no state, so what is selected is a filtered list: of the visits below
   the start, or of its children.  A limit takes the first of that list (`Query.results_eq`).
3. The children are the visits that are one step below the start (`Visit.children_of_visits`).
   Whether they are opened makes no difference.
-/

namespace TreeSift

/-- The first elements of a list, so many as a limit allows. -/
def atMost {α : Type} (limit : Option Nat) (as : List α) : List α :=
  match limit with
  | none => as
  | some n => as.take n

theorem atMost_zero {α : Type} (as : List α) : atMost (some 0) as = [] := rfl

theorem atMost_nil {α : Type} (limit : Option Nat) : atMost limit ([] : List α) = [] := by
  cases limit with
  | none => rfl
  | some n => exact List.take_nil

theorem atMost_cons {α : Type} {limit : Option Nat} (hl : limit ≠ some 0) (a : α) (as : List α) :
    atMost limit (a :: as) = a :: atMost (limit.map (· - 1)) as := by
  cases limit with
  | none => rfl
  | some n =>
      cases n with
      | zero => contradiction
      | succ n => rfl

theorem map_atMost {α β : Type} (f : α → β) (limit : Option Nat) (as : List α) :
    (atMost limit as).map f = atMost limit (as.map f) := by
  cases limit with
  | none => rfl
  | some n => exact List.map_take

/-! ## selectors that keep no state -/

/-- The nodes that a selector keeps. -/
def kept (keep : Node → Id Bool) (ns : List Node) : List Node := ns.filter fun n => (keep n).run

section
variable {opens keep : Node → Id Bool} {limit : Option Nat}

/-- One node is kept or not, and then the others are. -/
theorem run_keep {n : Node} {ns : List Node} {x : Option Nat → Id (List Node)}
    (hl : limit ≠ some 0) (h : ∀ limit, (x limit).run = atMost limit (kept keep ns)) :
    Id.run (do if ← keep n then return n :: (← x (limit.map (· - 1))) else x limit) =
      atMost limit (kept keep (n :: ns)) := by
  change Id.run (ite ((keep n).run = true) _ _) = _
  cases hk : (keep n).run with
  | true =>
      have hkept : kept keep (n :: ns) = n :: kept keep ns := List.filter_cons_of_pos hk
      rw [hkept, atMost_cons hl, ← h]
      rfl
  | false =>
      have hkept : kept keep (n :: ns) = kept keep ns := List.filter_cons_of_neg (by simp [hk])
      rw [hkept, ← h]
      rfl

/-- What is selected are the visits to come that are kept. -/
theorem Walk.select_of_remaining {stack : List (List Node)} {asked : List Node} {vs : List Visit}
    (h : Remaining (fun _ n => (opens n).run) stack asked vs) (limit : Option Nat) :
    ((⟨none, stack⟩ : Walk).select opens keep limit).run =
      atMost limit (kept keep (vs.map Visit.node)) := by
  refine h.select_induct
    (P := fun _ vs limit x => Id.run x = atMost limit (kept keep (vs.map Visit.node)))
    (fun _ _ => rfl) (fun _ limit => (atMost_nil limit).symm) ?_ limit
  intro asked place n vs limit after hl hafter
  exact run_keep hl hafter

/-- The visits below a node, if its selector keeps no state. -/
def visitsBelow (opens : Node → Id Bool) (root : Node) : List Visit :=
  Visit.visits (fun _ n => (opens n).run) root

theorem Walk.select_below_id (root : Node) (limit : Option Nat) :
    ((below root).select opens keep limit).run =
      atMost limit (kept keep ((visitsBelow opens root).map Visit.node)) :=
  select_of_remaining (remaining_visits root) limit

theorem Walk.select_from'_id (root : Node) (limit : Option Nat) :
    ((from' root).select opens keep limit).run =
      atMost limit (kept keep (root :: (visitsBelow opens root).map Visit.node)) := by
  by_cases hl : limit = some 0
  · subst hl
    rw [select_zero, atMost_zero]
    rfl
  unfold from'
  rw [select_start root hl]
  exact run_keep hl (select_below_id root)

theorem Node.selectAmong_id (ns : List Node) (limit : Option Nat) :
    (selectAmong keep limit ns).run = atMost limit (kept keep ns) := by
  induction ns generalizing limit with
  | nil => exact (atMost_nil limit).symm
  | cons n ns ih =>
      rw [selectAmong]
      split
      · next hl =>
        subst hl
        rw [atMost_zero]
        rfl
      · next hl => exact run_keep hl ih

end

/-! ## the children among the nodes below -/

namespace Visit

variable {σ : BranchSelector}

/-- Of the visits from some siblings on, those of the siblings have the shortest places. -/
theorem children_of_visitAll (ns asked : List Node) (place : List Nat) (i : Nat) :
    ((visitAll σ asked place i ns).filter
      fun v => decide (v.place.length = place.length + 1)).map node = ns := by
  induction ns generalizing asked i with
  | nil => rfl
  | cons n ns ih =>
      have hdeeper : ∀ v ∈ visitAll σ (asked ++ [n]) (place ++ [i]) 0 n.children,
          ¬decide (v.place.length = place.length + 1) = true := by
        intro v hv
        obtain ⟨j, p, c, hp, -, -⟩ := at?_of_mem_visitAll n.children hv
        simp [hp]
      have hfirst : (visit σ asked (place ++ [i]) n).filter
          (fun v => decide (v.place.length = place.length + 1)) =
            [⟨place ++ [i], n, σ asked n⟩] := by
        rw [visit_eq, List.filter_cons_of_pos (by simp)]
        split
        · rw [List.filter_eq_nil_iff.mpr hdeeper]
        · rfl
      rw [visitAll, List.filter_append, List.map_append, hfirst, ih]
      rfl

/-- The children of a node are what is visited one step below it. -/
theorem children_of_visits (root : Node) :
    ((visits σ root).filter fun v => decide (v.place.length = 1)).map node = root.children :=
  children_of_visitAll root.children [] [] 0

end Visit

/-! ## the filters of a query -/

namespace Query

/-- Selected nodes, or why a selector is no filter. -/
abbrev Selected (m : Type → Type) := Except FilterError (m (List Node))

section
variable {m : Type → Type} [Monad m] {q : Query} {root : Node}

/-- A stream has the filters that the query has on its own. -/
theorem filter?_stream (selector : Option String) :
    (q.stream root : Stream m).filter? (selector.map .text) = q.filter? selector := by
  cases selector <;> rfl

/-- The filters of both selectors, the branch selector's first. -/
def filters? (q : Query) : Except FilterError (Option (Filter m) × Option (Filter m)) := do
  let branch ← q.branchFilter?
  let child ← q.childFilter?
  return (branch, child)

theorem select_stream : (q.select .stream root : Selected m) =
    q.filters?.map fun f =>
      (Walk.from' root).select (Stream.accepts f.1) (Stream.accepts f.2) q.limit := by
  change ((q.stream root : Stream m).filter? (q.branch.map .text) >>= fun branch =>
    (q.stream root : Stream m).filter? (q.child.map .text) >>= fun child => _) = _
  rw [filter?_stream, filter?_stream]
  unfold filters? branchFilter? childFilter?
  cases (q.filter? q.branch : Except FilterError (Option (Filter m))) with
  | error e => rfl
  | ok branch => cases (q.filter? q.child : Except FilterError (Option (Filter m))) <;> rfl

theorem select_descendants : (q.select .descendants root : Selected m) =
    q.filters?.map fun f =>
      (Walk.below root).select (Stream.accepts f.1) (Stream.accepts f.2) q.limit := by
  unfold select descendants filters?
  dsimp only
  cases (q.branchFilter? : Except FilterError (Option (Filter m))) with
  | error e => rfl
  | ok branch => cases (q.childFilter? : Except FilterError (Option (Filter m))) <;> rfl

theorem select_children : (q.select .children root : Selected m) =
    q.childFilter?.map fun child =>
      Node.selectAmong (Stream.accepts child) q.limit root.children := by
  change ((q.stream root : Stream m).filter? (q.child.map .text) >>= fun child => _) = _
  rw [filter?_stream]
  unfold childFilter?
  cases (q.filter? q.child : Except FilterError (Option (Filter m))) <;> rfl

end

section
variable {m : Type → Type} [Monad m] {q : Query} {branch child : Option (Filter m)}
  {e : FilterError}

theorem filters?_of_branch_error
    (hb : (q.branchFilter? : Except FilterError (Option (Filter m))) = .error e) :
    (q.filters? : Except FilterError (Option (Filter m) × Option (Filter m))) = .error e := by
  unfold filters?
  rw [hb]
  rfl

theorem filters?_of_child_error (hb : q.branchFilter? = .ok branch)
    (hc : (q.childFilter? : Except FilterError (Option (Filter m))) = .error e) :
    (q.filters? : Except FilterError (Option (Filter m) × Option (Filter m))) = .error e := by
  unfold filters?
  rw [hb, hc]
  rfl

theorem filters?_of_ok (hb : q.branchFilter? = .ok branch) (hc : q.childFilter? = .ok child) :
    q.filters? = .ok (branch, child) := by
  unfold filters?
  rw [hb, hc]
  rfl

end

/-! ## results -/

/-- The nodes that a query selects, as its own context has no effects. -/
def results (q : Query) (mode : Mode) (root : Node) : Except FilterError (List Node) :=
  (q.select mode root : Selected Id).map Id.run

/-- What a query selects if it has no limit. -/
def unlimited (q : Query) (mode : Mode) (root : Node) : Except FilterError (List Node) :=
  match mode with
  | .stream => q.filters?.map fun f =>
    kept (Stream.accepts f.2) (root :: (visitsBelow (Stream.accepts f.1) root).map Visit.node)
  | .children => q.childFilter?.map fun child => kept (Stream.accepts child) root.children
  | .descendants => q.filters?.map fun f =>
    kept (Stream.accepts f.2) ((visitsBelow (Stream.accepts f.1) root).map Visit.node)

/-- A limit takes the first of the nodes that there are without one. -/
theorem results_eq (q : Query) (mode : Mode) (root : Node) :
    q.results mode root = (q.unlimited mode root).map (atMost q.limit) := by
  unfold results unlimited
  cases mode with
  | stream =>
      rw [select_stream]
      cases (q.filters? : Except FilterError (Option (Filter Id) × Option (Filter Id))) with
      | error e => rfl
      | ok f => exact congrArg Except.ok (Walk.select_from'_id root q.limit)
  | children =>
      rw [select_children]
      cases (q.childFilter? : Except FilterError (Option (Filter Id))) with
      | error e => rfl
      | ok child => exact congrArg Except.ok (Node.selectAmong_id root.children q.limit)
  | descendants =>
      rw [select_descendants]
      cases (q.filters? : Except FilterError (Option (Filter Id) × Option (Filter Id))) with
      | error e => rfl
      | ok f => exact congrArg Except.ok (Walk.select_below_id root q.limit)

theorem results_of_no_limit (q : Query) (mode : Mode) (root : Node) :
    { q with limit := none }.results mode root = q.unlimited mode root := by
  rw [results_eq]
  change (q.unlimited mode root).map id = _
  cases q.unlimited mode root <;> rfl

/-- Both what lies below a node and its children come from the same list of places. -/
theorem exists_found {q : Query} {root : Node} {branch child : Option (Filter Id)}
    (hb : q.branchFilter? = .ok branch) (hc : q.childFilter? = .ok child) :
    ∃ found : List (List Nat × Node),
      (found.map Prod.fst).Pairwise (· < ·) ∧ (∀ x ∈ found, root.at? x.1 = some x.2) ∧
      { q with limit := none }.results .descendants root = .ok (found.map Prod.snd) ∧
      { q with limit := none }.results .children root =
        .ok ((found.filter fun x => x.1.length = 1).map Prod.snd) := by
  let keep := Stream.accepts child
  let vs := visitsBelow (Stream.accepts branch) root
  refine ⟨(vs.filter fun v => (keep v.node).run).map fun v => (v.place, v.node), ?_, ?_, ?_, ?_⟩
  · rw [List.map_map]
    exact (Visit.ordered_visitAll root.children [] [] 0).sublist (List.filter_sublist.map _)
  · intro x hx
    obtain ⟨v, hv, rfl⟩ := List.mem_map.mp hx
    exact (Visit.at?_of_mem_visits (List.mem_of_mem_filter hv)).2
  · rw [results_of_no_limit, unlimited, filters?_of_ok hb hc, List.map_map]
    refine congrArg Except.ok ?_
    change (vs.map Visit.node).filter (fun n => (keep n).run) = _
    rw [List.filter_map]
    rfl
  · rw [results_of_no_limit, unlimited, hc]
    refine congrArg Except.ok ?_
    change root.children.filter (fun n => (keep n).run) = _
    have hchildren : (vs.filter fun v => decide (v.place.length = 1)).map Visit.node =
        root.children := Visit.children_of_visits root
    rw [← hchildren, List.filter_map, List.filter_map, List.map_map, List.filter_filter,
      List.filter_filter]
    refine congrArg _ (List.filter_congr fun v _ => ?_)
    exact Bool.and_comm _ _

/-! ## filters and runs -/

/-- A filter selects as the stream does that has it for its child selector and nothing else. -/
theorem nodes_of_compile {m : Type → Type} [Monad m] [LawfulMonad m] {root : Node}
    {selector : Selector} {context : Context m} {f : Filter m}
    (hf : selector.compile context = .ok f) :
    let s : Stream m := { root, context, child := some selector }
    s.nodes = .ok (f.selectSubtree root) ∧ s.children = .ok (f.selectChildren root) ∧
      f.selectSubtree root = (do
        let kept ← f.test root
        let found ← f.selectDescendants root
        return if kept then root :: found else found) := by
  intro s
  have hb : s.filter? s.branch = .ok none := rfl
  have hc : s.filter? s.child = .ok (some f) := congrArg (Except.map some) hf
  exact ⟨Stream.nodes_eq_ok hb hc none, Stream.children_eq_ok hc none, Walk.select_from' root⟩

section
variable {io : Type → Type} [Monad io]

/-- The lines for what was found. -/
def printed (format : CommandLine.OutputFormat) (found : Except FilterError (List Node)) :
    CommandLine.Step io (List String) :=
  match found with
  | .ok ns => return ns.map (CommandLine.line format)
  | .error e => throw (.selector e)

theorem printed_atMost (format : CommandLine.OutputFormat) (limit : Option Nat)
    (found : Except FilterError (List Node)) :
    (printed format (found.map (atMost limit)) : CommandLine.Step io (List String)) =
      match found with
      | .ok ns => return atMost limit (ns.map (CommandLine.line format))
      | .error e => throw (.selector e) := by
  cases found with
  | error e => rfl
  | ok ns => exact congrArg pure (map_atMost _ _ _)

variable (readFile : String → io (Option (List UInt8))) (a : CommandLine.Arguments)

/-- A run ends with what its query selects. -/
theorem lines_eq_printed : CommandLine.lines readFile a = (do
    let t ← CommandLine.loadContent readFile a
    let root ← CommandLine.startNode t a
    let q ← CommandLine.buildQuery readFile a
    printed a.format (q.results a.mode root)) := by
  unfold CommandLine.lines results
  congr 1
  funext t
  congr 1
  funext root
  congr 1
  funext q
  cases (q.select a.mode root : Selected Id) <;> rfl

/-- The lines of a run are the first of those that there are without the limit. -/
theorem lines_eq : CommandLine.lines readFile a = (do
    let t ← CommandLine.loadContent readFile a
    let root ← CommandLine.startNode t a
    let q ← CommandLine.buildQuery readFile a
    match { q with limit := none }.results a.mode root with
    | .ok ns => return atMost q.limit (ns.map (CommandLine.line a.format))
    | .error e => throw (.selector e)) := by
  simp only [results_of_no_limit]
  simp only [lines_eq_printed, results_eq, printed_atMost]

end

/-- **The ways to select nodes agree.**  If a selector is no filter, both the stream and what lies
below the start fail, with the fault of the branch selector if it has one.  Else the stream is the
start, if it is kept, before what lies below.  That comes from places in pre-order, and the children
that are selected are those of its nodes whose place is one step long.  A filter on its own selects
what the stream does that has it for its child selector and no branch selector, its children those
of that stream, and what lies below the start the same without the start.  A limit takes the first
of the nodes in each mode, and of the lines of a run. -/
theorem select_agree {m : Type → Type} [Monad m] [LawfulMonad m] (q : Query) (root : Node) :
    ((∀ e, (q.branchFilter? : Except FilterError (Option (Filter m))) = .error e →
        (q.select .stream root : Selected m) = .error e ∧
        (q.select .descendants root : Selected m) = .error e) ∧
      (∀ branch e, (q.branchFilter? : Except FilterError (Option (Filter m))) = .ok branch →
        (q.childFilter? : Except FilterError (Option (Filter m))) = .error e →
        (q.select .stream root : Selected m) = .error e ∧
        (q.select .descendants root : Selected m) = .error e) ∧
      ∀ branch child, (q.branchFilter? : Except FilterError (Option (Filter m))) = .ok branch →
        (q.childFilter? : Except FilterError (Option (Filter m))) = .ok child →
        ∃ below : m (List Node),
          { q with limit := none }.select .descendants root = .ok below ∧
          { q with limit := none }.select .stream root = .ok (do
            let kept ← Stream.accepts child root
            let found ← below
            return if kept then root :: found else found)) ∧
    (∀ branch child, (q.branchFilter? : Except FilterError (Option (Filter Id))) = .ok branch →
      (q.childFilter? : Except FilterError (Option (Filter Id))) = .ok child →
      ∃ found : List (List Nat × Node),
        (found.map Prod.fst).Pairwise (· < ·) ∧ (∀ x ∈ found, root.at? x.1 = some x.2) ∧
        { q with limit := none }.results .descendants root = .ok (found.map Prod.snd) ∧
        { q with limit := none }.results .children root =
          .ok ((found.filter fun x => x.1.length = 1).map Prod.snd)) ∧
    (∀ (selector : Selector) (context : Context m) (f : Filter m),
      selector.compile context = .ok f →
      let s : Stream m := { root, context, child := some selector }
      s.nodes = .ok (f.selectSubtree root) ∧ s.children = .ok (f.selectChildren root) ∧
      f.selectSubtree root = (do
        let kept ← f.test root
        let found ← f.selectDescendants root
        return if kept then root :: found else found)) ∧
    (∀ mode n, { q with limit := some n }.results mode root =
      ({ q with limit := none }.results mode root).map (List.take n)) ∧
    ∀ {io : Type → Type} [Monad io] (readFile : String → io (Option (List UInt8)))
      (a : CommandLine.Arguments), CommandLine.lines readFile a = (do
        let t ← CommandLine.loadContent readFile a
        let root ← CommandLine.startNode t a
        let q ← CommandLine.buildQuery readFile a
        match { q with limit := none }.results a.mode root with
        | .ok ns => return atMost q.limit (ns.map (CommandLine.line a.format))
        | .error e => throw (.selector e)) := by
  refine ⟨⟨fun e hb => ?_, fun branch e hb hc => ?_, fun branch child hb hc => ?_⟩,
    fun branch child hb hc => exists_found hb hc, fun selector context f hf => ?_, fun mode n => ?_,
    fun readFile a => ?_⟩
  · rw [select_stream, select_descendants, filters?_of_branch_error hb]
    exact ⟨rfl, rfl⟩
  · rw [select_stream, select_descendants, filters?_of_child_error hb hc]
    exact ⟨rfl, rfl⟩
  · have hf : ({ q with limit := none } : Query).filters? = .ok (branch, child) :=
      filters?_of_ok hb hc
    rw [select_stream, select_descendants, hf]
    exact ⟨_, rfl, congrArg Except.ok (Walk.select_from' root)⟩
  · exact nodes_of_compile hf
  · rw [results_of_no_limit]
    exact results_eq _ mode root
  · exact lines_eq readFile a

/-- A query that opens the nodes marked so, and keeps those marked so. -/
def openAndKeep : Query := { branch := some "[open] == 1", child := some "[keep] == 2" }

/-- The start is kept, so it comes before what lies below, and alone if one node is wanted. -/
theorem select_agree_openAndKeep : ∃ below : List Node,
    openAndKeep.results .descendants Stream.openedAndClosed = .ok below ∧
    openAndKeep.results .stream Stream.openedAndClosed = .ok (Stream.openedAndClosed :: below) ∧
    { openAndKeep with limit := some 1 }.results .stream Stream.openedAndClosed =
      .ok [Stream.openedAndClosed] := by
  obtain ⟨p, hp⟩ : ∃ p, (Stream.check "open" 1).compile
      (openAndKeep.context : Context Id) = .ok p := ⟨_, rfl⟩
  obtain ⟨p', hp'⟩ : ∃ p', (Stream.check "keep" 2).compile
      (openAndKeep.context : Context Id) = .ok p' := ⟨_, rfl⟩
  have hb : openAndKeep.branchFilter? = .ok (some ⟨"[open] == 1", openAndKeep.context, p⟩) :=
    congrArg (Except.map some) (Filter.compile_of_writable "[open] == 1"
      (Stream.writable_check "open" 1 (by decide)) (by decide) hp)
  have hc : openAndKeep.childFilter? = .ok (some ⟨"[keep] == 2", openAndKeep.context, p'⟩) :=
    congrArg (Except.map some) (Filter.compile_of_writable "[keep] == 2"
      (Stream.writable_check "keep" 2 (by decide)) (by decide) hp')
  obtain ⟨⟨-, -, hok⟩, -, -, hlimit, -⟩ := select_agree (m := Id) openAndKeep Stream.openedAndClosed
  obtain ⟨below, hbelow, hstream⟩ := hok _ _ hb hc
  cases hp'
  have hnodes : openAndKeep.results .stream Stream.openedAndClosed =
      .ok (Stream.openedAndClosed :: below.run) := congrArg (Except.map Id.run) hstream
  refine ⟨below.run, congrArg (Except.map Id.run) hbelow, hnodes, ?_⟩
  rw [hlimit]
  exact congrArg (Except.map (List.take 1)) hnodes

end Query

end TreeSift
