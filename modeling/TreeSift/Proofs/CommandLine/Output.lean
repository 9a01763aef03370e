import TreeSift.CommandLine.Execute
import TreeSift.Proofs.Query.Agreement

/-!
# TreeSift.Proofs.CommandLine.Output

What a run writes is all or nothing (`CommandLine.execute_all_or_nothing`).

1. A run writes a line for each node as soon as the node is found.  Filters without effects say the
   same whatever was written, so a run goes through the results of its query (`Query.forEach_eq`).
2. A run that records what it writes, with files that stay as they are, is compared step by step
   with the lines of a run, where nothing is written.  Each step before the first node gives the same
   and writes nothing (`Silent`); the last one writes the lines (`Prints`).
3. So a run that writes as it goes writes what it would at the end (`execute_eq_run`): nothing if it
   fails, and else the lines.  Where there are lines, there is all that they come from (`Success`).
-/

namespace TreeSift

/-! ## handing over what is selected -/

section
variable {m : Type → Type} [Monad m] [LawfulMonad m] {opens keep : Node → Id Bool}
  {use : Node → m Unit}

/-- An answer that takes no effects, as a step among others. -/
def still (f : Node → Id Bool) (n : Node) : m Bool := pure (f n).run

theorem Walk.next_still (opens : Node → Id Bool) (w : Walk) :
    w.next (still opens : Node → m Bool) = pure (w.next opens).run := by
  obtain ⟨start, stack⟩ := w
  cases start with
  | some root => simp [next, pull]
  | none =>
      unfold next pull
      dsimp only
      split
      · simp
      · next n after h =>
        have hanswer : opens n = pure (opens n).run := rfl
        rw [still, hanswer]
        cases (opens n).run <;> simp

/-- Handing over the nodes of a walk is going through those it selects. -/
theorem Walk.forEach_still (w : Walk) (limit : Option Nat) :
    w.forEach (still opens) (still keep) use limit =
      (w.select opens keep limit).run.forM use := by
  induction hw : w.weight using Nat.strong_induction_on generalizing w limit with
  | _ size ih =>
    rw [forEach, select, next_still, pure_bind]
    split
    · rfl
    · obtain ⟨found, hfound⟩ : ∃ found, w.next opens = pure found := ⟨_, rfl⟩
      rw [hfound, pure_bind, Id.run_pure]
      cases found with
      | none => rfl
      | some found =>
          obtain ⟨n, v⟩ := found
          have hanswer : keep n = pure (keep n).run := rfl
          have hlighter : v.val.weight < size := hw ▸ v.2
          dsimp only
          rw [still, hanswer]
          cases (keep n).run with
          | true =>
              have hmore := ih _ hlighter v.val (limit.map (· - 1)) rfl
              simp [hmore]
          | false =>
              have hmore := ih _ hlighter v.val limit rfl
              simp [hmore]

theorem Node.forEachAmong_still (ns : List Node) (limit : Option Nat) :
    forEachAmong (still keep) use limit ns = (selectAmong keep limit ns).run.forM use := by
  induction ns generalizing limit with
  | nil => rfl
  | cons n ns ih =>
      rw [forEachAmong, selectAmong]
      split
      · rfl
      · have hanswer : keep n = pure (keep n).run := rfl
        rw [still, hanswer]
        cases (keep n).run <;> simp [ih]

/-- Handing over the nodes of a query is going through its results. -/
theorem Query.forEach_eq (q : Query) (mode : Mode) (root : Node) :
    q.forEach mode root =
      (q.results mode root).map fun ns (use : Node → m Unit) => ns.forM use := by
  have walked (w : Walk) :
      (do
        let branch ← q.branchFilter?
        let child ← q.childFilter?
        return fun use => w.forEach (test branch) (test child) use q.limit) =
      ((q.filters?.map fun f =>
        w.select (Stream.accepts f.1) (Stream.accepts f.2) q.limit).map Id.run).map
          fun ns (use : Node → m Unit) => ns.forM use := by
    unfold filters?
    cases (q.branchFilter? : Except FilterError (Option (Filter Id))) with
    | error e => rfl
    | ok branch =>
        cases (q.childFilter? : Except FilterError (Option (Filter Id))) with
        | error e => rfl
        | ok child => exact congrArg Except.ok (funext fun use => Walk.forEach_still w q.limit)
  unfold results
  cases mode with
  | stream =>
      rw [select_stream]
      exact walked (Walk.from' root)
  | children =>
      rw [select_children]
      unfold forEach
      dsimp only
      cases (q.childFilter? : Except FilterError (Option (Filter Id))) with
      | error e => rfl
      | ok child => exact congrArg Except.ok (funext fun use => Node.forEachAmong_still _ _)
  | descendants =>
      rw [select_descendants]
      exact walked (Walk.below root)

end

/-! ## what is written is recorded -/

namespace CommandLine

/-- Steps that keep what was written so far. -/
abbrev Recording := StateM String

/-- The files there are, read as they are whatever else is done. -/
def readOf {m : Type → Type} [Monad m] (files : String → Option (List UInt8)) (path : String) :
    m (Option (List UInt8)) :=
  pure (files path)

/-- Text put at the end of what was written. -/
def recordWrite (text : String) : Recording Unit := modify (· ++ text)

/-- The text of some lines. -/
def textOf (ls : List String) : String := String.join (ls.map (· ++ "\n"))

theorem append_textOf_nil (written : String) : written ++ textOf [] = written :=
  String.append_empty

theorem textOf_cons (l : String) (ls : List String) : textOf (l :: ls) = l ++ "\n" ++ textOf ls :=
  String.join_cons

theorem run_writeLines {α : Type} (f : α → String) (as : List α) (written : String) :
    (as.forM fun a => writeLine recordWrite (f a)).run written =
      ((), written ++ textOf (as.map f)) := by
  induction as generalizing written with
  | nil =>
      rw [List.map_nil, append_textOf_nil]
      rfl
  | cons a as ih =>
      have hfirst : ((a :: as).forM fun a => writeLine recordWrite (f a)).run written =
          (as.forM fun a => writeLine recordWrite (f a)).run (written ++ (f a ++ "\n")) := rfl
      rw [hfirst, ih, List.map_cons, textOf_cons, String.append_assoc]

variable (files : String → Option (List UInt8)) {α β : Type}

/-- The recorded step gives what the other one gives, and writes nothing. -/
def Silent (x : Step Recording α) (y : Step Id α) : Prop :=
  ∀ written, x.run.run written = (y.run.run, written)

namespace Silent

theorem pure (a : α) : Silent (Pure.pure a) (Pure.pure a) := fun _ => rfl

theorem throw (f : Failure) : Silent (throw f : Step Recording α) (throw f) := fun _ => rfl

theorem bind {x : Step Recording α} {y : Step Id α} {g : α → Step Recording β}
    {h : α → Step Id β} (hx : Silent x y) (hg : ∀ a, Silent (g a) (h a)) :
    Silent (x >>= g) (y >>= h) := by
  intro written
  have hy : y.run = Pure.pure y.run.run := rfl
  rw [ExceptT.run_bind, ExceptT.run_bind, StateT.run_bind, hx written, hy]
  cases y.run.run with
  | error e => rfl
  | ok a => exact hg a written

theorem lift {x : Recording α} {a : α} (h : x = Pure.pure a) :
    Silent (liftM x) (liftM (Pure.pure a : Id α)) := by
  subst h
  exact fun _ => rfl

end Silent

variable {m : Type → Type} [Monad m] [LawfulMonad m]

theorem ofCandidates?_readOf (path : String) (candidates : List (String × Setting.Format)) :
    (Setting.ofCandidates? (readOf files) path candidates : m (Option Setting)) =
      pure (Setting.ofCandidates? (m := Id) (readOf files) path candidates).run := by
  induction candidates with
  | nil => rfl
  | cons c candidates ih =>
      unfold Setting.ofCandidates?
      simp only [readOf, pure_bind]
      cases files (path ++ "." ++ c.1) with
      | none => exact ih
      | some bytes => rfl

theorem load?_readOf (path : String) :
    (Query.load? (readOf files) path : m (Option Query)) =
      pure (Query.load? (m := Id) (readOf files) path).run := by
  have hload : (Setting.load? (readOf files) path : m (Option Setting)) =
      pure (Setting.load? (m := Id) (readOf files) path).run := by
    unfold Setting.load?
    simp only [readOf, pure_bind]
    cases files path with
    | none => exact ofCandidates?_readOf files path _
    | some bytes => rfl
  rw [Query.load?, hload, pure_bind]
  rfl

section
variable (a : Arguments)

theorem silent_loadContent :
    Silent (loadContent (readOf files) a) (loadContent (readOf files) a) := by
  refine (Silent.lift rfl).bind fun bytes => ?_
  split
  · exact .pure _
  · exact .throw _

theorem silent_orFail (f : Failure) (a : Option α) : Silent (orFail f a) (orFail f a) := by
  cases a with
  | none => exact .throw f
  | some a => exact .pure a

theorem silent_startNode (t : Tree) : Silent (startNode t a) (startNode t a) := by
  unfold startNode
  split
  · exact silent_orFail _ _
  · exact .pure _

theorem silent_storedQuery :
    Silent (storedQuery (readOf files) a) (storedQuery (readOf files) a) := by
  unfold storedQuery
  split
  · exact (Silent.lift (load?_readOf files _)).bind fun q => silent_orFail _ _
  · exact .pure _

theorem silent_childSelector (encoding stored : Option String) :
    Silent (childSelector (readOf files) a encoding stored)
      (childSelector (readOf files) a encoding stored) := by
  unfold childSelector
  split
  · refine (Silent.lift rfl).bind fun bytes => (silent_orFail _ _).bind fun bytes => ?_
    split
    · exact .pure _
    · exact .throw _
  · exact .pure _

theorem silent_buildQuery :
    Silent (buildQuery (readOf files) a) (buildQuery (readOf files) a) := by
  refine (silent_storedQuery files a).bind fun stored => ?_
  exact (silent_childSelector files a _ _).bind fun child => .pure _

end

/-- The recorded step writes the lines that the other one gives, and nothing if that fails. -/
def Prints (x : Step Recording Unit) (y : Step Id (List String)) : Prop :=
  ∀ written, x.run.run written = match y.run.run with
    | .ok ls => (.ok (), written ++ textOf ls)
    | .error f => (.error f, written)

theorem Silent.bind_prints {x : Step Recording α} {y : Step Id α} {g : α → Step Recording Unit}
    {h : α → Step Id (List String)} (hx : Silent x y) (hg : ∀ a, Prints (g a) (h a)) :
    Prints (x >>= g) (y >>= h) := by
  intro written
  have hy : y.run = Pure.pure y.run.run := rfl
  rw [ExceptT.run_bind, ExceptT.run_bind, StateT.run_bind, hx written, hy]
  cases y.run.run with
  | error e => rfl
  | ok a => exact hg a written

/-- The lines of a run are written one by one, and none if the run fails. -/
theorem prints_writeNodes (a : Arguments) :
    Prints (writeNodes (readOf files) recordWrite a) (lines (readOf files) a) := by
  refine (silent_loadContent files a).bind_prints fun t => ?_
  refine (silent_startNode a t).bind_prints fun root => ?_
  refine (silent_buildQuery files a).bind_prints fun q => ?_
  intro written
  rw [Query.forEach_eq, Query.results]
  cases (q.select a.mode root : Query.Selected Id) with
  | error e => rfl
  | ok nodes =>
      have hwrite := run_writeLines (line a.format) nodes.run written
      exact congrArg (fun p : Unit × String => (Except.ok p.1, p.2)) hwrite

/-- A step without effects has found something already, or failed. -/
theorem exists_eq_found (x : Step Id α) :
    ∃ found : Except Failure α, x = ExceptT.mk (pure found) :=
  ⟨x.run.run, rfl⟩

/-- How a run ends that has this outcome, after its output is written. -/
def Outcome.ending : Outcome → Ending
  | .output _ => .done
  | .failed f => .failed f
  | .misused e => .misused e

/-- Writing as it goes, a run writes what its outcome says, and ends with it. -/
theorem execute_eq_run (arguments : List String) (written : String) :
    (execute (readOf files) recordWrite arguments).run written =
      ((run (m := Id) (readOf files) arguments).run.ending,
        written ++ textOf (run (m := Id) (readOf files) arguments).run.stdout) := by
  unfold execute run
  cases Request.ofArguments arguments with
  | error e =>
      exact congrArg (Prod.mk (Ending.misused e)) (append_textOf_nil written).symm
  | ok request =>
      cases request with
      | version =>
          dsimp only
          rw [Id.run_pure, Outcome.stdout, textOf_cons, ← String.append_assoc, append_textOf_nil]
          rfl
      | help =>
          have hwrite := run_writeLines id helpLines written
          rw [List.map_id] at hwrite
          simp only [id] at hwrite
          dsimp only
          rw [StateT.run_bind, hwrite]
          rfl
      | run a =>
          have hprints := prints_writeNodes files a written
          obtain ⟨found, hfound⟩ := exists_eq_found (lines (readOf files) a)
          dsimp only
          rw [StateT.run_bind, hprints, hfound]
          cases found with
          | error f =>
              exact congrArg (Prod.mk (Ending.failed f)) (append_textOf_nil written).symm
          | ok ls => rfl

/-! ## runs that succeed -/

theorem exists_of_bind_eq_pure {x : Step Id α} {f : α → Step Id β} {b : β}
    (h : x >>= f = pure b) : ∃ a, x = pure a ∧ f a = pure b := by
  obtain ⟨found, hfound⟩ := exists_eq_found x
  rw [hfound] at h
  cases found with
  | error e => contradiction
  | ok a => exact ⟨a, hfound, h⟩

/-- Parameters do not change the limit. -/
theorem limit_setParameters (q : Query) (ps : List (String × Json)) :
    (ps.foldl (fun q p => q.setParameter p.1 p.2) q).limit = q.limit := by
  induction ps generalizing q with
  | nil => rfl
  | cons p ps ih => exact ih _

/-- The limit of the command line goes before the stored one. -/
theorem exists_stored_of_buildQuery {a : Arguments} {q : Query}
    (h : (buildQuery (readOf files) a : Step Id Query) = pure q) :
    ∃ stored, (storedQuery (readOf files) a : Step Id Query) = pure stored ∧
      q.limit = (a.limit <|> stored.limit) := by
  obtain ⟨stored, hstored, h⟩ := exists_of_bind_eq_pure h
  obtain ⟨child, -, h⟩ := exists_of_bind_eq_pure h
  injection h with h
  exact ⟨stored, hstored, h ▸ limit_setParameters _ _⟩

/-- A query with results has filters for the selectors that its mode uses. -/
theorem filters_of_results {q : Query} {mode : Mode} {root : Node} {ns : List Node}
    (h : q.results mode root = .ok ns) :
    (mode ≠ .children → ∃ branch : Option (Filter Id), q.branchFilter? = .ok branch) ∧
      ∃ child : Option (Filter Id), q.childFilter? = .ok child := by
  have both {g : Option (Filter Id) × Option (Filter Id) → List Node} {ns : List Node}
      (h : q.filters?.map g = .ok ns) :
      (∃ branch : Option (Filter Id), q.branchFilter? = .ok branch) ∧
        ∃ child : Option (Filter Id), q.childFilter? = .ok child := by
    obtain ⟨f, hf, -⟩ := Lexeme.exists_of_map_eq_ok h
    unfold Query.filters? at hf
    cases hb : (q.branchFilter? : Except FilterError (Option (Filter Id))) with
    | error e =>
        rw [hb] at hf
        contradiction
    | ok branch =>
        cases hc : (q.childFilter? : Except FilterError (Option (Filter Id))) with
        | error e =>
            rw [hb, hc] at hf
            contradiction
        | ok child => exact ⟨⟨branch, rfl⟩, child, rfl⟩
  rw [Query.results_eq] at h
  obtain ⟨ns, h, -⟩ := Lexeme.exists_of_map_eq_ok h
  unfold Query.unlimited at h
  cases mode with
  | stream =>
      obtain ⟨hbranch, hchild⟩ := both h
      exact ⟨fun _ => hbranch, hchild⟩
  | children =>
      obtain ⟨child, hchild, -⟩ := Lexeme.exists_of_map_eq_ok h
      exact ⟨fun hne => absurd rfl hne, child, hchild⟩
  | descendants =>
      obtain ⟨hbranch, hchild⟩ := both h
      exact ⟨fun _ => hbranch, hchild⟩

/-- All that a run finds that does not fail. -/
structure Success (a : Arguments) where
  tree : Tree
  root : Node
  stored : Query
  query : Query
  /-- What the query selects without its limit. -/
  nodes : List Node
  loaded : loadContent (readOf files) a = (pure tree : Step Id Tree)
  started : startNode tree a = (pure root : Step Id Node)
  found : storedQuery (readOf files) a = (pure stored : Step Id Query)
  built : buildQuery (readOf files) a = (pure query : Step Id Query)
  limited : query.limit = (a.limit <|> stored.limit)
  compiled : (a.mode ≠ .children →
      ∃ branch : Option (Filter Id), query.branchFilter? = .ok branch) ∧
    ∃ child : Option (Filter Id), query.childFilter? = .ok child
  selected : { query with limit := none }.results a.mode root = .ok nodes

/-- The nodes up to the limit. -/
def Success.output {files : String → Option (List UInt8)} {a : Arguments} (s : Success files a) :
    List Node :=
  atMost s.query.limit s.nodes

theorem exists_success {a : Arguments} {ls : List String}
    (h : (lines (readOf files) a : Step Id (List String)) = pure ls) :
    ∃ s : Success files a, ls = s.output.map (line a.format) := by
  rw [Query.lines_eq] at h
  obtain ⟨tree, loaded, h⟩ := exists_of_bind_eq_pure h
  obtain ⟨root, started, h⟩ := exists_of_bind_eq_pure h
  obtain ⟨query, built, h⟩ := exists_of_bind_eq_pure h
  obtain ⟨stored, found, limited⟩ := exists_stored_of_buildQuery files built
  split at h
  · next nodes selected =>
    injection h with h
    let s : Success files a := ⟨tree, root, stored, query, nodes, loaded, started, found, built,
      limited, filters_of_results (q := { query with limit := none }) selected, selected⟩
    exact ⟨s, h ▸ (map_atMost (line a.format) query.limit nodes).symm⟩
  · contradiction

theorem exists_success_of_output {arguments : List String} {a : Arguments} {ls : List String}
    (ha : Request.ofArguments arguments = .ok (.run a))
    (h : (run (m := Id) (readOf files) arguments).run = .output ls) :
    ∃ s : Success files a, ls = s.output.map (line a.format) := by
  obtain ⟨found, hfound⟩ := exists_eq_found (lines (readOf files) a)
  unfold run at h
  rw [ha] at h
  dsimp only at h
  rw [hfound] at h
  cases found with
  | error f => contradiction
  | ok ls' =>
      injection h with h
      exact exists_success files (h ▸ hfound)

/-- **The output is all or nothing.**  Whatever the arguments and the files are, a run that does not
exit with zero has written nothing.  One that does, and was not asked for the version or for help,
found all it needed: the content, the start, the stored query and the query built on it, whose limit
is the one of the arguments if they have one.  The selectors that its mode uses are filters.  It
wrote the lines of the nodes that the query selects, in order and up to the limit: with paths, each
node's path and a line end. -/
theorem execute_all_or_nothing (files : String → Option (List UInt8)) (arguments : List String) :
    ∃ ending written, (execute (readOf files) recordWrite arguments).run "" = (ending, written) ∧
      (ending.exitCode ≠ 0 → written = "") ∧
      (ending.exitCode = 0 → ∀ a, Request.ofArguments arguments = .ok (.run a) →
        ∃ s : Success files a, written = textOf (s.output.map (line a.format)) ∧
          (a.format = .paths → written = String.join (s.output.map fun n => n.path ++ "\n"))) := by
  refine ⟨_, _, execute_eq_run files arguments "", ?_⟩
  rw [String.empty_append]
  cases hrun : (run (m := Id) (readOf files) arguments).run with
  | misused e => exact ⟨fun _ => rfl, fun h => by contradiction⟩
  | failed f => exact ⟨fun _ => rfl, fun h => by contradiction⟩
  | output ls =>
      refine ⟨fun h => absurd rfl h, fun _ a ha => ?_⟩
      obtain ⟨s, rfl⟩ := exists_success_of_output files ha hrun
      refine ⟨s, rfl, fun hformat => ?_⟩
      rw [hformat, Outcome.stdout, textOf, List.map_map]
      rfl

/-- A file with a node that has two children, and no other file. -/
def twoChildren (path : String) : Option (List UInt8) :=
  if path = "c.json" then some "\x7b\"a\":\x7b\x7d,\"b\":\x7b\x7d\x7d".toUTF8.toList else none

/-- Arguments with a branch selector that is no filter. -/
def refusedBranch : List String :=
  ["--content", "c.json", "--mode", "descendants", "--branch", "name() =="]

/-- Arguments that ask for two nodes. -/
def firstTwo : List String := ["--content", "c.json", "--limit", "2"]

/-- With a branch selector that is no filter nothing is written; with a limit, the first paths. -/
theorem execute_all_or_nothing_twoChildren :
    (∃ ending, (execute (readOf twoChildren) recordWrite refusedBranch).run "" = (ending, "") ∧
      ending.exitCode = 1) ∧
    ∃ a, Request.ofArguments firstTwo = .ok (.run a) ∧
      ∃ s : Success twoChildren a,
        String.join (s.output.map fun n => n.path ++ "\n") = "/\n/a\n" := by
  constructor
  · have hcode :
        ((execute (readOf twoChildren) recordWrite refusedBranch).run "").1.exitCode = 1 := by
      decide +kernel
    obtain ⟨ending, written, hrun, hfailed, -⟩ := execute_all_or_nothing twoChildren refusedBranch
    rw [hrun] at hcode
    rw [hfailed (hcode ▸ Nat.one_ne_zero)] at hrun
    exact ⟨ending, hrun, hcode⟩
  · have hresult : ((execute (readOf twoChildren) recordWrite firstTwo).run "").1.exitCode = 0 ∧
        ((execute (readOf twoChildren) recordWrite firstTwo).run "").2 = "/\n/a\n" := by
      decide +kernel
    obtain ⟨a, ha⟩ : ∃ a, Request.ofArguments firstTwo = .ok (.run a) := ⟨_, rfl⟩
    obtain ⟨ending, written, hrun, -, hdone⟩ := execute_all_or_nothing twoChildren firstTwo
    rw [hrun] at hresult
    obtain ⟨s, -, hpaths⟩ := hdone hresult.1 a ha
    cases ha
    exact ⟨_, rfl, s, (hpaths rfl).symm.trans hresult.2⟩

end CommandLine

end TreeSift
