import TreeSift.Proofs.Content.Lookup

/-!
# TreeSift.Proofs.Content.Relative

Relative paths lead to where absolute ones do.

1. A relative path is made of the segments that count, whatever else stands between its slashes; it
   goes down by all but the last of them and asks for the last one (`resolve_joined`).
2. A node that is found by its own path is where the segments of that path lead to from the root.
   So looking up a path that goes on from there goes down from the node (`get?_of_extended`), and
   this is what resolving the relative path does.
-/

namespace TreeSift

namespace Node

/-! ## pieces -/

/-- A segment that leads one step down in a relative path. -/
structure IsStep (s : List Char) : Prop where
  ne_nil : s ≠ []
  no_slash : '/' ∉ s
  ne_dot : s ≠ ['.']

/-- The second list of pieces is the first with pieces put in that are empty or a dot. -/
inductive Interspersed : List (List Char) → List (List Char) → Prop where
  | nil : Interspersed [] []
  | keep (p : List Char) {ps qs : List (List Char)} (h : Interspersed ps qs) :
    Interspersed (p :: ps) (p :: qs)
  | put {p : List Char} (hp : p = [] ∨ p = ['.']) {ps qs : List (List Char)}
    (h : Interspersed ps qs) : Interspersed ps (p :: qs)

/-- The pieces that count in a relative path. -/
def steps (pieces : List (List Char)) : List (List Char) :=
  pieces.filter fun s => !s.isEmpty && s != ['.']

theorem steps_eq_self {ps : List (List Char)} (h : ∀ p ∈ ps, IsStep p) : steps ps = ps := by
  refine List.filter_eq_self.mpr fun p hp => ?_
  simp [(h p hp).ne_nil, (h p hp).ne_dot]

/-- What is put in does not count. -/
theorem Interspersed.steps_eq {ps qs : List (List Char)} (h : Interspersed ps qs) :
    steps qs = steps ps := by
  induction h with
  | nil => rfl
  | keep p h ih =>
      unfold steps at ih ⊢
      rw [List.filter_cons, List.filter_cons, ih]
  | put hp h ih =>
      obtain rfl | rfl := hp
      · exact ih
      · exact ih

theorem Interspersed.no_slash {ps qs : List (List Char)} (h : Interspersed ps qs)
    (hps : ∀ p ∈ ps, '/' ∉ p) : ∀ q ∈ qs, '/' ∉ q := by
  induction h with
  | nil => exact hps
  | keep p h ih =>
      obtain ⟨hp, hps⟩ := List.forall_mem_cons.mp hps
      exact List.forall_mem_cons.mpr ⟨hp, ih hps⟩
  | put hp h ih =>
      refine List.forall_mem_cons.mpr ⟨?_, ih hps⟩
      obtain rfl | rfl := hp <;> decide

/-! ## going down -/

theorem descend?_append (n : Node) (ss ts : List String) :
    n.descend? (ss ++ ts) = (n.descend? ss).bind fun m => m.descend? ts := by
  induction ss generalizing n with
  | nil => rfl
  | cons s ss ih =>
      rw [List.cons_append, descend?, descend?]
      cases n.child? s with
      | none => rfl
      | some c => exact ih c

/-- The last segment is a property of where the others lead to. -/
theorem resolveSegments_concat (n : Node) (ss : List String) (s : String) :
    n.resolveSegments (ss ++ [s]) = (n.descend? ss).bind fun m => m.property? s := by
  induction ss generalizing n with
  | nil => rfl
  | cons t ss ih =>
      have hcons : n.resolveSegments (t :: ss ++ [s]) =
          (n.child? t).bind fun c => c.resolveSegments (ss ++ [s]) := by
        cases ss <;> rfl
      rw [hcons, descend?]
      cases n.child? t with
      | none => rfl
      | some c => exact ih c

theorem resolve_eq (n : Node) (path : String) :
    n.resolve path =
      n.resolveSegments ((steps (Text.splitAt '/' path.toList)).map String.ofList) := by
  rw [resolve, segments, List.filter_filter, steps]
  simp only [Bool.and_comm]

/-- Pieces with slashes between them lead to where those of them lead that count. -/
theorem resolve_joined (n : Node) {ps : List (List Char)} (h : ∀ p ∈ ps, '/' ∉ p) :
    n.resolve (String.ofList (Text.joinWith ['/'] ps)) =
      n.resolveSegments ((steps ps).map String.ofList) := by
  rw [resolve_eq, String.toList_ofList]
  cases ps with
  | nil => rfl
  | cons p ps => rw [Text.splitAt_joinWith (List.cons_ne_nil p ps) h]

theorem extendPath_append (path : List Char) {ss : List (List Char)} (h : ∀ s ∈ ss, s ≠ [])
    (ts : List (List Char)) : extendPath path (ss ++ ts) = extendPath (extendPath path ss) ts := by
  induction ss generalizing path with
  | nil => rfl
  | cons s ss ih =>
      obtain ⟨hs, hss⟩ := List.forall_mem_cons.mp h
      rw [List.cons_append, extendPath_cons path hs, ih _ hss, ← extendPath_cons path hs]

/-- Going down leads away from the path that is a slash by itself. -/
theorem eq_nil_of_extendPath {path : List Char} {ss : List (List Char)} (h : ∀ s ∈ ss, s ≠ [])
    (heq : extendPath path ss = ['/']) : ss = [] := by
  cases ss with
  | nil => rfl
  | cons s ss =>
      have hlength := congrArg List.length heq
      have hpos := List.length_pos_iff.mpr (h s List.mem_cons_self)
      simp only [extendPath, List.flatMap_cons, List.length_append, List.length_cons,
        List.length_nil] at hlength
      omega

end Node

namespace Tree

open Node

variable {t : Tree} {at' : String} {node n m : Node} (ht : t = mount at' node)
include ht

/-- A node that is found is where some segments lead to from the root, and its path goes down from
the root's by these. -/
theorem exists_segments_of_get? {path : String} (h : t.get? path = some n) :
    ∃ ss : List (List Char), (∀ s ∈ ss, s ≠ [] ∧ '/' ∉ s) ∧
      t.root.descend? (ss.map String.ofList) = some n ∧
      n.path.toList = extendPath t.root.path.toList ss := by
  obtain ⟨rest, -, hd⟩ := Option.bind_eq_some_iff.mp h
  have hsegments : ∀ s ∈ segments rest, s ≠ [] ∧ '/' ∉ s := by
    intro s hs
    obtain ⟨hmem, hne⟩ := List.mem_filter.mp hs
    exact ⟨by simpa using hne, Text.not_mem_of_mem_splitAt hmem⟩
  exact ⟨segments rest, hsegments, hd,
    (placed_root_of_mount ht).path_of_descend? (fun s hs => (hsegments s hs).1) hd⟩

section
variable {path path' : String} {ss : List (List Char)} {s : List Char}

/-- The path that goes down from a node leads down from there. -/
theorem get?_of_extendPath (h : t.get? path = some n) (hss : ∀ p ∈ ss ++ [s], p ≠ [] ∧ '/' ∉ p)
    (hs : IsPlainName s) (hpath : path'.toList = extendPath n.path.toList (ss ++ [s])) :
    t.get? path' = n.descend? ((ss ++ [s]).map String.ofList) := by
  obtain ⟨front, hfront, hd, hn⟩ := exists_segments_of_get? ht h
  rw [hn, ← extendPath_append _ fun p hp => (hfront p hp).1] at hpath
  have hnormal : normalize path'.toList = path'.toList := by
    rw [hpath, ← List.append_assoc]
    refine normalize_extendPath hs ?_
    rw [toList_path_root_of_mount ht]
    exact normalize_rooted _
  obtain ⟨rest, hrest, hsegments⟩ :=
    exists_below?_extendPath t.root.path.toList fun p (hp : p ∈ front ++ (ss ++ [s])) =>
      (List.mem_append.mp hp).elim (hfront p) (hss p)
  rw [get?, hnormal, hpath, hrest, Option.bind_some, hsegments, List.map_append, descend?_append,
    hd, Option.bind_some]

omit ht in
/-- From a root at a slash, two slashes in front lead down as one does. -/
theorem get?_of_double_slash (hroot : t.root.path.toList = ['/'])
    (hss : ∀ p ∈ ss ++ [s], p ≠ [] ∧ '/' ∉ p) (hs : IsPlainName s)
    (hpath : path'.toList = '/' :: (ss ++ [s]).flatMap ('/' :: ·)) :
    t.get? path' = t.root.descend? ((ss ++ [s]).map String.ofList) := by
  have hnormal : normalize path'.toList = path'.toList := by
    have hends : path'.toList = '/' :: ss.flatMap ('/' :: ·) ++ '/' :: s := by simp [hpath]
    rw [hends]
    exact normalize_append_segment (.inr ⟨_, rfl⟩) hs
  have hbelow : below? t.root.path.toList path'.toList =
      some ((ss ++ [s]).flatMap ('/' :: ·)) := by
    rw [hroot, hpath, below?, if_neg (by simp), if_pos rfl]
    rfl
  rw [get?, hnormal, hbelow, Option.bind_some, segments_flatMap hss]

/-- A path that goes on from a node leads down from there, also if there are two slashes after the
root's. -/
theorem get?_of_extended (h : t.get? path = some n) (hss : ∀ p ∈ ss ++ [s], p ≠ [] ∧ '/' ∉ p)
    (hs : IsPlainName s)
    (hpath : path'.toList = extendPath n.path.toList (ss ++ [s]) ∨
      path'.toList = n.path.toList ++ (ss ++ [s]).flatMap ('/' :: ·)) :
    t.get? path' = n.descend? ((ss ++ [s]).map String.ofList) := by
  by_cases hplain : path'.toList = extendPath n.path.toList (ss ++ [s])
  · exact get?_of_extendPath ht h hss hs hplain
  · -- only after a slash by itself, which is the root's path, there are two
    have hdouble := hpath.resolve_left hplain
    have hslash : n.path.toList = ['/'] := by
      by_contra hslash
      rw [extendPath_eq _ (by simp), if_neg hslash] at hplain
      exact hplain hdouble
    obtain ⟨front, hfront, hd, hn⟩ := exists_segments_of_get? ht h
    obtain rfl : front = [] := eq_nil_of_extendPath (fun p hp => (hfront p hp).1) (hn ▸ hslash)
    obtain rfl : t.root = n := Option.some.inj hd
    exact get?_of_double_slash hslash hss hs (by rw [hdouble, hslash]; rfl)

end

/-- **A relative path leads to the property of the node that the absolute path leads to.**  Let a
node be found at its own path.  Resolving segments from it gives the last one's property of the node
that is found at the path gone on with by the others, and nothing if none is found there.  Pieces
put in that are empty or a dot make no difference. -/
theorem resolve_eq_get? (hm : t.get? m.path = some m) {ss : List (List Char)} {s : List Char}
    (hss : ∀ p ∈ ss ++ [s], IsStep p)
    (hend : ∀ p ∈ ss.getLast?, ∀ c ∈ p.getLast?, CharClass.isBlank c = false) :
    (∀ path : String, path.toList = extendPath m.path.toList ss ∨
        path.toList = m.path.toList ++ ss.flatMap ('/' :: ·) →
      m.resolve (String.ofList (Text.joinWith ['/'] (ss ++ [s]))) =
        (t.get? path).bind fun n => n.property? (String.ofList s)) ∧
    ∀ ps qs, (∀ p ∈ ps, '/' ∉ p) → Interspersed ps qs →
      m.resolve (String.ofList (Text.joinWith ['/'] qs)) =
        m.resolve (String.ofList (Text.joinWith ['/'] ps)) := by
  constructor
  · intro path hpath
    rw [resolve_joined m fun p hp => (hss p hp).no_slash, steps_eq_self hss, List.map_append,
      List.map_singleton, resolveSegments_concat]
    have hfound : t.get? path = m.descend? (ss.map String.ofList) := by
      obtain rfl | ⟨front, last, rfl⟩ := List.eq_nil_or_concat' ss
      · have hsame : path = m.path := by
          rw [← String.toList_inj]
          simpa [extendPath] using hpath
        rw [hsame, hm]
        rfl
      · have hstep : ∀ p ∈ front ++ [last], IsStep p := fun p hp =>
          hss p (List.mem_append_left _ hp)
        have hlast : IsStep last := hstep last (by simp)
        exact get?_of_extended ht hm (fun p hp => ⟨(hstep p hp).ne_nil, (hstep p hp).no_slash⟩)
          ⟨hlast.ne_nil, hlast.no_slash, hend last (by simp)⟩ hpath
    rw [hfound]
  · intro ps qs hps h
    rw [resolve_joined m hps, resolve_joined m (h.no_slash hps), h.steps_eq]

omit ht in
/-- Of two children of one name both ways take the first, from a tree at a slash. -/
theorem resolve_eq_get?_twins :
    let t := mount "/" { named "" with children := [{ named "a" with children :=
      [(named "b").setProperty "p" (.long 1), (named "b").setProperty "p" (.long 2)] }] }
    ∃ m, t.get? "/a" = some m ∧ m.path = "/a" ∧
      m.resolve "b/p" = (t.get? "/a/b").bind (fun n => n.property? "p") ∧
      m.resolve "/./b//p" = m.resolve "b/p" ∧ m.resolve "b/p" = some (.long 1) := by
  intro t
  have hbelow : below? t.root.path.toList (normalize "/a".toList) = some ['a'] := by
    decide +kernel
  let m : Node := ⟨"a", "/a", [], [⟨"b", "/a/b", [("p", .long 1)], []⟩,
    ⟨"b", "/a/b", [("p", .long 2)], []⟩]⟩
  have hget : t.get? "/a" = some m := by
    rw [get?, hbelow]
    rfl
  have hsteps : ∀ p ∈ [['b']] ++ [['p']], IsStep p := by
    intro p hp
    obtain rfl | rfl : p = ['b'] ∨ p = ['p'] := by simpa using hp
    · exact ⟨by simp, by decide, by decide⟩
    · exact ⟨by simp, by decide, by decide⟩
  obtain ⟨hresolve, hput⟩ := resolve_eq_get? (t := t) rfl (m := m) hget hsteps (by simp; decide)
  have hput := hput [['b'], ['p']] [[], ['.'], ['b'], [], ['p']] (by decide)
    (.put (.inl rfl) (.put (.inr rfl) (.keep _ (.put (.inl rfl) (.keep _ .nil)))))
  exact ⟨m, hget, rfl, hresolve "/a/b" (.inl (by decide)), hput, rfl⟩

end Tree

end TreeSift
