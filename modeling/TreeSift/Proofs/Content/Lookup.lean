import TreeSift.Proofs.Content.Path

/-!
# TreeSift.Proofs.Content.Lookup

Nodes are found by their paths.

1. A path in normal form starts with a slash.  One that also ends in neither a slash nor a blank is
   in normal form already; in a well named tree this is so for every path below the root.
2. What follows the root's path is split into the segments that are looked up, and the segments a
   path goes down by come out again (`exists_below?_extendPath`).
3. So every node that is found has the path that was asked for, and in a well named tree every node
   is found by its path (`get?_path_of_mount`).
-/

namespace TreeSift

open Node

/-! ## segments -/

theorem Node.segments_slash (cs : List Char) : segments ('/' :: cs) = segments cs := by
  simp [segments, Text.splitAt]

theorem Node.segments_flatMap {ss : List (List Char)} (h : ∀ s ∈ ss, s ≠ [] ∧ '/' ∉ s) :
    segments (ss.flatMap ('/' :: ·)) = ss := by
  induction ss with
  | nil => rfl
  | cons s ss ih =>
      obtain ⟨⟨hne, hslash⟩, hss⟩ := List.forall_mem_cons.mp h
      have ih := ih hss
      rw [List.flatMap_cons, List.cons_append, segments_slash]
      cases ss with
      | nil => simp [segments, Text.splitAt_of_not_mem hslash, hne]
      | cons t ts =>
          rw [List.flatMap_cons, List.cons_append, segments_slash] at ih
          rw [List.flatMap_cons, List.cons_append, segments, Text.splitAt_append hslash,
            List.filter_cons_of_pos (by simpa using hne)]
          exact congrArg _ ih

namespace Tree

/-! ## normal form -/

theorem normalize_rooted (cs : List Char) : ∃ r, normalize cs = '/' :: r := by
  unfold normalize
  dsimp only
  split
  · exact ⟨[], rfl⟩
  · next r _ => exact ⟨r, rfl⟩
  · exact ⟨_, rfl⟩

/-- A path that starts with a slash and ends in neither a blank nor a slash is in normal form. -/
theorem normalize_of_ends {r pre : List Char} {c : Char} (h : '/' :: r = pre ++ [c])
    (hb : CharClass.isBlank c = false) (hs : c ≠ '/') : normalize ('/' :: r) = '/' :: r := by
  have hstart : Text.trimStart ('/' :: r) = '/' :: r := List.dropWhile_cons_of_neg (by decide)
  have hend : Text.trimEnd ('/' :: r) = '/' :: r := by
    rw [h, Text.trimEnd, List.reverse_append, List.reverse_singleton, List.singleton_append,
      List.dropWhile_cons_of_neg (by simp [hb])]
    simp
  have hslash : (('/' :: r).reverse.dropWhile (· == '/')).reverse = '/' :: r := by
    rw [h, List.reverse_append, List.reverse_singleton, List.singleton_append,
      List.dropWhile_cons_of_neg (by simpa using hs)]
    simp
  unfold normalize Text.trim
  simp only [hstart, hend, hslash]

/-- A path that ends in a plain name is in normal form. -/
theorem normalize_append_segment {front name : List Char}
    (hf : front = [] ∨ ∃ r, front = '/' :: r) (h : IsPlainName name) :
    normalize (front ++ '/' :: name) = front ++ '/' :: name := by
  obtain ⟨name, c, rfl⟩ := (List.eq_nil_or_concat' name).resolve_left h.ne_nil
  have hc : c ≠ '/' := by
    rintro rfl
    exact h.no_slash (by simp)
  obtain ⟨r, hr⟩ : ∃ r, front ++ '/' :: (name ++ [c]) = '/' :: r := by
    obtain rfl | ⟨r, rfl⟩ := hf <;> exact ⟨_, rfl⟩
  have hends : '/' :: r = (front ++ '/' :: name) ++ [c] := by
    rw [← hr]
    simp
  rw [hr]
  exact normalize_of_ends hends (h.end_not_blank c (by simp)) hc

theorem normalize_extendPath {root : List Char} {ss : List (List Char)} {s : List Char}
    (hs : IsPlainName s) (hr : ∃ r, root = '/' :: r) :
    normalize (extendPath root (ss ++ [s])) = extendPath root (ss ++ [s]) := by
  have hends : extendPath root (ss ++ [s]) =
      ((if root = ['/'] then [] else root) ++ ss.flatMap ('/' :: ·)) ++ '/' :: s := by
    rw [extendPath_eq root (by simp)]
    simp
  rw [hends]
  refine normalize_append_segment ?_ hs
  split
  · cases ss with
    | nil => exact .inl rfl
    | cons s ss => exact .inr ⟨_, rfl⟩
  · obtain ⟨r, rfl⟩ := hr
    exact .inr ⟨_, rfl⟩

/-! ## below the root -/

/-- A path at or below the root's is the root's and a tail, from which the segments come. -/
theorem exists_tail_of_below? {root path rest : List Char} (hp : ∃ r, path = '/' :: r)
    (h : below? root path = some rest) : ∃ tail, path = root ++ tail ∧
      (tail = [] ∨ root = ['/'] ∨ tail.head? = some '/') ∧ segments tail = segments rest := by
  unfold below? at h
  split at h
  · next heq =>
    injection h with h
    subst h
    exact ⟨[], by rw [heq, List.append_nil], .inl rfl, rfl⟩
  split at h
  · next hroot =>
    obtain ⟨r, rfl⟩ := hp
    injection h with h
    subst h
    exact ⟨r, by rw [hroot, List.singleton_append], .inr (.inl hroot), rfl⟩
  · obtain ⟨tail, htail, hrest⟩ := Option.bind_eq_some_iff.mp h
    have hrest := Text.dropPrefix?_eq_some_iff.mp hrest
    subst hrest
    exact ⟨_, Text.dropPrefix?_eq_some_iff.mp htail, .inr (.inr rfl), segments_slash rest⟩

/-- The segments by which a path goes down are found below it. -/
theorem exists_below?_extendPath (root : List Char) {ss : List (List Char)}
    (h : ∀ s ∈ ss, s ≠ [] ∧ '/' ∉ s) :
    ∃ rest, below? root (extendPath root ss) = some rest ∧ segments rest = ss := by
  cases ss with
  | nil => exact ⟨[], if_pos rfl, rfl⟩
  | cons s ss =>
      have hsegments := segments_flatMap h
      rw [List.flatMap_cons, List.cons_append, segments_slash] at hsegments
      refine ⟨s ++ ss.flatMap ('/' :: ·), ?_, hsegments⟩
      have hne : extendPath root (s :: ss) ≠ root := by
        intro heq
        have hlength := congrArg List.length heq
        have hpos := List.length_pos_iff.mpr (h s List.mem_cons_self).1
        rw [extendPath_eq root (List.cons_ne_nil s ss)] at hlength
        split at hlength <;> simp_all
      unfold below?
      rw [if_neg hne, extendPath_eq root (List.cons_ne_nil s ss), List.flatMap_cons]
      split
      · rfl
      · rw [Text.dropPrefix?_eq_some_iff.mpr rfl]
        rfl

/-! ## looking up -/

section

variable {t : Tree} {at' : String} {node : Node} (ht : t = mount at' node)
include ht

theorem toList_path_root_of_mount : t.root.path.toList = normalize at'.toList := by
  rw [ht, mount, place_path, String.toList_ofList]

theorem placed_root_of_mount : Placed t.root := by
  rw [ht]
  exact placed_place _ _

/-- A node that is found has the path that was asked for, less its empty segments. -/
theorem path_of_get? {path : String} {n : Node} (h : t.get? path = some n) :
    (∃ q, t.root.at? q = some n) ∧ ∃ tail, normalize path.toList = t.root.path.toList ++ tail ∧
      (tail = [] ∨ t.root.path.toList = ['/'] ∨ tail.head? = some '/') ∧
      n.path.toList = extendPath t.root.path.toList (segments tail) := by
  obtain ⟨rest, hrest, hd⟩ := Option.bind_eq_some_iff.mp h
  obtain ⟨tail, htail, hstart, hsegments⟩ := exists_tail_of_below? (normalize_rooted _) hrest
  rw [← hsegments] at hd
  have hne : ∀ s ∈ segments tail, s ≠ [] := fun s hs => by
    simpa using (List.mem_filter.mp hs).2
  exact ⟨exists_at?_of_descend? hd, tail, htail, hstart,
    (placed_root_of_mount ht).path_of_descend? hne hd⟩

/-- In a well named tree the path of a node goes down from the root's by the names on the way. -/
theorem path_of_at? {p : List Nat} {n : Node} (hw : WellNamed t.root)
    (hp : t.root.at? p = some n) :
    n.path.toList = extendPath t.root.path.toList (t.root.namesTo p) :=
  (placed_root_of_mount ht).path_of_descend?
    (fun s hs => (hw.plain_of_mem_namesTo hp s hs).ne_nil) (hw.descend?_namesTo hp)

/-- No two places of a well named tree have the same path. -/
theorem path_injective {p q : List Nat} {n m : Node} (hw : WellNamed t.root)
    (hp : t.root.at? p = some n) (hq : t.root.at? q = some m) (heq : n.path = m.path) :
    p = q := by
  have hnames {p : List Nat} {n : Node} (hp : t.root.at? p = some n) :
      ∀ s ∈ t.root.namesTo p, s ≠ [] ∧ '/' ∉ s := fun s hs =>
    ⟨(hw.plain_of_mem_namesTo hp s hs).ne_nil, (hw.plain_of_mem_namesTo hp s hs).no_slash⟩
  obtain ⟨r₁, h₁, hs₁⟩ := exists_below?_extendPath t.root.path.toList (hnames hp)
  obtain ⟨r₂, h₂, hs₂⟩ := exists_below?_extendPath t.root.path.toList (hnames hq)
  rw [← path_of_at? ht hw hp, heq, path_of_at? ht hw hq, h₂] at h₁
  injection h₁ with h₁
  exact hw.namesTo_injective hp hq (by rw [← hs₁, ← h₁, hs₂])

/-- Every node below the root of a well named tree is found by its path. -/
theorem get?_path {p : List Nat} {n : Node} (hw : WellNamed t.root)
    (hne : p ≠ []) (hp : t.root.at? p = some n) : t.get? n.path = some n := by
  have hnames : ∀ s ∈ t.root.namesTo p, IsPlainName s := hw.plain_of_mem_namesTo hp
  obtain ⟨i, p', rfl⟩ := List.exists_cons_of_ne_nil hne
  obtain ⟨c, -, -, -, hcons⟩ := at?_cons_eq_some hp
  have hnormal : normalize n.path.toList = n.path.toList := by
    obtain ⟨ss, s, hss⟩ := (List.eq_nil_or_concat' (t.root.namesTo (i :: p'))).resolve_left
      (by simp [hcons])
    rw [path_of_at? ht hw hp, hss]
    refine normalize_extendPath (hnames s (by simp [hss])) ?_
    rw [toList_path_root_of_mount ht]
    exact normalize_rooted _
  obtain ⟨rest, hrest, hsegments⟩ := exists_below?_extendPath t.root.path.toList
    fun s hs => ⟨(hnames s hs).ne_nil, (hnames s hs).no_slash⟩
  rw [get?, hnormal, path_of_at? ht hw hp, hrest, Option.bind_some, hsegments,
    hw.descend?_namesTo hp]

/-- **Looking up by path.**  A node that is found is one of the tree, and its path goes down from the
root's by the non-empty segments of the path asked for, beyond the root's.  In a well named tree
no two places have the same path, and every node below the root is found by its own. -/
theorem get?_path_of_mount :
    (∀ path n, t.get? path = some n →
      (∃ q, t.root.at? q = some n) ∧ ∃ tail, normalize path.toList = t.root.path.toList ++ tail ∧
        (tail = [] ∨ t.root.path.toList = ['/'] ∨ tail.head? = some '/') ∧
        n.path.toList = extendPath t.root.path.toList (segments tail)) ∧
    (WellNamed t.root →
      (∀ p q n m, t.root.at? p = some n → t.root.at? q = some m → n.path = m.path → p = q) ∧
      ∀ p n, p ≠ [] → t.root.at? p = some n → t.get? n.path = some n) :=
  ⟨fun _ _ h => path_of_get? ht h, fun hw =>
    ⟨fun _ _ _ _ hp hq heq => path_injective ht hw hp hq heq,
      fun _ _ hne hp => get?_path ht hw hne hp⟩⟩

end

/-- A child and a grandchild of the same name, mounted at a text with blanks and a slash too many. -/
theorem get?_path_of_mount_twins :
    WellNamed (mount " content/" { named "x" with
      children := [{ named "a" with children := [named "a"] }, named "b"] }).root ∧
    (mount " content/" { named "x" with
      children := [{ named "a" with children := [named "a"] }, named "b"] }).get?
        "/content/a/a" = some { named "a" with path := "/content/a/a" } := by
  have hleaf (name path : String) : WellNamed ⟨name, path, [], []⟩ := ⟨by simp, by simp, by simp⟩
  have hw : WellNamed (mount " content/" { named "x" with
      children := [{ named "a" with children := [named "a"] }, named "b"] }).root := by
    simp only [mount, place, placeAll, named]
    refine ⟨by decide, by decide, ?_⟩
    simp only [List.forall_mem_cons]
    exact ⟨⟨by decide, by decide, by simpa using hleaf _ _⟩, hleaf _ _, by simp⟩
  have hget := ((get?_path_of_mount (t := mount " content/" _) rfl).2 hw).2 [0, 0] _ (by decide) rfl
  exact ⟨hw, hget⟩

end Tree

end TreeSift
