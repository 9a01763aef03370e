import TreeSift.Content.Tree
import TreeSift.Proofs.Content.Visit
import TreeSift.Proofs.Text.Split

/-!
# TreeSift.Proofs.Content.Path

The paths of the nodes of a tree, and the names that lead to them.

1. `extendPath` goes down from a path by segments.  In a *placed* tree every node's path goes down
   from its parent's by the node's name; placing a tree makes it so (`placed_place`).
2. Whatever names lead to, its path goes down by these names (`Placed.path_of_descend?`).
3. In a *well named* tree the names on the way to a place lead to the node there, and no two places
   have the same names (`descend?_namesTo`, `namesTo_injective`).
-/

namespace TreeSift

namespace Node

/-- A path gone down by segments: a slash and a segment for each.  There is no second slash after a
path that is a slash by itself. -/
def extendPath (path : List Char) : List (List Char) → List Char
  | [] => path
  | s :: ss => (if path = ['/'] then [] else path) ++ (s :: ss).flatMap ('/' :: ·)

/-- Every node's path goes down from its parent's by its name. -/
inductive Placed : Node → Prop where
  | mk {n : Node} (paths : ∀ c ∈ n.children, c.path = childPath n.path c.name)
    (below : ∀ c ∈ n.children, Placed c) : Placed n

/-- A name that is one segment of a path and stays whole at the end of it. -/
structure IsPlainName (name : List Char) : Prop where
  ne_nil : name ≠ []
  no_slash : '/' ∉ name
  end_not_blank : ∀ c ∈ name.getLast?, CharClass.isBlank c = false

-- `Option.all` asks for the last character, and does not go through all that exist
instance (name : List Char) : Decidable (IsPlainName name) :=
  decidable_of_iff
    (name ≠ [] ∧ '/' ∉ name ∧ (name.getLast?.all fun c => !CharClass.isBlank c) = true) <| by
    have hend : (name.getLast?.all fun c => !CharClass.isBlank c) = true ↔
        ∀ c ∈ name.getLast?, CharClass.isBlank c = false := by
      cases name.getLast? <;> simp
    exact ⟨fun ⟨h₁, h₂, h₃⟩ => ⟨h₁, h₂, hend.mp h₃⟩, fun ⟨h₁, h₂, h₃⟩ => ⟨h₁, h₂, hend.mpr h₃⟩⟩

/-- Every node below has a plain name, and siblings have different ones. -/
inductive WellNamed : Node → Prop where
  | mk {n : Node} (plain : ∀ c ∈ n.children, IsPlainName c.name.toList)
    (distinct : (n.children.map Node.name).Nodup) (below : ∀ c ∈ n.children, WellNamed c) :
    WellNamed n

/-- The names on the way to a place. -/
def namesTo (n : Node) : List Nat → List (List Char)
  | [] => []
  | i :: p =>
    match n.children[i]? with
    | some c => c.name.toList :: c.namesTo p
    | none => []

/-! ## going down -/

theorem toList_childPath (path name : String) :
    (childPath path name).toList = extendPath path.toList [name.toList] := by
  have hslash : path.toList = ['/'] ↔ path = "/" := by
    rw [← String.toList_inj]
    rfl
  unfold childPath extendPath
  by_cases h : path = "/"
  · rw [if_pos h, if_pos (hslash.mpr h), String.toList_append]
    simp
  · rw [if_neg h, if_neg (fun h' => h (hslash.mp h')), String.toList_append, String.toList_append]
    simp

theorem extendPath_eq (path : List Char) {ss : List (List Char)} (hne : ss ≠ []) :
    extendPath path ss = (if path = ['/'] then [] else path) ++ ss.flatMap ('/' :: ·) := by
  cases ss with
  | nil => contradiction
  | cons s ss => rfl

/-- Going down by a segment and then by others is going down by all of them. -/
theorem extendPath_cons (path : List Char) {s : List Char} (hs : s ≠ []) (ss : List (List Char)) :
    extendPath path (s :: ss) = extendPath (extendPath path [s]) ss := by
  have hne : extendPath path [s] ≠ ['/'] := by
    intro h
    have hlength := congrArg List.length h
    have hpos := List.length_pos_iff.mpr hs
    simp only [extendPath, List.flatMap_cons, List.flatMap_nil, List.length_append, List.length_cons,
      List.length_nil] at hlength
    omega
  cases ss with
  | nil => rfl
  | cons t ts =>
      rw [extendPath_eq (extendPath path [s]) (List.cons_ne_nil t ts), if_neg hne]
      simp [extendPath]

/-! ## placing -/

@[simp] theorem place_path (path : String) (n : Node) : (place path n).path = path := by
  cases n
  rw [place]

@[simp] theorem place_name (path : String) (n : Node) : (place path n).name = n.name := by
  cases n
  rw [place]

mutual

theorem placed_place (path : String) : (n : Node) → Placed (place path n)
  | ⟨name, _, properties, children⟩ => by
      rw [place]
      have h := placed_placeAll path children
      exact ⟨fun c hc => (h c hc).1, fun c hc => (h c hc).2⟩

theorem placed_placeAll (parent : String) : (ns : List Node) →
    ∀ c ∈ placeAll parent ns, c.path = childPath parent c.name ∧ Placed c
  | [] => by simp [placeAll]
  | n :: ns => by
      rw [placeAll, List.forall_mem_cons]
      exact ⟨⟨by simp, placed_place _ n⟩, placed_placeAll parent ns⟩

end

theorem child?_eq_some {n c : Node} {name : String} (h : n.child? name = some c) :
    c ∈ n.children ∧ c.name = name := by
  have hname := List.find?_some h
  exact ⟨List.mem_of_find?_eq_some h, beq_iff_eq.mp hname⟩

/-- What names lead to has the path that goes down by them. -/
theorem Placed.path_of_descend? {n m : Node} {ss : List (List Char)} (h : Placed n)
    (hne : ∀ s ∈ ss, s ≠ []) (hd : n.descend? (ss.map String.ofList) = some m) :
    m.path.toList = extendPath n.path.toList ss := by
  induction ss generalizing n with
  | nil =>
      injection hd with hd
      subst hd
      rfl
  | cons s ss ih =>
      obtain ⟨hs, hss⟩ := List.forall_mem_cons.mp hne
      obtain ⟨c, hc, hd⟩ := Option.bind_eq_some_iff.mp hd
      obtain ⟨hmem, hname⟩ := child?_eq_some hc
      cases h with
      | mk paths below =>
          rw [ih (below c hmem) hss hd, paths c hmem, toList_childPath, hname, String.toList_ofList,
            ← extendPath_cons _ hs]

/-- What names lead to is at some place. -/
theorem exists_at?_of_descend? {n m : Node} {ss : List String} (hd : n.descend? ss = some m) :
    ∃ p, n.at? p = some m := by
  induction ss generalizing n with
  | nil => exact ⟨[], hd⟩
  | cons s ss ih =>
      obtain ⟨c, hc, hd⟩ := Option.bind_eq_some_iff.mp hd
      obtain ⟨i, hi⟩ := List.mem_iff_getElem?.mp (child?_eq_some hc).1
      obtain ⟨p, hp⟩ := ih hd
      exact ⟨i :: p, by rw [at?, hi, Option.bind_some, hp]⟩

/-! ## names and places -/

/-- Among nodes with different names each is found by its own. -/
theorem find?_name_of_nodup {ns : List Node} (h : (ns.map Node.name).Nodup) {c : Node}
    (hc : c ∈ ns) : ns.find? (fun d => d.name == c.name) = some c := by
  induction ns with
  | nil => contradiction
  | cons n ns ih =>
      rw [List.map_cons, List.nodup_cons] at h
      obtain ⟨hn, hns⟩ := h
      obtain rfl | hc := List.mem_cons.mp hc
      · simp
      · have hne : n.name ≠ c.name := fun heq => hn (heq ▸ List.mem_map_of_mem hc)
        rw [List.find?_cons_of_neg (by simpa using hne), ih hns hc]

variable {n m : Node} {p q : List Nat}

theorem at?_cons_eq_some {i : Nat} (h : n.at? (i :: p) = some m) :
    ∃ c, n.children[i]? = some c ∧ c ∈ n.children ∧ c.at? p = some m ∧
      n.namesTo (i :: p) = c.name.toList :: c.namesTo p := by
  obtain ⟨c, hc, hp⟩ := Option.bind_eq_some_iff.mp h
  exact ⟨c, hc, List.mem_of_getElem? hc, hp, by rw [namesTo, hc]⟩

theorem WellNamed.plain_of_mem_namesTo (h : WellNamed n) (hp : n.at? p = some m) :
    ∀ s ∈ n.namesTo p, IsPlainName s := by
  induction p generalizing n with
  | nil => simp [namesTo]
  | cons i p ih =>
      obtain ⟨c, -, hc, hp, hnames⟩ := at?_cons_eq_some hp
      cases h with
      | mk plain distinct below =>
          rw [hnames, List.forall_mem_cons]
          exact ⟨plain c hc, ih (below c hc) hp⟩

/-- The names on the way to a place lead there. -/
theorem WellNamed.descend?_namesTo (h : WellNamed n) (hp : n.at? p = some m) :
    n.descend? ((n.namesTo p).map String.ofList) = some m := by
  induction p generalizing n with
  | nil => exact hp
  | cons i p ih =>
      obtain ⟨c, -, hc, hp, hnames⟩ := at?_cons_eq_some hp
      cases h with
      | mk plain distinct below =>
          have hchild : n.child? c.name = some c := find?_name_of_nodup distinct hc
          rw [hnames, List.map_cons, String.ofList_toList, descend?, hchild, Option.bind_some,
            ih (below c hc) hp]

/-- No two places have the same names on the way. -/
theorem WellNamed.namesTo_injective {m' : Node} (h : WellNamed n) (hp : n.at? p = some m)
    (hq : n.at? q = some m') (hnames : n.namesTo p = n.namesTo q) : p = q := by
  induction p generalizing n q with
  | nil =>
      cases q with
      | nil => rfl
      | cons j q =>
          obtain ⟨d, -, -, -, hnames'⟩ := at?_cons_eq_some hq
          rw [hnames', namesTo] at hnames
          contradiction
  | cons i p ih =>
      obtain ⟨c, hi, hc, hp, hnames₁⟩ := at?_cons_eq_some hp
      cases q with
      | nil =>
          rw [hnames₁, namesTo] at hnames
          contradiction
      | cons j q =>
          obtain ⟨d, hj, hd, hq, hnames₂⟩ := at?_cons_eq_some hq
          rw [hnames₁, hnames₂] at hnames
          injection hnames with hname hrest
          cases h with
          | mk plain distinct below =>
              have hname : n.children[i]?.map Node.name = n.children[j]?.map Node.name := by
                rw [hi, hj, Option.map_some, Option.map_some, String.toList_inj.mp hname]
              rw [← List.getElem?_map, ← List.getElem?_map] at hname
              have hlt : i < (n.children.map Node.name).length := by
                rw [List.length_map]
                exact (List.getElem?_eq_some_iff.mp hi).1
              obtain rfl : i = j := (List.getElem?_inj hlt distinct).mp hname
              rw [hi] at hj
              injection hj with hj
              subst hj
              rw [ih (below c hc) hp hq hrest]

end Node

end TreeSift
