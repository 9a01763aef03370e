import TreeSift.Proofs.Content.Path
import TreeSift.Proofs.Json.Keys

/-!
# TreeSift.Proofs.Content.Load

Loading a document loses nothing and reorders no child.

1. Of the members of an object those with objects for values become children and the others become
   properties.  `Loaded n members` says so of a node and of all below it.
2. A node is filled member by member.  What comes out in the end is said once, `fill_eq`: properties
   are set in sorted order, which for keys that are new is another order and nothing else
   (`perm_insertProperty`), and children come one after another.
3. A document is `Kept` if nothing in it is given another type or written as text.  Then a node is
   turned back into the object it was loaded from, in another order of members
   (`Loaded.rearranged`).
-/

namespace TreeSift

/-! ## documents -/

namespace Json

/-- The members of a document that is an object. -/
def members? : Json → Option (List (String × Json))
  | .object members => some members
  | _ => none

/-- The members with objects for values. -/
def objects (members : List (String × Json)) : List (String × List (String × Json)) :=
  members.filterMap fun m => m.2.members?.map fun below => (m.1, below)

/-- The members with anything else for values. -/
def others (members : List (String × Json)) : List (String × Json) :=
  members.filter fun m => m.2.members?.isNone

/-- Loading keeps the document as it is: no text is a date with its own offset, no array has an
object in it, and numbers are whole ones of 64 bits or finite doubles. -/
inductive Kept : Json → Prop where
  | null : Kept .null
  | boolean (b : Bool) : Kept (.boolean b)
  | integer {n : Int} (h : Number.IsSigned64 n) : Kept (.integer n)
  | float {x : Binary64} (h : x.isFinite = true) : Kept (.float x)
  | string {s : String} (h : Moment.ofZonedText? s.toList = none) : Kept (.string s)
  | array {items : List Json} (plain : ∀ j ∈ items, j.members? = none)
    (values : ∀ j ∈ items, Kept j) : Kept (.array items)
  | object {members : List (String × Json)} (values : ∀ m ∈ members, Kept m.2) :
    Kept (.object members)

mutual

/-- The documents are the same but for the order of the members of objects. -/
inductive Rearranged : Json → Json → Prop where
  | refl (j : Json) : Rearranged j j
  | object {as bs cs : List (String × Json)} (each : RearrangedEach as bs) (order : bs.Perm cs) :
    Rearranged (.object as) (.object cs)

/-- The members are the same one by one, but for the order within their values. -/
inductive RearrangedEach : List (String × Json) → List (String × Json) → Prop where
  | nil : RearrangedEach [] []
  | cons {key : String} {a b : Json} {as bs : List (String × Json)} (first : Rearranged a b)
    (more : RearrangedEach as bs) : RearrangedEach ((key, a) :: as) ((key, b) :: bs)

end

theorem RearrangedEach.refl (ms : List (String × Json)) : RearrangedEach ms ms := by
  induction ms with
  | nil => exact .nil
  | cons m ms ih => exact .cons (.refl m.2) ih

theorem RearrangedEach.append {as bs cs ds : List (String × Json)} (h : RearrangedEach as bs)
    (h' : RearrangedEach cs ds) : RearrangedEach (as ++ cs) (bs ++ ds) := by
  induction as generalizing bs with
  | nil =>
      cases h with
      | nil => exact h'
  | cons a as ih =>
      cases h with
      | cons first more => exact .cons first (ih more)

variable {ms : List (String × Json)}

theorem object_of_members? {j : Json} (h : j.members? = some ms) : j = .object ms := by
  cases j with
  | object members =>
      injection h with h
      rw [h]
  | _ => contradiction

theorem objects_cons (key : String) (j : Json) (ms : List (String × Json)) :
    objects ((key, j) :: ms) = (match j.members? with
      | some below => [(key, below)]
      | none => []) ++ objects ms := by
  cases h : j.members? <;> simp [objects, h]

theorem others_cons (key : String) (j : Json) (ms : List (String × Json)) :
    others ((key, j) :: ms) = (if j.members?.isNone then [(key, j)] else []) ++ others ms := by
  cases h : j.members? <;> simp [others, h]

theorem mem_of_mem_objects {m : String × List (String × Json)} (h : m ∈ objects ms) :
    (m.1, .object m.2) ∈ ms := by
  obtain ⟨m', hm', h⟩ := List.mem_filterMap.mp h
  obtain ⟨below, hbelow, rfl⟩ := Option.map_eq_some_iff.mp h
  exact object_of_members? hbelow ▸ hm'

theorem mem_others {m : String × Json} : m ∈ others ms ↔ m ∈ ms ∧ m.2.members? = none := by
  simp [others]

/-- The others and the objects are all the members there are. -/
theorem perm_others_objects (ms : List (String × Json)) :
    (others ms ++ (objects ms).map fun m => (m.1, Json.object m.2)).Perm ms := by
  induction ms with
  | nil => exact .refl []
  | cons m ms ih =>
      obtain ⟨key, j⟩ := m
      rw [others_cons, objects_cons]
      cases h : j.members? with
      | none => exact ih.cons (key, j)
      | some below =>
          obtain rfl := object_of_members? h
          exact List.perm_middle.trans (ih.cons _)

/-- No object has a key with another member. -/
theorem not_mem_keys_others (h : (ms.map Prod.fst).Nodup) {m : String × List (String × Json)}
    (hm : m ∈ objects ms) : m.1 ∉ (others ms).map Prod.fst := by
  have hall := (((perm_others_objects ms).map Prod.fst).nodup_iff).mpr h
  rw [List.map_append, List.map_map] at hall
  exact fun hkey => (List.nodup_append.mp hall).2.2 _ hkey _ (List.mem_map_of_mem hm) rfl

theorem nodup_keys_others (h : (ms.map Prod.fst).Nodup) : ((others ms).map Prod.fst).Nodup :=
  h.sublist (List.Sublist.map Prod.fst List.filter_sublist)

end Json

namespace Node

open Json

/-! ## what a loaded node is -/

mutual

/-- The node is the object with these members: the children are the members with objects for values
in their order, the properties are the others, and no key is both. -/
inductive Loaded : Node → List (String × Json) → Prop where
  | mk {n : Node} {ms : List (String × Json)}
    (properties : n.properties.Perm ((others ms).map fun m => (m.1, propertyOf m.2)))
    (apart : ∀ m ∈ objects ms, n.property? m.1 = none)
    (children : LoadedAll n.children (objects ms)) : Loaded n ms

/-- The nodes are the objects in their order, and are named by their keys. -/
inductive LoadedAll : List Node → List (String × List (String × Json)) → Prop where
  | nil : LoadedAll [] []
  | cons {n : Node} {ns : List Node} {ms : List (String × Json)}
    {more : List (String × List (String × Json))} (first : Loaded n ms)
    (rest : LoadedAll ns more) : LoadedAll (n :: ns) ((n.name, ms) :: more)

end

mutual

/-- The object of a node: its properties, and its children by their names. -/
def rebuild (n : Node) : Json :=
  match n with
  | ⟨_, _, properties, children⟩ =>
    .object (properties.map (fun p => (p.1, p.2.toJson)) ++ rebuildAll children)

/-- The members that nodes are. -/
def rebuildAll : List Node → List (String × Json)
  | [] => []
  | n :: ns => (n.name, rebuild n) :: rebuildAll ns

end

theorem rebuild_eq (n : Node) :
    n.rebuild =
      .object (n.properties.map (fun p => (p.1, p.2.toJson)) ++ rebuildAll n.children) := by
  cases n
  rw [rebuild]

/-! ## filling -/

theorem eq_of_textOrder_eq {as bs : List Char} (h : Value.textOrder as bs = .eq) : as = bs := by
  induction as generalizing bs with
  | nil => cases bs with
    | nil => rfl
    | cons b bs => contradiction
  | cons a as ih =>
      cases bs with
      | nil => contradiction
      | cons b bs =>
          rw [Value.textOrder] at h
          split at h
          · next hab => rw [hab, ih h]
          · split at h <;> contradiction

/-- A property with a new key is put among the others. -/
theorem perm_insertProperty {key : String} {ps : List (String × Value)} (value : Value)
    (h : key ∉ ps.map Prod.fst) : (insertProperty key value ps).Perm ((key, value) :: ps) := by
  induction ps with
  | nil => exact .refl _
  | cons p ps ih =>
      obtain ⟨k, v⟩ := p
      rw [List.map_cons, List.mem_cons, not_or] at h
      obtain ⟨hk, hps⟩ := h
      unfold insertProperty
      split
      · exact .refl _
      · next heq => exact absurd (String.toList_inj.mp (eq_of_textOrder_eq heq)) hk
      · exact ((ih hps).cons (k, v)).trans (.swap (key, value) (k, v) ps)

/-- Properties of documents, set one after the other. -/
def setProperties (ps : List (String × Value)) (ms : List (String × Json)) :
    List (String × Value) :=
  ms.foldl (fun ps m => insertProperty m.1 (propertyOf m.2) ps) ps

/-- Properties with new keys are put among those there are. -/
theorem perm_setProperties {ps : List (String × Value)} {ms : List (String × Json)}
    (hkeys : (ms.map Prod.fst).Nodup) (hnew : ∀ m ∈ ms, m.1 ∉ ps.map Prod.fst) :
    (setProperties ps ms).Perm (ps ++ ms.map fun m => (m.1, propertyOf m.2)) := by
  induction ms generalizing ps with
  | nil => simp [setProperties]
  | cons m ms ih =>
      rw [List.map_cons, List.nodup_cons] at hkeys
      obtain ⟨hm, hms⟩ := hkeys
      obtain ⟨hnewm, hnewms⟩ := List.forall_mem_cons.mp hnew
      have hput := perm_insertProperty (propertyOf m.2) hnewm
      have hnew' : ∀ m' ∈ ms, m'.1 ∉ (insertProperty m.1 (propertyOf m.2) ps).map Prod.fst := by
        intro m' hm' hmem
        obtain heq | hmem := List.mem_cons.mp ((hput.map Prod.fst).subset hmem)
        · exact hm (heq ▸ List.mem_map_of_mem hm')
        · exact hnewms m' hm' hmem
      have hrest := ih hms hnew'
      exact hrest.trans ((hput.append_right _).trans List.perm_middle.symm)

/-- What filling comes to: the others are set as properties, and the objects become children. -/
theorem fill_eq (n : Node) (ms : List (String × Json)) :
    fill n ms = { n with
      properties := setProperties n.properties (others ms)
      children := n.children ++ (objects ms).map fun m => fill (named m.1) m.2 } := by
  induction ms generalizing n with
  | nil =>
      rw [fill]
      cases n
      simp [others, objects, setProperties]
  | cons m ms ih =>
      obtain ⟨key, j⟩ := m
      rw [fill, others_cons, objects_cons]
      cases hj : j.members? with
      | none =>
          have hmember : ofMember? key j = none := by
            cases j with
            | object members => contradiction
            | _ => rw [ofMember?]; simp
          rw [hmember]
          dsimp only
          rw [ih]
          rfl
      | some below =>
          obtain rfl := object_of_members? hj
          rw [ofMember?]
          dsimp only
          rw [ih]
          simp [addChild]

theorem property?_eq_none {n : Node} {key : String} (h : key ∉ n.properties.map Prod.fst) :
    n.property? key = none := by
  rw [property?, Option.map_eq_none_iff, List.find?_eq_none]
  intro p hp hkey
  exact h (beq_iff_eq.mp hkey ▸ List.mem_map_of_mem hp)

theorem loadedAll_map {os : List (String × List (String × Json))}
    (h : ∀ m ∈ os, Loaded (fill (named m.1) m.2) m.2) :
    LoadedAll (os.map fun m => fill (named m.1) m.2) os := by
  induction os with
  | nil => exact .nil
  | cons m os ih =>
      obtain ⟨hm, hos⟩ := List.forall_mem_cons.mp h
      have hname : m = ((fill (named m.1) m.2).name, m.2) := by
        rw [fill_eq]
        rfl
      rw [List.map_cons]
      conv => rhs; rw [hname]
      exact .cons hm (ih hos)

/-- A node that is filled with an object is loaded from it. -/
theorem loaded_fill {j : Json} (h : DistinctKeys j) :
    ∀ ms, j = .object ms → ∀ name, Loaded (fill (named name) ms) ms := by
  induction h with
  | @object members distinct values ih =>
      intro ms hms name
      injection hms with hms
      subst hms
      rw [fill_eq]
      have hperm : (setProperties [] (Json.others members)).Perm ([] ++ _) :=
        perm_setProperties (nodup_keys_others distinct) fun _ _ => List.not_mem_nil
      refine .mk hperm (fun m hm => property?_eq_none fun hkey => ?_) ?_
      · have hkeys := (hperm.map Prod.fst).subset hkey
        rw [List.nil_append, List.map_map] at hkeys
        exact not_mem_keys_others distinct hm hkeys
      · exact loadedAll_map fun m hm => ih _ (mem_of_mem_objects hm) m.2 rfl m.1
  | _ => simp

/-! ## mounting -/

mutual

theorem Loaded.place (path : String) {n : Node} {ms : List (String × Json)} :
    Loaded n ms → Loaded (n.place path) ms
  | .mk properties apart children => by
      cases n
      rw [Node.place]
      exact .mk properties apart (children.placeAll path)

theorem LoadedAll.placeAll (parent : String) {ns : List Node}
    {os : List (String × List (String × Json))} : LoadedAll ns os →
    LoadedAll (Node.placeAll parent ns) os
  | .nil => by
      rw [Node.placeAll]
      exact .nil
  | .cons (n := n) first rest => by
      have hplaced := LoadedAll.cons (first.place (childPath parent n.name)) (rest.placeAll parent)
      rw [place_name] at hplaced
      rw [Node.placeAll]
      exact hplaced

end

/-! ## rebuilding -/

theorem propertiesOf_eq_map (js : List Json) : propertiesOf js = js.map propertyOf := by
  induction js with
  | nil => simp [propertiesOf]
  | cons j js ih => simp [propertiesOf, ih]

theorem toJsonItems_eq_map (vs : List Value) : Value.toJsonItems vs = vs.map Value.toJson := by
  induction vs with
  | nil => simp [Value.toJsonItems]
  | cons v vs ih => simp [Value.toJsonItems, ih]

/-- A property of a kept document is written as it was. -/
theorem toJson_propertyOf {j : Json} (h : Kept j) (hj : j.members? = none) :
    (propertyOf j).toJson = j := by
  induction h with
  | null => simp [propertyOf, Value.ofJson, Value.toJson]
  | boolean b => simp [propertyOf, Value.ofJson, Value.toJson]
  | @integer n h =>
      have hn : (Int64.ofInt n).toInt = n := Number.toInt_ofInt_of_isSigned64 h
      have hlong : Value.ofInteger n = .long (Int64.ofInt n) := if_pos h
      simp [propertyOf, Value.ofJson, hlong, Value.toJson, hn]
  | float h => simp [propertyOf, Value.ofJson, Value.toJson, h]
  | string h => simp [propertyOf, h, Value.toJson]
  | @array items plain values ih =>
      have hitems : items.map (fun j => (propertyOf j).toJson) = items := by
        rw [List.map_congr_left fun j hj => ih j hj (plain j hj), List.map_id']
      rw [propertyOf, Value.toJson, propertiesOf_eq_map, toJsonItems_eq_map, List.map_map]
      exact congrArg Json.array hitems
  | object => contradiction

mutual

theorem Loaded.rearranged {n : Node} {ms : List (String × Json)} :
    Loaded n ms → Kept (.object ms) → Rearranged n.rebuild (.object ms)
  | .mk properties apart children, .object values => by
      have hothers : ((others ms).map fun m => (m.1, propertyOf m.2)).map
          (fun p => (p.1, p.2.toJson)) = others ms := by
        rw [List.map_map, List.map_congr_left (g := id), List.map_id]
        intro m hm
        obtain ⟨hmem, hplain⟩ := mem_others.mp hm
        exact Prod.ext rfl (toJson_propertyOf (values m hmem) hplain)
      have hproperties := properties.map fun p => (p.1, p.2.toJson)
      rw [hothers] at hproperties
      have hchildren := children.rearranged fun m hm => values _ (mem_of_mem_objects hm)
      rw [rebuild_eq]
      refine .object ((RearrangedEach.refl _).append hchildren) ?_
      exact (hproperties.append_right _).trans (perm_others_objects ms)

theorem LoadedAll.rearranged {ns : List Node} {os : List (String × List (String × Json))} :
    LoadedAll ns os → (∀ m ∈ os, Kept (.object m.2)) →
    RearrangedEach (rebuildAll ns) (os.map fun m => (m.1, .object m.2))
  | .nil, _ => by
      rw [rebuildAll]
      exact .nil
  | .cons first rest, h => by
      obtain ⟨hfirst, hrest⟩ := List.forall_mem_cons.mp h
      rw [rebuildAll]
      exact .cons (first.rearranged hfirst) (rest.rearranged hrest)

end

/-- Neither the name nor the path of a node says what it was loaded from. -/
theorem Loaded.rename {n : Node} {ms : List (String × Json)} (name : String) (h : Loaded n ms) :
    Loaded { n with name := name } ms := by
  cases h with
  | mk properties apart children => exact .mk properties apart children

end Node

namespace Tree

open Json Node

/-- **Loading loses nothing.**  A kept document that is an object, with distinct keys in every
object as those have that are read (`Json.distinctKeys_of_read?`), is a tree: at every level the
children are the members with objects for values, in their order and by their keys, the properties
are the other members, and no key is both.  The tree is turned back into the document, but for the
order of members. -/
theorem ofJson_loses_nothing (path : String) {members : List (String × Json)}
    (hkeys : DistinctKeys (.object members)) (hkept : Kept (.object members)) :
    ∃ t, ofJson path (.object members) = .ok t ∧ Loaded t.root members ∧
      Rearranged t.root.rebuild (.object members) := by
  have hloaded : Loaded (mount path (fill (named "") members)).root members :=
    ((loaded_fill hkeys members rfl "").rename _).place _
  exact ⟨_, rfl, hloaded, hloaded.rearranged hkept⟩

/-- Two objects with a list and a number between them. -/
def mixedMembers : List (String × Json) :=
  [("b", .object [("x", .null)]), ("list", .array [.boolean true, .string "a"]),
    ("a", .object [("n", .integer (-3)), ("below", .object [])])]

/-- The children of a document are in its order, and the list between them is a property. -/
theorem ofJson_loses_nothing_mixed :
    DistinctKeys (.object mixedMembers) ∧ Kept (.object mixedMembers) ∧
    ∃ t, ofJson "/content" (.object mixedMembers) = .ok t ∧ Loaded t.root mixedMembers ∧
      Rearranged t.root.rebuild (.object mixedMembers) := by
  have hkeys : DistinctKeys (.object mixedMembers) := by
    refine .object (by decide) ?_
    simp only [mixedMembers, List.forall_mem_cons]
    refine ⟨.object (by decide) ?_, .array ?_, .object (by decide) ?_, by simp⟩
    · simpa using .null
    · simpa using ⟨.boolean true, .string "a"⟩
    · simpa using ⟨.integer (-3), .object (by simp) (by simp)⟩
  have hkept : Kept (.object mixedMembers) := by
    have hdate : Moment.ofZonedText? "a".toList = none := rfl
    refine .object ?_
    simp only [mixedMembers, List.forall_mem_cons]
    refine ⟨.object ?_, .array (by simp [members?]) ?_, .object ?_, by simp⟩
    · simpa using .null
    · simpa using ⟨.boolean true, .string hdate⟩
    · simpa using ⟨.integer (by decide), .object (by simp)⟩
  exact ⟨hkeys, hkept, ofJson_loses_nothing "/content" hkeys hkept⟩

end Tree

end TreeSift
