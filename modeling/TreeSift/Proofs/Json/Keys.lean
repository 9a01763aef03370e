import Mathlib.Data.List.Nodup
import TreeSift.Json.Read

/-!
# TreeSift.Proofs.Json.Keys

No object of a document that was read has two members with one key.

A key that comes again changes the value in place (`Json.insert`), so the members of an object have
distinct keys however often a key was written, and what was read for a value is all that its
members have.
-/

namespace TreeSift

namespace Json

/-- No object in the document, at any depth, has two members with one key. -/
inductive DistinctKeys : Json → Prop where
  | null : DistinctKeys .null
  | boolean (b : Bool) : DistinctKeys (.boolean b)
  | integer (n : Int) : DistinctKeys (.integer n)
  | float (x : Binary64) : DistinctKeys (.float x)
  | string (s : String) : DistinctKeys (.string s)
  | array {items : List Json} (values : ∀ j ∈ items, DistinctKeys j) : DistinctKeys (.array items)
  | object {members : List (String × Json)} (distinct : (members.map Prod.fst).Nodup)
    (values : ∀ m ∈ members, DistinctKeys m.2) : DistinctKeys (.object members)

/-! ## members put together -/

section

variable {α : Type} {ms : List (String × α)} {key : String} {value : α}

/-- A key that is set is there once, where it was or at the end. -/
theorem keys_insert (ms : List (String × α)) (key : String) (value : α) :
    (insert ms key value).map Prod.fst =
      if key ∈ ms.map Prod.fst then ms.map Prod.fst else ms.map Prod.fst ++ [key] := by
  have hany : (ms.any fun m => m.1 == key) = true ↔ key ∈ ms.map Prod.fst := by simp
  unfold insert
  by_cases h : key ∈ ms.map Prod.fst
  · rw [if_pos (hany.mpr h), if_pos h, List.map_map]
    refine List.map_congr_left fun m _ => ?_
    rw [Function.comp_apply]
    split <;> rfl
  · rw [if_neg (fun h' => h (hany.mp h')), if_neg h, List.map_append]
    rfl

theorem nodup_insert (h : (ms.map Prod.fst).Nodup) :
    ((insert ms key value).map Prod.fst).Nodup := by
  rw [keys_insert]
  split
  · exact h
  · next hkey => exact List.concat_eq_append ▸ h.concat hkey

theorem forall_insert {P : α → Prop} (h : ∀ m ∈ ms, P m.2) (hvalue : P value) :
    ∀ m ∈ insert ms key value, P m.2 := by
  unfold insert
  split
  · intro m hm
    obtain ⟨m', hm', rfl⟩ := List.mem_map.mp hm
    split
    · exact hvalue
    · exact h m' hm'
  · intro m hm
    obtain hm | hm := List.mem_append.mp hm
    · exact h m hm
    · obtain rfl := List.mem_singleton.mp hm
      exact hvalue

/-- Members put together have distinct keys, and no values but those written. -/
theorem ofMembers_spec {P : α → Prop} (h : ∀ m ∈ ms, P m.2) :
    ((ofMembers ms).map Prod.fst).Nodup ∧ ∀ m ∈ ofMembers ms, P m.2 := by
  have fold (acc : List (String × α)) (hkeys : (acc.map Prod.fst).Nodup)
      (hacc : ∀ m ∈ acc, P m.2) :
      ((ms.foldl (fun acc m => insert acc m.1 m.2) acc).map Prod.fst).Nodup ∧
        ∀ m ∈ ms.foldl (fun acc m => insert acc m.1 m.2) acc, P m.2 := by
    induction ms generalizing acc with
    | nil => exact ⟨hkeys, hacc⟩
    | cons m ms ih =>
        obtain ⟨hm, hms⟩ := List.forall_mem_cons.mp h
        exact ih hms _ (nodup_insert hkeys) (forall_insert hacc hm)
  exact fold [] List.nodup_nil (by simp)

end

/-! ## what is read -/

theorem distinctKeys_readUnsigned? {negative : Bool} {cs : List Char} {p : Json × List Char}
    (h : readUnsigned? negative cs = some p) : DistinctKeys p.1 := by
  have float {x : Option (Binary64 × List Char)}
      (h : x.map (fun p => (Json.float p.1, p.2)) = some p) : DistinctKeys p.1 := by
    obtain ⟨q, -, rfl⟩ := Option.map_eq_some_iff.mp h
    exact .float q.1
  have integer (s : Nat) : DistinctKeys (readUnsigned?.integer negative s) := by
    unfold readUnsigned?.integer
    repeat' split
    all_goals constructor
  unfold readUnsigned? at h
  dsimp only at h
  split at h
  · contradiction
  split at h
  · contradiction
  split at h
  · contradiction
  split at h
  · exact float h
  · exact float h
  · exact float h
  · split at h
    · split at h
      · exact float h
      · exact float h
    · obtain rfl := Option.some.inj h
      exact integer _
  · obtain rfl := Option.some.inj h
    exact integer _

theorem distinctKeys_readNumber? {cs : List Char} {p : Json × List Char}
    (h : readNumber? cs = some p) : DistinctKeys p.1 := by
  unfold readNumber? at h
  split at h
  · exact distinctKeys_readUnsigned? h
  · exact distinctKeys_readUnsigned? h

mutual

theorem distinctKeys_readValue? : (fuel depth : Nat) → (cs : List Char) →
    ∀ {p : Json × List Char}, readValue? fuel depth cs = some p → DistinctKeys p.1
  | 0, _, _, p, h => by
      rw [readValue?] at h
      contradiction
  | fuel + 1, depth, cs, p, h => by
      rw [readValue?] at h
      split at h
      · contradiction
      · obtain ⟨r, -, rfl⟩ := Option.map_eq_some_iff.mp h
        exact .null
      · obtain ⟨r, -, rfl⟩ := Option.map_eq_some_iff.mp h
        exact .boolean true
      · obtain ⟨r, -, rfl⟩ := Option.map_eq_some_iff.mp h
        exact .boolean false
      · obtain ⟨r, -, rfl⟩ := Option.map_eq_some_iff.mp h
        exact .string _
      · split at h
        · contradiction
        split at h
        · obtain rfl := Option.some.inj h
          exact .array fun _ hj => absurd hj List.not_mem_nil
        · obtain ⟨r, hr, rfl⟩ := Option.map_eq_some_iff.mp h
          exact .array (distinctKeys_readItems? fuel _ [] _ (by simp) hr)
      · split at h
        · contradiction
        split at h
        · obtain rfl := Option.some.inj h
          exact .object (by simp) (by simp)
        · obtain ⟨r, hr, rfl⟩ := Option.map_eq_some_iff.mp h
          obtain ⟨hkeys, hvalues⟩ :=
            ofMembers_spec (distinctKeys_readMembers? fuel _ [] _ (by simp) hr)
          exact .object hkeys hvalues
      · exact distinctKeys_readNumber? h

theorem distinctKeys_readItems? : (fuel depth : Nat) → (seen : List Json) → (cs : List Char) →
    ∀ {p : List Json × List Char}, (∀ j ∈ seen, DistinctKeys j) →
      readItems? fuel depth seen cs = some p → ∀ j ∈ p.1, DistinctKeys j
  | 0, _, _, _, p, _, h => by
      rw [readItems?] at h
      contradiction
  | fuel + 1, depth, seen, cs, p, hseen, h => by
      rw [readItems?] at h
      split at h
      · contradiction
      · next j r hj =>
        have hmore : ∀ i ∈ j :: seen, DistinctKeys i :=
          List.forall_mem_cons.mpr ⟨distinctKeys_readValue? fuel depth cs hj, hseen⟩
        split at h
        · exact distinctKeys_readItems? fuel depth _ _ hmore h
        · obtain rfl := Option.some.inj h
          exact fun i hi => hmore i (List.mem_reverse.mp hi)
        · contradiction

theorem distinctKeys_readMembers? : (fuel depth : Nat) → (seen : List (String × Json)) →
    (cs : List Char) → ∀ {p : List (String × Json) × List Char},
      (∀ m ∈ seen, DistinctKeys m.2) → readMembers? fuel depth seen cs = some p →
        ∀ m ∈ p.1, DistinctKeys m.2
  | 0, _, _, _, p, _, h => by
      rw [readMembers?] at h
      contradiction
  | fuel + 1, depth, seen, cs, p, hseen, h => by
      rw [readMembers?] at h
      split at h
      · split at h
        · contradiction
        next key _ _ =>
        split at h
        · split at h
          · contradiction
          next j r hj =>
          have hmore : ∀ m ∈ (key, j) :: seen, DistinctKeys m.2 :=
            List.forall_mem_cons.mpr ⟨distinctKeys_readValue? fuel depth _ hj, hseen⟩
          split at h
          · exact distinctKeys_readMembers? fuel depth _ _ hmore h
          · obtain rfl := Option.some.inj h
            exact fun m hm => hmore m (List.mem_reverse.mp hm)
          · contradiction
        · contradiction
      · contradiction

end

/-- No object of a document that was read has two members with one key. -/
theorem distinctKeys_of_read? {text : List Char} {j : Json} (h : read? text = some j) :
    DistinctKeys j := by
  unfold read? readNested? at h
  split at h
  · next hread =>
    split at h
    · obtain rfl := Option.some.inj h
      exact distinctKeys_readValue? _ _ _ hread
    · contradiction
  · contradiction

end Json

end TreeSift
