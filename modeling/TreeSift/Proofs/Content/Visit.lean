import Mathlib.Data.List.Basic
import Mathlib.Data.List.Induction
import TreeSift.Content.Node

/-!
# TreeSift.Proofs.Content.Visit

The recursive walk below a node, as a list of visits.

1. A branch selector answers whether the children of a node come next.  It may look at the nodes it
   was asked about before, so it may count them.
2. `visit` asks about a node and visits its children if the answer is yes; `visitAll` does so for
   siblings from the left.  Both hand on the nodes asked about so far.
3. A *place* is the way to a node from the start: the index of a child, the index of a child of
   that, and so on.  The last section says which places are visited: every one of them once, and
   one exactly if the places above it were accepted.
-/

namespace TreeSift

/-- Answers for a node, given those that were asked about before it, the first one first. -/
abbrev BranchSelector := List Node → Node → Bool

/-- The node at a place below a node. -/
def Node.at? (n : Node) : List Nat → Option Node
  | [] => some n
  | i :: p => n.children[i]?.bind fun child => child.at? p

theorem Node.at?_append (n : Node) (p q : List Nat) :
    n.at? (p ++ q) = (n.at? p).bind fun below => below.at? q := by
  induction p generalizing n with
  | nil => rfl
  | cons i p ih =>
      rw [List.cons_append, at?, at?]
      cases n.children[i]? with
      | none => rfl
      | some child => exact ih child

/-- A node that the walk came to. -/
structure Visit where
  /-- The way to it. -/
  place : List Nat
  /-- The node. -/
  node : Node
  /-- Whether its children come next. -/
  accepted : Bool

namespace Visit

mutual

/-- The visits of a node and of what is below it. -/
def visit (σ : BranchSelector) (asked : List Node) (place : List Nat) : Node → List Visit
  | ⟨name, path, properties, children⟩ =>
    let n : Node := ⟨name, path, properties, children⟩
    ⟨place, n, σ asked n⟩ ::
      if σ asked n then visitAll σ (asked ++ [n]) place 0 children else []

/-- The visits of the children of a place from the index `i` on, and of what is below them. -/
def visitAll (σ : BranchSelector) (asked : List Node) (place : List Nat) (i : Nat) :
    List Node → List Visit
  | [] => []
  | n :: ns =>
    let first := visit σ asked (place ++ [i]) n
    first ++ visitAll σ (asked ++ first.map node) place (i + 1) ns

end

/-- The visits of everything below a node. -/
def visits (σ : BranchSelector) (root : Node) : List Visit := visitAll σ [] [] 0 root.children

variable {σ : BranchSelector} {asked : List Node} {place : List Nat} {i : Nat}

theorem visit_eq (n : Node) :
    visit σ asked place n = ⟨place, n, σ asked n⟩ ::
      if σ asked n then visitAll σ (asked ++ [n]) place 0 n.children else [] := by
  cases n
  rw [visit]

/-- A visit of a node is the one of itself, or one below it if it was accepted. -/
theorem mem_visit {v : Visit} {n : Node} :
    v ∈ visit σ asked place n ↔ v = ⟨place, n, σ asked n⟩ ∨
      σ asked n = true ∧ v ∈ visitAll σ (asked ++ [n]) place 0 n.children := by
  rw [visit_eq, List.mem_cons]
  cases σ asked n <;> simp

theorem mem_visitAll_cons {v : Visit} {n : Node} {ns : List Node} :
    v ∈ visitAll σ asked place i (n :: ns) ↔ v ∈ visit σ asked (place ++ [i]) n ∨
      v ∈ visitAll σ (asked ++ (visit σ asked (place ++ [i]) n).map node) place (i + 1) ns := by
  rw [visitAll, List.mem_append]

/-! ## answers -/

/-- Every visit has the selector's answer, given the nodes before it. -/
def Answered (σ : BranchSelector) : List Node → List Visit → Prop
  | _, [] => True
  | asked, v :: vs => v.accepted = σ asked v.node ∧ Answered σ (asked ++ [v.node]) vs

theorem answered_append {vs ws : List Visit} :
    Answered σ asked (vs ++ ws) ↔
      Answered σ asked vs ∧ Answered σ (asked ++ vs.map node) ws := by
  induction vs generalizing asked with
  | nil => simp [Answered]
  | cons v vs ih => simp [Answered, ih, and_assoc]

mutual

theorem answered_visit : (n : Node) → (asked : List Node) → (place : List Nat) →
    Answered σ asked (visit σ asked place n)
  | ⟨name, path, properties, children⟩, asked, place => by
      rw [visit_eq]
      refine ⟨rfl, ?_⟩
      split
      · exact answered_visitAll children _ place 0
      · trivial

theorem answered_visitAll : (ns : List Node) → (asked : List Node) → (place : List Nat) →
    (i : Nat) → Answered σ asked (visitAll σ asked place i ns)
  | [], _, _, _ => trivial
  | n :: ns, asked, place, i => by
      rw [visitAll]
      exact answered_append.mpr ⟨answered_visit n asked _, answered_visitAll ns _ place (i + 1)⟩

end

/-! ## where visits are -/

mutual

/-- A visit shows the node at its place. -/
theorem at?_of_mem_visit : (n : Node) → {asked : List Node} → {place : List Nat} → {v : Visit} →
    v ∈ visit σ asked place n → ∃ p, v.place = place ++ p ∧ n.at? p = some v.node
  | ⟨name, path, properties, children⟩, asked, place, v, h => by
      obtain rfl | ⟨-, h⟩ := mem_visit.mp h
      · exact ⟨[], by simp, rfl⟩
      · obtain ⟨j, p, c, hp, hj, hc⟩ := at?_of_mem_visitAll children h
        refine ⟨j :: p, by simpa using hp, ?_⟩
        rw [Node.at?, hj]
        exact hc

theorem at?_of_mem_visitAll : (ns : List Node) → {asked : List Node} → {place : List Nat} →
    {i : Nat} → {v : Visit} → v ∈ visitAll σ asked place i ns →
    ∃ j p n, v.place = place ++ (i + j) :: p ∧ ns[j]? = some n ∧ n.at? p = some v.node
  | [], _, _, _, _, h => by simp [visitAll] at h
  | n :: ns, asked, place, i, v, h => by
      obtain h | h := mem_visitAll_cons.mp h
      · obtain ⟨p, hp, hn⟩ := at?_of_mem_visit n h
        exact ⟨0, p, n, by simpa using hp, rfl, hn⟩
      · obtain ⟨j, p, c, hp, hj, hc⟩ := at?_of_mem_visitAll ns h
        refine ⟨j + 1, p, c, ?_, by simpa using hj, hc⟩
        rw [hp, Nat.add_assoc, Nat.add_comm 1 j]

end

mutual

/-- Places come in pre-order: one before those below it, and siblings from the left. -/
theorem ordered_visit : (n : Node) → (asked : List Node) → (place : List Nat) →
    ((visit σ asked place n).map Visit.place).Pairwise (· < ·)
  | ⟨name, path, properties, children⟩, asked, place => by
      rw [visit_eq]
      split
      · rw [List.map_cons, List.pairwise_cons]
        refine ⟨?_, ordered_visitAll children _ place 0⟩
        intro q hq
        obtain ⟨v, hv, rfl⟩ := List.mem_map.mp hq
        obtain ⟨j, p, n, hj, -, -⟩ := at?_of_mem_visitAll children hv
        rw [hj]
        simpa using List.append_left_lt (List.nil_lt_cons (0 + j) p)
      · simp

theorem ordered_visitAll : (ns : List Node) → (asked : List Node) → (place : List Nat) →
    (i : Nat) → ((visitAll σ asked place i ns).map Visit.place).Pairwise (· < ·)
  | [], _, _, _ => by simp [visitAll]
  | n :: ns, asked, place, i => by
      rw [visitAll, List.map_append, List.pairwise_append]
      refine ⟨ordered_visit n asked _, ordered_visitAll ns _ place (i + 1), ?_⟩
      intro q hq q' hq'
      obtain ⟨v, hv, rfl⟩ := List.mem_map.mp hq
      obtain ⟨w, hw, rfl⟩ := List.mem_map.mp hq'
      obtain ⟨p, hp, -⟩ := at?_of_mem_visit n hv
      obtain ⟨j, p', n', hj, -, -⟩ := at?_of_mem_visitAll ns hw
      have hlt : i < i + 1 + j := by omega
      rw [hp, hj, List.append_assoc]
      exact List.append_left_lt (List.cons_lt_cons_iff.mpr (.inl hlt))

end

/-- No place is visited twice. -/
theorem nodup_visitAll (ns : List Node) (asked : List Node) (place : List Nat) (i : Nat) :
    ((visitAll σ asked place i ns).map Visit.place).Nodup := by
  refine (ordered_visitAll ns asked place i).imp ?_
  intro p q h hpq
  subst hpq
  exact List.lt_irrefl p h

/-! ## which places are visited -/

mutual

/-- Above every visit but the first there is one that was accepted. -/
theorem parent_of_mem_visit : (n : Node) → {asked : List Node} → {place : List Nat} → {v : Visit} →
    v ∈ visit σ asked place n → v.place = place ∨
      ∃ w ∈ visit σ asked place n, w.accepted = true ∧ ∃ j, v.place = w.place ++ [j]
  | ⟨name, path, properties, children⟩, asked, place, v, h => by
      obtain rfl | ⟨ha, h⟩ := mem_visit.mp h
      · exact .inl rfl
      · obtain ⟨j, hj⟩ | ⟨w, hw, hacc, hj⟩ := parent_of_mem_visitAll children h
        · exact .inr ⟨_, mem_visit.mpr (.inl rfl), ha, j, hj⟩
        · exact .inr ⟨w, mem_visit.mpr (.inr ⟨ha, hw⟩), hacc, hj⟩

theorem parent_of_mem_visitAll : (ns : List Node) → {asked : List Node} → {place : List Nat} →
    {i : Nat} → {v : Visit} → v ∈ visitAll σ asked place i ns → (∃ j, v.place = place ++ [j]) ∨
      ∃ w ∈ visitAll σ asked place i ns, w.accepted = true ∧ ∃ j, v.place = w.place ++ [j]
  | [], _, _, _, _, h => by simp [visitAll] at h
  | n :: ns, asked, place, i, v, h => by
      obtain h | h := mem_visitAll_cons.mp h
      · obtain hp | ⟨w, hw, hacc, hj⟩ := parent_of_mem_visit n h
        · exact .inl ⟨i, hp⟩
        · exact .inr ⟨w, mem_visitAll_cons.mpr (.inl hw), hacc, hj⟩
      · obtain hp | ⟨w, hw, hacc, hj⟩ := parent_of_mem_visitAll ns h
        · exact .inl hp
        · exact .inr ⟨w, mem_visitAll_cons.mpr (.inr hw), hacc, hj⟩

end

/-- Every sibling is visited. -/
theorem exists_mem_visitAll (ns : List Node) {asked : List Node} {i j : Nat} (hj : j < ns.length) :
    ∃ v ∈ visitAll σ asked place i ns, v.place = place ++ [i + j] := by
  induction ns generalizing asked i j with
  | nil => simp at hj
  | cons n ns ih =>
      cases j with
      | zero => exact ⟨_, mem_visitAll_cons.mpr (.inl (mem_visit.mpr (.inl rfl))), rfl⟩
      | succ j =>
          obtain ⟨v, hv, hp⟩ := ih (i := i + 1) (Nat.lt_of_succ_lt_succ hj)
          refine ⟨v, mem_visitAll_cons.mpr (.inr hv), ?_⟩
          rw [hp, Nat.add_assoc, Nat.add_comm 1 j]

mutual

/-- Below a visit that was accepted every child is visited. -/
theorem child_of_mem_visit : (n : Node) → {asked : List Node} → {place : List Nat} → {w : Visit} →
    w ∈ visit σ asked place n → w.accepted = true → ∀ j, j < w.node.children.length →
      ∃ v ∈ visit σ asked place n, v.place = w.place ++ [j]
  | ⟨name, path, properties, children⟩, asked, place, w, h, hacc, j, hj => by
      obtain rfl | ⟨ha, h⟩ := mem_visit.mp h
      · obtain ⟨v, hv, hp⟩ := exists_mem_visitAll children (i := 0) hj
        exact ⟨v, mem_visit.mpr (.inr ⟨hacc, hv⟩), by simpa using hp⟩
      · obtain ⟨v, hv, hp⟩ := child_of_mem_visitAll children h hacc j hj
        exact ⟨v, mem_visit.mpr (.inr ⟨ha, hv⟩), hp⟩

theorem child_of_mem_visitAll : (ns : List Node) → {asked : List Node} → {place : List Nat} →
    {i : Nat} → {w : Visit} → w ∈ visitAll σ asked place i ns → w.accepted = true →
    ∀ j, j < w.node.children.length →
      ∃ v ∈ visitAll σ asked place i ns, v.place = w.place ++ [j]
  | [], _, _, _, _, h, _, _, _ => by simp [visitAll] at h
  | n :: ns, asked, place, i, w, h, hacc, j, hj => by
      obtain h | h := mem_visitAll_cons.mp h
      · obtain ⟨v, hv, hp⟩ := child_of_mem_visit n h hacc j hj
        exact ⟨v, mem_visitAll_cons.mpr (.inl hv), hp⟩
      · obtain ⟨v, hv, hp⟩ := child_of_mem_visitAll ns h hacc j hj
        exact ⟨v, mem_visitAll_cons.mpr (.inr hv), hp⟩

end

theorem at?_of_mem_visits {root : Node} {v : Visit} (h : v ∈ visits σ root) :
    v.place ≠ [] ∧ root.at? v.place = some v.node := by
  obtain ⟨j, p, n, hp, hj, hn⟩ := at?_of_mem_visitAll root.children h
  rw [List.nil_append, Nat.zero_add] at hp
  rw [hp, Node.at?, hj]
  exact ⟨List.cons_ne_nil j p, hn⟩

/-- All places above a visit were accepted. -/
theorem accepted_of_prefix {root : Node} (p : List Nat) {v : Visit} (h : v ∈ visits σ root)
    (hv : v.place = p) {q : List Nat} (hq : q <+: p) (hne : q ≠ []) (hqp : q ≠ p) :
    ∃ w ∈ visits σ root, w.place = q ∧ w.accepted = true := by
  induction p using List.reverseRecOn generalizing v with
  | nil => exact absurd (List.prefix_nil.mp hq) hne
  | append_singleton p i ih =>
      have hq : q <+: p := (List.prefix_concat_iff.mp hq).resolve_left hqp
      obtain ⟨j, hj⟩ | ⟨w, hw, hacc, j, hj⟩ := parent_of_mem_visitAll root.children h
      · rw [hv] at hj
        obtain rfl : p = [] := (List.append_inj' hj rfl).1
        exact absurd (List.prefix_nil.mp hq) hne
      · rw [hv] at hj
        obtain rfl : p = w.place := (List.append_inj' hj rfl).1
        by_cases hqw : q = w.place
        · exact ⟨w, hw, hqw.symm, hacc⟩
        · exact ih hw rfl hq hqw

theorem lt_of_isSome_at? {n : Node} (h : (n.at? [i]).isSome = true) : i < n.children.length := by
  by_contra hi
  rw [Node.at?, List.getElem?_eq_none (Nat.le_of_not_lt hi)] at h
  contradiction

/-- **A place below the start is visited if and only if all places above it were accepted.** -/
theorem visited_iff {root : Node} {p : List Nat} :
    (∃ v ∈ visits σ root, v.place = p) ↔ p ≠ [] ∧ (root.at? p).isSome = true ∧
      ∀ q, q <+: p → q ≠ [] → q ≠ p → ∃ w ∈ visits σ root, w.place = q ∧ w.accepted = true := by
  constructor
  · intro h
    obtain ⟨v, hv, rfl⟩ := h
    obtain ⟨hne, hat⟩ := at?_of_mem_visits hv
    exact ⟨hne, by rw [hat]; rfl, fun q hq hq' hqp => accepted_of_prefix _ hv rfl hq hq' hqp⟩
  · intro h
    obtain ⟨hne, hat, habove⟩ := h
    obtain ⟨p, i, rfl⟩ := (List.eq_nil_or_concat' p).resolve_left hne
    rw [Node.at?_append] at hat
    by_cases hp : p = []
    · subst hp
      rw [← Nat.zero_add i]
      exact exists_mem_visitAll root.children (lt_of_isSome_at? hat)
    · obtain ⟨w, hw, rfl, hacc⟩ := habove p (List.prefix_append p [i]) hp (by simp)
      rw [(at?_of_mem_visits hw).2] at hat
      exact child_of_mem_visitAll root.children hw hacc i (lt_of_isSome_at? hat)

end Visit

end TreeSift
