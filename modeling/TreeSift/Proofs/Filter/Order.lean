import Mathlib.Logic.ExistsUnique
import TreeSift.Filter.Standard
import TreeSift.Proofs.Value.Order

/-!
# TreeSift.Proofs.Filter.Order

What `== != > >= < <=` say about two values.

1. Each of them accepts some of the three orders that values can have, and none of them is satisfied
   by values that do not compare.  So what they say of one another follows from what they accept
   (`Operator.Ordered`).
2. Exchanging the values exchanges `<` with `>` and `<=` with `>=`, because it turns their order
   round.
3. Together with the order of values this is all there is to know about the six operators
   (`Operator.order_coherent`).
-/

namespace TreeSift

namespace Operator

/-! ## an operator by what it accepts -/

theorem orderHolds_of_compare? {accept : Ordering → Bool} {a b : Value} {o : Ordering}
    (h : a.compare? b = some o) : orderHolds accept a b = accept o := by
  rw [orderHolds, h]

theorem orderHolds_of_none {accept : Ordering → Bool} {a b : Value} (h : a.compare? b = none) :
    orderHolds accept a b = false := by
  rw [orderHolds, h]

/-- An operator that accepts what one of two others accepts. -/
theorem orderHolds_or {accept accept₁ accept₂ : Ordering → Bool}
    (h : ∀ o, accept o = (accept₁ o || accept₂ o)) (a b : Value) :
    orderHolds accept a b = true ↔
      orderHolds accept₁ a b = true ∨ orderHolds accept₂ a b = true := by
  unfold orderHolds
  cases a.compare? b with
  | none => simp
  | some o => simp [h]

/-- An operator that accepts what another one accepts the other way round. -/
theorem orderHolds_swap {accept accept' : Ordering → Bool} (h : ∀ o, accept' o.swap = accept o)
    (a b : Value) : orderHolds accept a b = orderHolds accept' b a := by
  unfold orderHolds
  rw [Value.compare?_swap a b]
  cases a.compare? b with
  | none => rfl
  | some o => exact (h o).symm

/-! ## the six operators -/

/-- The operator that is satisfied by one order only. -/
def ofOrdering : Ordering → Operator
  | .lt => lt
  | .eq => eq
  | .gt => gt

theorem ofOrdering_holds_iff (o : Ordering) (a b : Value) :
    (ofOrdering o).holds a b = true ↔ a.compare? b = some o := by
  cases h : a.compare? b with
  | none => cases o <;> simp [ofOrdering, holds, orderHolds_of_none h]
  | some o' => cases o <;> cases o' <;> simp [ofOrdering, holds, orderHolds_of_compare? h]

/-- How the operators that ask for the order agree on two values. -/
structure Ordered (a b : Value) : Prop where
  /-- Values that compare are less, equal or greater, and not two of that. -/
  existsUnique : (∃ o, a.compare? b = some o) →
    ∃! op : Operator, op ∈ [lt, eq, gt] ∧ op.holds a b = true
  le_iff : le.holds a b = true ↔ lt.holds a b = true ∨ eq.holds a b = true
  ge_iff : ge.holds a b = true ↔ gt.holds a b = true ∨ eq.holds a b = true
  ne_iff : ne.holds a b = true ↔ lt.holds a b = true ∨ gt.holds a b = true
  /-- Values that do not compare satisfy no operator, not even `!=`. -/
  fails : a.compare? b = none → ∀ op ∈ [eq, ne, gt, ge, lt, le], op.holds a b = false
  lt_comm : lt.holds a b = gt.holds b a
  le_comm : le.holds a b = ge.holds b a
  eq_comm : eq.holds a b = eq.holds b a
  ne_comm : ne.holds a b = ne.holds b a

theorem existsUnique_of_compare? {a b : Value} {o : Ordering} (h : a.compare? b = some o) :
    ∃! op : Operator, op ∈ [lt, eq, gt] ∧ op.holds a b = true := by
  have hmem : ∀ o, ofOrdering o ∈ [lt, eq, gt] := by
    intro o
    cases o <;> decide
  have hof : ∀ op ∈ [lt, eq, gt], ∃ o, op = ofOrdering o := by
    intro op hop
    simp only [List.mem_cons, List.not_mem_nil, or_false] at hop
    obtain rfl | rfl | rfl := hop
    · exact ⟨.lt, rfl⟩
    · exact ⟨.eq, rfl⟩
    · exact ⟨.gt, rfl⟩
  refine ⟨ofOrdering o, ⟨hmem o, (ofOrdering_holds_iff o a b).mpr h⟩, ?_⟩
  rintro op ⟨hop, hholds⟩
  obtain ⟨o', rfl⟩ := hof op hop
  have h' := (ofOrdering_holds_iff o' a b).mp hholds
  exact congrArg ofOrdering (Option.some.inj (h'.symm.trans h))

theorem ordered (a b : Value) : Ordered a b where
  existsUnique h := h.elim fun _ => existsUnique_of_compare?
  le_iff := orderHolds_or (by decide) a b
  ge_iff := orderHolds_or (by decide) a b
  ne_iff := orderHolds_or (by decide) a b
  fails h op hop := by
    simp only [List.mem_cons, List.not_mem_nil, or_false] at hop
    obtain rfl | rfl | rfl | rfl | rfl | rfl := hop <;> exact orderHolds_of_none h
  lt_comm := orderHolds_swap (by decide) a b
  le_comm := orderHolds_swap (by decide) a b
  eq_comm := orderHolds_swap (by decide) a b
  ne_comm := orderHolds_swap (by decide) a b

/-- **The order of values is coherent.**  Exchanged, two values compare the other way round or not
at all.  A value that is something, one thing, and no undefined number is equal to itself.  The
values of one kind all compare, and two steps in one direction, or one beside an equality, make a
step in that direction.  The six operators say of two values what follows from their order, and
nothing of values that have none. -/
theorem order_coherent :
    (∀ a b : Value, b.compare? a = (a.compare? b).map .swap) ∧
    (∀ a : Value, a ≠ .null → (∀ items, a ≠ .list items) → a ≠ .double .nan →
      a.compare? a = some .eq) ∧
    (∀ (k : Kind) (a b c : Value), a.OfKind k → b.OfKind k → c.OfKind k →
      (∃ o, a.compare? b = some o) ∧
      ∀ o o', a.compare? b = some o → b.compare? c = some o' → (o = o' ∨ o = .eq ∨ o' = .eq) →
        a.compare? c = some (o.then o')) ∧
    ∀ a b : Value, Ordered a b := by
  refine ⟨Value.compare?_swap, ?_, ?_, ordered⟩
  · intro a hnull hlist hnan
    obtain ⟨k, ha⟩ := Value.exists_ofKind hnull hlist hnan
    exact Value.compare?_self ha
  · intro k a b c ha hb hc
    exact ⟨⟨_, Value.compare?_of_kind ha hb⟩, fun o o' hab hbc =>
      Value.compare?_trans ha hb hc hab hbc⟩

/-- As texts `10` is less than `9` and that less than `é`; as a number `10` is greater than the text
`9`; and a list is not even unequal to a number. -/
theorem order_coherent_ten :
    (Value.text "10").compare? (.text "10") = some .eq ∧
    (Value.text "10").compare? (.text "9") = some .lt ∧
    (Value.text "9").compare? (.text "é") = some .lt ∧
    (Value.text "10").compare? (.text "é") = some .lt ∧
    (Value.long 10).compare? (.text "9") = some .gt ∧
    (Value.text "9").compare? (.long 10) = some .lt ∧
    (∃! op : Operator, op ∈ [lt, eq, gt] ∧ op.holds (.long 10) (.text "9") = true) ∧
    ne.holds (.list [.long 1]) (.long 2) = false := by
  obtain ⟨hswap, hself, htrans, hordered⟩ := order_coherent
  have h₁ : (Value.text "10").compare? (.text "9") = some .lt := by decide
  have h₂ : (Value.text "9").compare? (.text "é") = some .lt := by decide
  have h₃ : (Value.long 10).compare? (.text "9") = some .gt := by decide +kernel
  refine ⟨hself _ (by simp) (by simp) (by simp), h₁, h₂, ?_, h₃, ?_, ?_, ?_⟩
  · exact (htrans .text _ _ _ (.text _) (.text _) (.text _)).2 .lt .lt h₁ h₂ (.inl rfl)
  · exact (hswap _ _).trans (congrArg _ h₃)
  · exact (hordered _ _).existsUnique ⟨_, h₃⟩
  · exact (hordered _ _).fails rfl ne (by decide)

end Operator

end TreeSift
