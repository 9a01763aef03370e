import TreeSift.Proofs.Filter.Membership
import TreeSift.Proofs.Text.Split

/-!
# TreeSift.Proofs.Filter.Nothing

Nothing as one of the values on the right.

1. Nothing is equal to no value, so no list has it, and no value is it.  But a text is searched for
   the text of every item that is wanted in it, and that of nothing is `null`
   (`Operator.holdsItem_null`).
2. So nothing is found exactly in the texts that have `null` in them, and beside other items it
   changes what `contains any` says of those texts only (`Question.nothing_found`).  By itself, and
   not as an item, it is not found there either.
-/

namespace TreeSift

variable {as bs : List Value} {l : Value}

/-- The value is a text that has the word for nothing in it. -/
def Value.SpellsNull (l : Value) : Prop := ∃ s, l = .text s ∧ "null".toList <:+: s.toList

theorem Value.looselyEquals_null (v : Value) : v.looselyEquals .null = false := by
  cases v <;> rfl

/-- Only in a text nothing is found, by its word. -/
theorem Operator.holdsItem_null : holdsItem l .null = true ↔ l.SpellsNull := by
  by_cases hl : ∃ s, l = .text s
  · obtain ⟨s, rfl⟩ := hl
    rw [holdsItem, Text.isInfix_iff]
    simp [Value.SpellsNull, Value.display]
  · have htext : ∀ s, l ≠ .text s := not_exists.mp hl
    have hnone : ¬l.SpellsNull := fun ⟨s, hs, _⟩ => htext s hs
    simp [holdsItem_of_ne_text htext, Value.looselyEquals_null, hnone]

namespace Question

/-- One list has the items of another, and otherwise only nothing. -/
structure AddsNothing (as bs : List Value) : Prop where
  keeps : as ⊆ bs
  adds : ∀ v ∈ bs, v ∈ as ∨ v = .null

/-- What is asked of any item is asked of the items that were there, and of nothing. -/
theorem AddsNothing.any_iff (h : AddsNothing as bs) (p : Value → Bool) :
    bs.any p = true ↔ as.any p = true ∨ p .null = true ∧ .null ∈ bs := by
  simp only [List.any_eq_true]
  constructor
  · rintro ⟨v, hv, hp⟩
    obtain hv' | rfl := h.adds v hv
    · exact .inl ⟨v, hv', hp⟩
    · exact .inr ⟨hp, hv⟩
  · rintro (⟨v, hv, hp⟩ | ⟨hp, hnull⟩)
    · exact ⟨v, h.keeps hv, hp⟩
    · exact ⟨.null, hnull, hp⟩

/-- Wanted by itself in a list, nothing is found where it is spelled. -/
theorem answer?_contains_of_null (any : Bool) {items : List Value} (hne : items ≠ [])
    (hnull : ∀ v ∈ items, v = .null) :
    (contains any).answer? l (.list items) = some true ↔ l.SpellsNull := by
  by_cases hl : l = .null
  · subst hl
    simp [answer?, Value.SpellsNull]
  · rw [answer?_contains any hl (by simp), ← Operator.holdsItem_null, Option.some_inj]
    obtain ⟨v, hv⟩ := List.exists_mem_of_ne_nil items hne
    obtain rfl := hnull v hv
    cases any with
    | false =>
        refine List.all_eq_true.trans ⟨fun h => h .null hv, fun h w hw => ?_⟩
        exact hnull w hw ▸ h
    | true =>
        refine List.any_eq_true.trans ⟨?_, fun h => ⟨.null, hv, h⟩⟩
        rintro ⟨w, hw, h⟩
        exact hnull w hw ▸ h

/-- With nothing added, some item is found where one was found before, or nothing is spelled. -/
theorem answer?_contains_any_iff (h : AddsNothing as bs) :
    (contains true).answer? l (.list bs) = some true ↔
      (contains true).answer? l (.list as) = some true ∨ l.SpellsNull ∧ .null ∈ bs := by
  by_cases hl : l = .null
  · subst hl
    simp [answer?, Value.SpellsNull]
  · rw [answer?_contains true hl (by simp), answer?_contains true hl (by simp),
      ← Operator.holdsItem_null, Option.some_inj, Option.some_inj]
    exact h.any_iff _

/-- No value is nothing, so it may be added to the items that a value is looked for among. -/
theorem answer?_within_eq (h : AddsNothing as bs) :
    within.answer? l (.list bs) = within.answer? l (.list as) := by
  have hany : bs.any l.looselyEquals = as.any l.looselyEquals := by
    rw [Bool.eq_iff_iff, h.any_iff, l.looselyEquals_null]
    simp
  cases l with
  | null => rfl
  | list items => rfl
  | _ => exact congrArg some hany

theorem operator_holds_iff {q : Question} {r : Value} :
    q.operator.holds l r = true ↔ q.answer? l r = some true := by
  rw [holds_operator, beq_iff_eq]

/-- **Nothing is only found in texts that spell it.**  Of a list with nothing else in it, `in` is
never satisfied, and `contains` and `contains any` are by the texts with `null` in them and by no
other value.  By nothing itself on the right none of them is satisfied.  Added to other items,
nothing makes no difference to `in`, and to `contains any` one only for the texts that spell it. -/
theorem nothing_found (l : Value) :
    (∀ items : List Value, items ≠ [] → (∀ v ∈ items, v = .null) →
      (Operator.contains.holds l (.list items) = true ↔ l.SpellsNull) ∧
      (Operator.containsAny.holds l (.list items) = true ↔ l.SpellsNull) ∧
      Operator.within.holds l (.list items) = false) ∧
    (Operator.contains.holds l .null = false ∧ Operator.containsAny.holds l .null = false ∧
      Operator.within.holds l .null = false) ∧
    (∀ as bs : List Value, AddsNothing as bs →
      (Operator.containsAny.holds l (.list bs) = true ↔
        Operator.containsAny.holds l (.list as) = true ∨ l.SpellsNull ∧ .null ∈ bs) ∧
      Operator.within.holds l (.list bs) = Operator.within.holds l (.list as)) := by
  have hwithin {as bs : List Value} (h : AddsNothing as bs) :
      Operator.within.holds l (.list bs) = Operator.within.holds l (.list as) :=
    (agree_of_answer?_eq (answer?_within_eq h)).1
  refine ⟨fun items hne hnull => ⟨?_, ?_, ?_⟩, ⟨?_, ?_, ?_⟩, fun as bs h => ⟨?_, hwithin h⟩⟩
  · exact operator_holds_iff.trans (answer?_contains_of_null false hne hnull)
  · exact operator_holds_iff.trans (answer?_contains_of_null true hne hnull)
  · -- such a list is the empty one with nothing added
    have hempty : AddsNothing [] items := ⟨List.nil_subset _, fun v hv => .inr (hnull v hv)⟩
    rw [hwithin hempty]
    cases l <;> rfl
  · cases l <;> rfl
  · cases l <;> rfl
  · cases l <;> rfl
  · exact operator_holds_iff.trans ((answer?_contains_any_iff h).trans
      (or_congr_left operator_holds_iff.symm))

/-- In a list there is no nothing to be found.  The text `annulled` spells it, so it contains a list
of nothing, and any of two items of which it lacks the other. -/
theorem nothing_found_annulled :
    let z : Value := .text "z"
    (Operator.contains.holds (.list [.null, z]) (.list [.null, .null]) = false ∧
      Operator.within.holds z (.list [.null, .null]) = false ∧
      Operator.contains.holds z .null = false) ∧
    Operator.contains.holds (.text "annulled") (.list [.null]) = true ∧
    (Operator.containsAny.holds (.text "annulled") (.list [z, .null]) = true ∧
      Operator.within.holds z (.list [z, .null]) = true) := by
  intro z
  have hlist : ¬Value.SpellsNull (.list [.null, z]) := fun ⟨_, h, _⟩ => nomatch h
  have hspells : Value.SpellsNull (.text "annulled") :=
    ⟨"annulled", rfl, "an".toList, "ed".toList, by decide⟩
  have hwithin : Operator.within.holds z (.list [z]) = true := by decide +kernel
  have hadds : AddsNothing [z] [z, .null] := ⟨by simp, by simp⟩
  refine ⟨⟨?_, ?_, (nothing_found z).2.1.1⟩, ?_, ?_, ?_⟩
  · have h := ((nothing_found (.list [.null, z])).1 [.null, .null] (by simp) (by simp)).1
    exact Bool.eq_false_iff.mpr fun hholds => hlist (h.mp hholds)
  · exact ((nothing_found z).1 [.null, .null] (by simp) (by simp)).2.2
  · exact ((nothing_found (.text "annulled")).1 [.null] (by simp) (by simp)).1.mpr hspells
  · exact ((nothing_found (.text "annulled")).2.2 _ _ hadds).1.mpr (.inr ⟨hspells, by simp⟩)
  · exact ((nothing_found z).2.2 _ _ hadds).2.trans hwithin

/-- The text `annulled` contains a list of nothing, though it does not contain nothing.  Added to an
empty list nothing turns a no into a yes. -/
theorem not_nothing_never_found :
    let annulled : Value := .text "annulled"
    (Operator.contains.holds annulled .null = false ∧
      Operator.contains.holds annulled (.list [.null]) = true) ∧
    (Operator.containsAny.holds annulled (.list []) = false ∧
      Operator.containsAny.holds annulled (.list [.null]) = true) := by
  decide +kernel

end Question

end TreeSift
