import Mathlib.Data.List.Basic
import TreeSift.Proofs.Filter.Question
import TreeSift.Proofs.Value.Order

/-!
# TreeSift.Proofs.Filter.Membership

Lists as operands.

1. `in` and `contains` ask the same from two sides, because loose equality is symmetric: a value is
   in a list, or in a single value, if that contains it (`Operator.within_eq_contains`).
2. Only which items a list has counts.  With more items on the left a question can only turn from no
   to yes.  With more on the right, `contains` can only turn from yes to no, and `contains any` and
   `in` from no to yes (`Question.rises_left`, `Question.rises_right`, `Question.falls_right`).
3. So neither their order nor their repetitions matter, and one item wanted in a list is as good as
   the item (`Question.lists_as_sets`).
-/

namespace TreeSift

variable {as bs : List Value} {l r l' r' : Value}

theorem Value.elements_of_ne_list (hr : ∀ items, r ≠ .list items) : r.elements = [r] := by
  cases r with
  | list items => exact absurd rfl (hr items)
  | _ => rfl

theorem Operator.holdsItem_of_ne_text (hl : ∀ s, l ≠ .text s) (wanted : Value) :
    holdsItem l wanted = l.elements.any fun item => item.looselyEquals wanted := by
  cases l with
  | text s => exact absurd rfl (hl s)
  | _ => rfl

/-- What is among some items is among more. -/
theorem Operator.holdsItem_of_subset (h : as ⊆ bs) {wanted : Value}
    (has : holdsItem (.list as) wanted = true) : holdsItem (.list bs) wanted = true := by
  obtain ⟨item, hitem, heq⟩ := List.any_eq_true.mp has
  exact List.any_eq_true.mpr ⟨item, h hitem, heq⟩

namespace Question

/-- One answer satisfies one operator and its denial, whichever question it belongs to. -/
theorem agree_of_answer?_eq {q q' : Question} (h : q.answer? l r = q'.answer? l' r') :
    q.operator.holds l r = q'.operator.holds l' r' ∧
      q.denial.holds l r = q'.denial.holds l' r' := by
  rw [holds_operator, holds_operator, holds_denial, holds_denial, h]
  exact ⟨rfl, rfl⟩

/-! ## from the other side -/

theorem answer?_contains_null (any : Bool) (l : Value) : (contains any).answer? l .null = none := by
  cases l <;> rfl

/-- To look for a value among others is to ask whether they contain it. -/
theorem answer?_within_eq_contains (hl : ∀ items, l ≠ .list items) (hr : ∀ s, r ≠ .text s)
    (hnull : r ≠ .null) : within.answer? l r = (contains false).answer? r l := by
  by_cases hlnull : l = .null
  · subst hlnull
    exact (answer?_contains_null false r).symm
  · have hitem : ∀ wanted, Operator.holdsItem r wanted =
        r.elements.any fun item => item.looselyEquals wanted := Operator.holdsItem_of_ne_text hr
    have hcomm : l.looselyEquals = fun item => item.looselyEquals l :=
      funext fun item => l.looselyEquals_comm item
    rw [answer?_within hlnull hl, answer?_contains false hnull hlnull, Value.elements_of_ne_list hl,
      hcomm]
    simp [hitem]

end Question

/-- **`in` is `contains` from the other side.**  A value that is no list is in another that is no
text if and only if that contains it; and if the other is something, the denials agree as well. -/
theorem Operator.within_eq_contains (hl : ∀ items, l ≠ .list items) (hr : ∀ s, r ≠ .text s) :
    Operator.within.holds l r = Operator.contains.holds r l ∧
      (r ≠ .null → Operator.notWithin.holds l r = Operator.notContains.holds r l) := by
  have hagree (hnull : r ≠ .null) := Question.agree_of_answer?_eq
    (Question.answer?_within_eq_contains hl hr hnull)
  refine ⟨?_, fun hnull => (hagree hnull).2⟩
  by_cases hnull : r = .null
  · -- nothing is equal to nothing, and nothing contains anything
    subst hnull
    cases l <;> rfl
  · exact (hagree hnull).1

/-- The text `2` is in a list with nothing, a list and the number 2, and not in one without it. -/
theorem Operator.within_eq_contains_two :
    (Operator.within.holds (.text "2") (.list [.null, .list [.text "2"], .long 2]) = true ∧
      Operator.contains.holds (.list [.null, .list [.text "2"], .long 2]) (.text "2") = true) ∧
    (Operator.notWithin.holds (.text "2") (.list [.null, .long 3]) = true ∧
      Operator.notContains.holds (.list [.null, .long 3]) (.text "2") = true) := by
  have htwo : Operator.contains.holds (.list [.null, .list [.text "2"], .long 2]) (.text "2") =
      true := by decide +kernel
  have hthree : Operator.notContains.holds (.list [.null, .long 3]) (.text "2") = true := by
    decide +kernel
  refine ⟨⟨?_, htwo⟩, ?_, hthree⟩
  · exact (Operator.within_eq_contains (by simp) (by simp)).1.trans htwo
  · exact ((Operator.within_eq_contains (by simp) (by simp)).2 (by simp)).trans hthree

namespace Question

/-! ## more items -/

/-- From one answer to another at most a no turns into a yes. -/
inductive Rises : Option Bool → Option Bool → Prop where
  | unanswered : Rises none none
  | answered {b b' : Bool} (h : b = true → b' = true) : Rises (some b) (some b')

/-- From two values to two others a verdict can only turn in the operator's favour: the operator
goes on to hold, and its denial has held before. -/
structure Favours (q : Question) (l r l' r' : Value) : Prop where
  operator : q.operator.holds l r = true → q.operator.holds l' r' = true
  denial : q.denial.holds l' r' = true → q.denial.holds l r = true

theorem Rises.yes {x y : Option Bool} (h : Rises x y) (hx : x = some true) : y = some true := by
  cases h with
  | unanswered => contradiction
  | answered h => exact congrArg some (h (Option.some.inj hx))

theorem Rises.no {x y : Option Bool} (h : Rises x y) (hy : y = some false) : x = some false := by
  cases h with
  | unanswered => contradiction
  | answered h =>
      obtain rfl := Option.some.inj hy
      exact congrArg some (Bool.eq_false_iff.mpr fun hx => nomatch h hx)

theorem Rises.favours {q : Question} (h : Rises (q.answer? l r) (q.answer? l' r')) :
    q.Favours l r l' r' where
  operator := by
    rw [holds_operator, holds_operator, beq_iff_eq, beq_iff_eq]
    exact h.yes
  denial := by
    rw [holds_denial, holds_denial, beq_iff_eq, beq_iff_eq]
    exact h.no

theorem Rises.antisymm {x y : Option Bool} (h : Rises x y) (h' : Rises y x) : x = y := by
  cases h with
  | unanswered => rfl
  | answered h =>
      cases h' with
      | answered h' => exact congrArg some (Bool.eq_iff_iff.mpr ⟨h, h'⟩)

/-- More items on the left can only turn a no into a yes. -/
theorem rises_left (q : Question) (h : as ⊆ bs) (r : Value) :
    Rises (q.answer? (.list as) r) (q.answer? (.list bs) r) := by
  cases q with
  | like =>
      rw [answer?, answer?]
      cases Pattern.whole? r.display with
      | none => exact .unanswered
      | some p =>
          refine .answered fun has => ?_
          obtain ⟨item, hitem, hmatch⟩ := List.any_eq_true.mp has
          exact List.any_eq_true.mpr ⟨item, h hitem, hmatch⟩
  | contains any =>
      by_cases hr : r = .null
      · rw [hr, answer?_contains_null, answer?_contains_null]
        exact .unanswered
      · rw [answer?_contains any (by simp) hr, answer?_contains any (by simp) hr]
        refine .answered ?_
        cases any with
        | false =>
            intro has
            refine List.all_eq_true.mpr fun wanted hwanted => ?_
            exact Operator.holdsItem_of_subset h (List.all_eq_true.mp has wanted hwanted)
        | true =>
            intro has
            obtain ⟨wanted, hwanted, hitem⟩ := List.any_eq_true.mp has
            exact List.any_eq_true.mpr ⟨wanted, hwanted, Operator.holdsItem_of_subset h hitem⟩
  | within => exact .unanswered

/-- More items on the right can only turn a no into a yes, where one of them is enough. -/
theorem rises_right {q : Question} (hq : q = contains true ∨ q = within) (h : as ⊆ bs) (l : Value) :
    Rises (q.answer? l (.list as)) (q.answer? l (.list bs)) := by
  have hany (p : Value → Bool) (has : as.any p = true) : bs.any p = true := by
    obtain ⟨item, hitem, hp⟩ := List.any_eq_true.mp has
    exact List.any_eq_true.mpr ⟨item, h hitem, hp⟩
  obtain rfl | rfl := hq
  · cases l with
    | null => exact .unanswered
    | _ => exact .answered (hany _)
  · cases l with
    | null => exact .unanswered
    | list items => exact .unanswered
    | _ => exact .answered (hany _)

/-- More items on the right can only turn a yes into a no, where all of them are wanted. -/
theorem falls_right (h : as ⊆ bs) (l : Value) :
    Rises ((contains false).answer? l (.list bs)) ((contains false).answer? l (.list as)) := by
  have hall (p : Value → Bool) (hbs : bs.all p = true) : as.all p = true :=
    List.all_eq_true.mpr fun wanted hwanted => List.all_eq_true.mp hbs wanted (h hwanted)
  cases l with
  | null => exact .unanswered
  | _ => exact .answered (hall _)

/-! ## sets -/

/-- One item wanted in a list is as good as the item. -/
theorem answer?_singleton {q : Question} (hq : q ≠ like) (hr : r ≠ .null)
    (hlist : ∀ items, r ≠ .list items) (l : Value) : q.answer? l (.list [r]) = q.answer? l r := by
  cases q with
  | like => contradiction
  | contains any =>
      by_cases hl : l = .null
      · subst hl
        rfl
      · rw [answer?_contains any hl (by simp), answer?_contains any hl hr,
          Value.elements_of_ne_list hlist]
        rfl
  | within =>
      cases l with
      | null => rfl
      | list items => rfl
      | _ => exact congrArg (fun items => some (List.any items _)) (Value.elements_of_ne_list hlist).symm

/-- **Lists count as sets of items.**  Of the left list of any of the operators, and of the right one
of all but `like`, it only counts which items it has.  One item wanted in a list is as good as the
item.  With more items on the left an operator can only come to hold.  So it is with more on the
right for `contains any` and `in`, while `contains` can only cease to hold.  Of a denial the opposite
is true. -/
theorem lists_as_sets :
    (∀ (q : Question) (as bs : List Value), (∀ v, v ∈ as ↔ v ∈ bs) →
      (∀ r, q.operator.holds (.list as) r = q.operator.holds (.list bs) r ∧
        q.denial.holds (.list as) r = q.denial.holds (.list bs) r) ∧
      (q ≠ like → ∀ l, q.operator.holds l (.list as) = q.operator.holds l (.list bs) ∧
        q.denial.holds l (.list as) = q.denial.holds l (.list bs))) ∧
    (∀ (q : Question) (v : Value), q ≠ like → v ≠ .null → (∀ items, v ≠ .list items) →
      ∀ l, q.operator.holds l (.list [v]) = q.operator.holds l v ∧
        q.denial.holds l (.list [v]) = q.denial.holds l v) ∧
    (∀ as bs : List Value, as ⊆ bs →
      (∀ (q : Question) (r : Value), q.Favours (.list as) r (.list bs) r) ∧
      (∀ l, (contains false).Favours l (.list bs) l (.list as)) ∧
      ∀ q, q = contains true ∨ q = within → ∀ l, q.Favours l (.list as) l (.list bs)) := by
  refine ⟨?_, ?_, ?_⟩
  · -- two lists with the same items are each the larger one
    intro q as bs hmem
    have has : as ⊆ bs := fun v => (hmem v).mp
    have hbs : bs ⊆ as := fun v => (hmem v).mpr
    refine ⟨fun r => agree_of_answer?_eq ((rises_left q has r).antisymm (rises_left q hbs r)), ?_⟩
    intro hq l
    refine agree_of_answer?_eq ?_
    cases q with
    | like => contradiction
    | contains any =>
        cases any with
        | false => exact (falls_right hbs l).antisymm (falls_right has l)
        | true => exact (rises_right (.inl rfl) has l).antisymm (rises_right (.inl rfl) hbs l)
    | within => exact (rises_right (.inr rfl) has l).antisymm (rises_right (.inr rfl) hbs l)
  · intro q v hq hv hlist l
    exact agree_of_answer?_eq (answer?_singleton hq hv hlist l)
  · intro as bs h
    exact ⟨fun q r => (rises_left q h r).favours, fun l => (falls_right h l).favours,
      fun q hq l => (rises_right hq h l).favours⟩

/-- Two letters: repeated and exchanged, one of them wanted alone, and the other one added. -/
theorem lists_as_sets_letters :
    let a : Value := .text "a"
    let b : Value := .text "b"
    (Operator.notContainsAny.holds (.list [a, b, a]) (.long 1) = true ∧
      Operator.notContainsAny.holds (.list [b, a]) (.long 1) = true) ∧
    (Operator.within.holds a a = true ∧ Operator.within.holds a (.list [a]) = true ∧
      Operator.within.holds a (.list [b, a]) = true) ∧
    (Operator.like.holds (.list [a]) (.text "a+") = true ∧
      Operator.like.holds (.list [a, b]) (.text "a+") = true) ∧
    (Operator.contains.holds (.list [a]) (.list [a, b]) = false ∧
      Operator.notContains.holds (.list [a]) (.list [b]) = true ∧
      Operator.notContains.holds (.list [a]) (.list [a, b]) = true) := by
  intro a b
  obtain ⟨hmem, hone, hmore⟩ := lists_as_sets
  have hsame : ∀ v, v ∈ [a, b, a] ↔ v ∈ [b, a] := by simp [or_comm]
  have hnumber : Operator.notContainsAny.holds (.list [b, a]) (.long 1) = true := by
    decide +kernel
  have haa : Operator.within.holds a a = true := by decide +kernel
  have hlike : Operator.like.holds (.list [a]) (.text "a+") = true := by decide +kernel
  have hlacks : Operator.notContains.holds (.list [a]) (.list [b]) = true := by decide +kernel
  have hlist : Operator.within.holds a (.list [a]) = true :=
    (hone within a (by decide) (by simp [a]) (by simp [a]) a).1.trans haa
  obtain ⟨-, hfewer, -⟩ := hmore [b] [a, b] (by simp)
  refine ⟨⟨?_, hnumber⟩, ⟨haa, hlist, ?_⟩, ⟨hlike, ?_⟩, ?_, hlacks, ?_⟩
  · exact ((hmem (contains true) _ _ hsame).1 (.long 1)).2.trans hnumber
  · exact ((hmore [a] [b, a] (by simp)).2.2 within (.inr rfl) a).operator hlist
  · exact ((hmore [a] [a, b] (by simp)).1 like _).operator hlike
  · refine Bool.eq_false_iff.mpr fun h => ?_
    exact (contains false).not_holds_both _ _ ⟨(hfewer (.list [a])).operator h, hlacks⟩
  · exact (hfewer (.list [a])).denial hlacks

end Question

end TreeSift
