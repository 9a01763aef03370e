import TreeSift.Filter.Predicate
import TreeSift.Filter.Standard
import TreeSift.Proofs.Filter.Constant
import TreeSift.Proofs.Pattern.Whole

/-!
# TreeSift.Proofs.Filter.Like

What `like` and `like not` make of a pattern text.

1. They are said to match a text from start to end against a pattern that stands by itself, and to
   refuse a text that is no pattern (`FullMatch`).
2. The text is put between `^(?:` and `)$` as it is.  So a text that ends in a comment, or has no
   room left around it, is refused although it is a pattern; and one that closes the group itself
   can be taken although it is none.  Everywhere else they do what they are said to do
   (`fullMatch_iff`).
-/

namespace TreeSift

open Pattern

/-- What `like` and `like not` are said to do with a pattern text. -/
structure FullMatch (m : Type → Type) [Monad m] (text : String) : Prop where
  /-- The text has to be a pattern by itself, which matches the whole left text. -/
  holds_iff (t : String) : Operator.like.holds (.text t) (.text text) = true ↔
    ∃ p, ofText? text.toList = some p ∧ p.Covers t.toList
  /-- A test made for the text as a constant decides what the operator does. -/
  agrees {op : Operator} (hop : op = .like ∨ op = .notLike) {test : Value → Value → m Bool}
    (htest : (Comparison.standard op).specialize (.text text) = .replaced test)
    (left right : Value) : test left right = pure (op.holds left (.text text))
  /-- A text that is no pattern by itself satisfies neither operator, -/
  fails (hnone : ofText? text.toList = none) (left : Value) :
    Operator.like.holds left (.text text) = false ∧
      Operator.notLike.holds left (.text text) = false
  /-- is refused as a constant by both, -/
  refuses (hnone : ofText? text.toList = none) {op : Operator} (hop : op = .like ∨ op = .notLike) :
    ∃ reason, (Comparison.standard op : Comparison m).specialize (.text text) = .refused reason
  /-- and makes a comparison with it an invalid argument. -/
  invalid (hnone : ofText? text.toList = none) {op : Operator} (hop : op = .like ∨ op = .notLike)
    {c : Context m} (hc : c.comparison? op = some (.standard op)) {left : Expr} {l : Resolver m}
    (hleft : Expr.compileOperand c left = .ok l) :
    ∃ reason, Expr.compile c (.comparison op left (.literal (.text text))) =
      .error (.invalidArgument op reason)

section

variable {m : Type → Type} [Monad m] {text : String} {op : Operator}

/-! ## what the wrapped text decides -/

theorem like_holds_iff (t text : String) :
    Operator.like.holds (.text t) (.text text) = true ↔
      ∃ w, whole? text.toList = some w ∧ w.occursIn t.toList = true := by
  show Operator.likeHolds false (.text t) (.text text) = true ↔ _
  rw [Operator.likeHolds, show (Value.text text).display = text.toList from rfl]
  cases whole? text.toList with
  | none => simp
  | some w => simp [Operator.anyMatches, Value.elements, Value.display]

theorem specialize_eq_refused (h : whole? text.toList = none) (hop : op = .like ∨ op = .notLike) :
    (Comparison.standard op : Comparison m).specialize (.text text) =
      .refused (.noPattern text.toList) := by
  have hlike (negate : Bool) :
      (Comparison.specializeLike negate (.text text) : Specialization m) =
        .refused (.noPattern text.toList) := by
    rw [Comparison.specializeLike, show (Value.text text).display = text.toList from rfl, h]
  obtain rfl | rfl := hop
  · exact hlike false
  · exact hlike true

/-- What is refused as a constant satisfies neither operator. -/
theorem holds_eq_false (h : whole? text.toList = none) (hop : op = .like ∨ op = .notLike)
    (left : Value) : op.holds left (.text text) = false := by
  have hstands := op.standsFor_specialize (m := Id) (.text text)
  rw [specialize_eq_refused h hop] at hstands
  exact hstands left

/-- The pattern is read in the same way before a comparison and in it. -/
theorem test_of_specialize {test : Value → Value → m Bool}
    (htest : (Comparison.standard op).specialize (.text text) = .replaced test)
    (left right : Value) : test left right = pure (op.holds left (.text text)) := by
  have hstands := op.standsFor_specialize (m := m) (.text text)
  rw [htest] at hstands
  exact hstands left right

theorem specialize_ne_refused {w : Pattern} (h : whole? text.toList = some w) (reason : Refusal) :
    (Comparison.standard .like : Comparison m).specialize (.text text) ≠ .refused reason := by
  show Comparison.specializeLike false (.text text) ≠ _
  rw [Comparison.specializeLike, show (Value.text text).display = text.toList from rfl, h]
  intro hrefused
  contradiction

theorem compile_refused {c : Context m} (hc : c.comparison? op = some (.standard op)) {left : Expr}
    {l : Resolver m} (hleft : Expr.compileOperand c left = .ok l) {v : Value} {reason : Refusal}
    (h : (Comparison.standard op : Comparison m).specialize v = .refused reason) :
    Expr.compile c (.comparison op left (.literal v)) = .error (.invalidArgument op reason) := by
  have htest : Expr.testFor op (Comparison.standard op : Comparison m) (some v) =
      .error (.invalidArgument op reason) := by
    rw [Expr.testFor, h]
  have hright : Expr.compileOperand c (.literal v) = .ok (.constant v) := by
    rw [Expr.compileOperand]
  rw [Expr.compile, Expr.comparing, hc, hleft, hright]
  show (Expr.testFor op (Comparison.standard op) (some v)).bind _ = _
  rw [htest]
  rfl

/-! ## the exact condition -/

/-- A text that is not wrapped to a pattern, and that matches nothing by itself, is dealt with as
is said. -/
theorem fullMatch_of_none (hwhole : whole? text.toList = none)
    (h : ∀ p, ofText? text.toList = some p → ∀ t : String, ¬ p.Covers t.toList) :
    FullMatch m text where
  holds_iff t := by
    rw [like_holds_iff, hwhole]
    constructor
    · intro h
      obtain ⟨w, hw, -⟩ := h
      contradiction
    · intro h
      obtain ⟨p, hp, hcovers⟩ := h
      exact absurd hcovers (h p hp t)
  agrees _ := test_of_specialize
  fails _ left := ⟨holds_eq_false hwhole (.inl rfl) left, holds_eq_false hwhole (.inr rfl) left⟩
  refuses _ _ hop := ⟨_, specialize_eq_refused hwhole hop⟩
  invalid _ _ hop _ hc _ _ hleft := ⟨_, compile_refused hc hleft (specialize_eq_refused hwhole hop)⟩

/-- A pattern that is wrapped as it should be is dealt with as is said. -/
theorem fullMatch_of_between {p : Pattern} (hp : ofText? text.toList = some p)
    (hwhole : whole? text.toList = some (between p)) : FullMatch m text where
  holds_iff t := by
    rw [like_holds_iff, hwhole, hp]
    constructor
    · intro h
      obtain ⟨_, hw, hoccurs⟩ := h
      cases hw
      exact ⟨p, rfl, (occursIn_between p _).mp hoccurs⟩
    · intro h
      obtain ⟨_, hp, hcovers⟩ := h
      cases hp
      exact ⟨between p, rfl, (occursIn_between p _).mpr hcovers⟩
  agrees _ := test_of_specialize
  fails hnone := nomatch hp.symm.trans hnone
  refuses hnone := nomatch hp.symm.trans hnone
  invalid hnone := nomatch hp.symm.trans hnone

/-- **Where `like` does what it is said to do.**  For a pattern text that has a closing parenthesis
too many: where the wrapped text is no pattern.  For one that is a pattern: where it can be wrapped,
or where it matches no text at all.  For every other text: always. -/
theorem fullMatch_iff (m : Type → Type) [Monad m] (text : String) :
    FullMatch m text ↔
      (Progress.Unmatched {} text.toList → ofText? (wholeText text.toList) = none) ∧
      ∀ p depth, content? text.toList = some (p, depth) → p.fits depth = true →
        Spliceable text.toList p depth ∨ ∀ t : String, ¬ p.Covers t.toList := by
  constructor
  · intro h
    refine ⟨?_, ?_⟩
    · intro hunmatched
      cases hw : ofText? (wholeText text.toList) with
      | none => rfl
      | some w =>
          obtain ⟨reason, hrefused⟩ := h.refuses (ofText?_unmatched hunmatched) (.inl rfl)
          exact absurd hrefused (specialize_ne_refused hw reason)
    · intro p depth hp hfits
      refine or_iff_not_imp_left.mpr fun hsplice t hcovers => hsplice ?_
      have htext : ofText? text.toList = some p := ofText?_eq_some_iff.mpr ⟨depth, hp, hfits⟩
      obtain ⟨w, hw, -⟩ := (like_holds_iff t text).mp ((h.holds_iff t).mpr ⟨p, htext, hcovers⟩)
      exact ((whole?_eq_some_iff hp).mp hw).2
  · intro h
    obtain ⟨hunmatched, hpattern⟩ := h
    cases htext : ofText? text.toList with
    | none =>
        refine fullMatch_of_none ?_ fun p hp => nomatch htext.symm.trans hp
        cases hw : whole? text.toList with
        | none => rfl
        | some w => exact hw.symm.trans (hunmatched (unmatched_of_whole? htext hw))
    | some p =>
        obtain ⟨depth, hp, hfits⟩ := ofText?_eq_some_iff.mp htext
        by_cases hsplice : Spliceable text.toList p depth
        · exact fullMatch_of_between htext ((whole?_eq_some_iff hp).mpr ⟨rfl, hsplice⟩)
        · refine fullMatch_of_none ?_ ?_
          · cases hw : whole? text.toList with
            | none => rfl
            | some w => exact absurd ((whole?_eq_some_iff hp).mp hw).2 hsplice
          · intro q hq
            obtain rfl : p = q := Option.some.inj (htext.symm.trans hq)
            exact (hpattern p depth hp hfits).resolve_left hsplice

/-- `a)(?:b` is no pattern, and what is around it makes one of it. -/
theorem not_fullMatch_reopened : ¬ FullMatch Id "a)(?:b" := by
  intro h
  have hnone : ofText? "a)(?:b".toList = none := by decide +kernel
  have hsome : (whole? "a)(?:b".toList).isSome = true := by decide +kernel
  obtain ⟨w, hw⟩ := Option.isSome_iff_exists.mp hsome
  obtain ⟨reason, hrefused⟩ := h.refuses hnone (.inl rfl)
  exact specialize_ne_refused hw reason hrefused

/-- `(?x)a # c` is a pattern for `a`, and its comment takes the end of what is around it. -/
theorem not_fullMatch_comment : ¬ FullMatch Id "(?x)a # c" := by
  intro h
  have hp : ofText? "(?x)a # c".toList =
      some (.seq .empty (.chars (CharSet.singleton 'a'))) := rfl
  have hnone : whole? "(?x)a # c".toList = none := by decide +kernel
  have hcovers : (Pattern.seq .empty (.chars (CharSet.singleton 'a'))).Covers "a".toList :=
    (occursIn_between _ _).mp (by decide +kernel)
  obtain ⟨w, hw, -⟩ := (like_holds_iff "a" _).mp ((h.holds_iff "a").mpr ⟨_, hp, hcovers⟩)
  exact nomatch hnone.symm.trans hw

end

end TreeSift
