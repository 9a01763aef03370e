import TreeSift.Proofs.Filter.Constant

/-!
# TreeSift.Proofs.Filter.Question

The operators that have a denied form.

1. `like`, `contains`, `contains any` and `in` ask a question about two values, and their forms with
   `not` ask the same one.  It has no answer if a text is no pattern, if nothing is looked into or
   looked for, or if a list is looked for by `in` (`Question.answer?`).
2. A yes satisfies an operator, a no satisfies its denial, and no answer satisfies neither
   (`Question.holds_operator`, `Question.holds_denial`).
3. With the usual functions no operand has nothing for its value.  So of two comparisons that deny
   each other at most one holds, and exactly one wherever there is an answer
   (`Question.compile_denial`).
-/

namespace TreeSift

/-- What an operator and its denial ask about two values. -/
inductive Question where
  /-- Whether a text matches a pattern. -/
  | like
  /-- Whether everything wanted is there, or any of it. -/
  | contains (any : Bool)
  /-- Whether a value is one of several. -/
  | within
deriving DecidableEq, Repr

namespace Question

/-- The operator that is satisfied by a yes. -/
def operator : Question → Operator
  | like => .like
  | contains false => .contains
  | contains true => .containsAny
  | within => .within

/-- The operator that is satisfied by a no. -/
def denial : Question → Operator
  | like => .notLike
  | contains false => .notContains
  | contains true => .notContainsAny
  | within => .notWithin

/-- The answer for two values, if there is one. -/
def answer? : Question → Value → Value → Option Bool
  | like, l, r => (Pattern.whole? r.display).map (Operator.anyMatches · l)
  | contains _, .null, _ => none
  | contains _, _, .null => none
  | contains any, l, r =>
    some (if any then r.elements.any (Operator.holdsItem l)
      else r.elements.all (Operator.holdsItem l))
  | within, .null, _ => none
  | within, .list _, _ => none
  | within, l, r => some (r.elements.any l.looselyEquals)

variable {l r : Value}

theorem answer?_contains (any : Bool) (hl : l ≠ .null) (hr : r ≠ .null) :
    (contains any).answer? l r =
      some (if any then r.elements.any (Operator.holdsItem l)
        else r.elements.all (Operator.holdsItem l)) := by
  cases l with
  | null => contradiction
  | _ =>
      cases r with
      | null => contradiction
      | _ => rfl

theorem answer?_within (hl : l ≠ .null) (hlist : ∀ items, l ≠ .list items) :
    within.answer? l r = some (r.elements.any l.looselyEquals) := by
  cases l with
  | null => contradiction
  | list items => exact absurd rfl (hlist items)
  | _ => rfl

/-! ## what satisfies an operator -/

theorem likeHolds_eq (negate : Bool) (l r : Value) :
    Operator.likeHolds negate l r = (like.answer? l r).any (· != negate) := by
  rw [Operator.likeHolds, answer?]
  cases Pattern.whole? r.display <;> rfl

theorem containsHolds_eq (any negate : Bool) (l r : Value) :
    Operator.containsHolds any negate l r = ((contains any).answer? l r).any (· != negate) := by
  cases l <;> cases r <;> rfl

theorem withinHolds_eq (negate : Bool) (l r : Value) :
    Operator.withinHolds negate l r = (within.answer? l r).any (· != negate) := by
  cases l <;> rfl

theorem any_bne (answer : Option Bool) (negate : Bool) :
    answer.any (· != negate) = (answer == some (!negate)) := by
  cases answer with
  | none => rfl
  | some b => cases b <;> cases negate <;> rfl

theorem holds_operator (q : Question) (l r : Value) :
    q.operator.holds l r = (q.answer? l r == some true) := by
  have hholds : q.operator.holds l r = (q.answer? l r).any (· != false) := by
    cases q with
    | like => exact likeHolds_eq false l r
    | contains any => cases any <;> exact containsHolds_eq _ false l r
    | within => exact withinHolds_eq false l r
  exact hholds.trans (any_bne _ false)

theorem holds_denial (q : Question) (l r : Value) :
    q.denial.holds l r = (q.answer? l r == some false) := by
  have hholds : q.denial.holds l r = (q.answer? l r).any (· != true) := by
    cases q with
    | like => exact likeHolds_eq true l r
    | contains any => cases any <;> exact containsHolds_eq _ true l r
    | within => exact withinHolds_eq true l r
  exact hholds.trans (any_bne _ true)

theorem not_holds_both (q : Question) (l r : Value) :
    ¬ (q.operator.holds l r = true ∧ q.denial.holds l r = true) := by
  rw [holds_operator, holds_denial]
  cases q.answer? l r with
  | none => simp
  | some b => cases b <;> simp

/-- Where a question about two values has no answer though both are something. -/
def Unanswerable (q : Question) (l r : Value) : Prop :=
  (q = like ∧ Pattern.whole? r.display = none) ∨ (q = within ∧ ∃ items, l = .list items)

theorem answer?_eq_none_iff (q : Question) (hl : l ≠ .null) (hr : r ≠ .null) :
    q.answer? l r = none ↔ q.Unanswerable l r := by
  cases q with
  | like => simp [answer?, Unanswerable]
  | contains any => simp [answer?_contains any hl hr, Unanswerable]
  | within =>
      by_cases hlist : ∃ items, l = .list items
      · obtain ⟨items, rfl⟩ := hlist
        simp [answer?, Unanswerable]
      · rw [answer?_within hl (not_exists.mp hlist)]
        simp [Unanswerable, hlist]

theorem holds_of_unanswerable {q : Question} (hl : l ≠ .null) (hr : r ≠ .null)
    (h : q.Unanswerable l r) : q.operator.holds l r = false ∧ q.denial.holds l r = false := by
  rw [holds_operator, holds_denial, (q.answer?_eq_none_iff hl hr).mpr h]
  exact ⟨rfl, rfl⟩

theorem holds_denial_eq_not {q : Question} (hl : l ≠ .null) (hr : r ≠ .null)
    (h : ¬ q.Unanswerable l r) : q.denial.holds l r = !q.operator.holds l r := by
  rw [holds_operator, holds_denial]
  cases hanswer : q.answer? l r with
  | none => exact absurd ((q.answer?_eq_none_iff hl hr).mp hanswer) h
  | some b => cases b <;> rfl

end Question

/-! ## comparisons in a usual context -/

namespace Expr

variable {c : Context Id} {op : Operator} {left right : Expr}

/-- A constant operand always has the constant for its value. -/
theorem eq_of_constant? {r : Resolver Id} {u v : Value} (hu : constant? c right = some u)
    (hr : compileOperand c right = .ok r) {node : Attributes} (hv : r node = some v) : u = v := by
  have hpresent : r = .constant u := by
    cases right with
    | literal w =>
        cases hu
        cases hr
        rfl
    | parameter name =>
        have hname : c.parameter? name = some u := hu
        rw [compileOperand, bound, hname] at hr
        cases hr
        rfl
    | _ => contradiction
  subst hpresent
  cases u with
  | null => contradiction
  | _ => exact Option.some.inj hv

/-- A comparison by a usual strategy holds where both operands have values that satisfy the
operator. -/
theorem exists_operands_of_compile (hop : c.comparison? op = some (.standard op))
    {p : Predicate Id} (hp : compile c (.comparison op left right) = .ok p) :
    ∃ l r, compileOperand c left = .ok l ∧ compileOperand c right = .ok r ∧
      ∀ node, p node = (Option.any (fun v => Option.any (op.holds v) (r node)) (l node)) := by
  rw [compile, comparing, hop] at hp
  obtain ⟨l, hl, hp⟩ := bind_eq_ok.mp hp
  obtain ⟨r, hr, hp⟩ := bind_eq_ok.mp hp
  obtain ⟨test, htest, rfl⟩ := map_eq_ok.mp hp
  refine ⟨l, r, hl, hr, fun node => ?_⟩
  show (match l node with
    | none => false
    | some v => match r node with
      | none => false
      | some w => test v w) = _
  cases hv : l node with
  | none => rfl
  | some v =>
      cases hw : r node with
      | none => rfl
      | some w =>
          -- a test made for a constant is only asked about that constant
          have hask := c.ask_standard hop (fun u hu => eq_of_constant? hu hr hw) v
          exact (ask_of_testFor hop htest v w).symm.trans hask

end Expr

namespace Context

/-- The usual operators and functions with some parameters. -/
def standardWith (parameters : Registry String Value) : Context Id :=
  { Context.standard with parameters }

variable {parameters : Registry String Value}

theorem comparison?_standardWith (op : Operator) :
    (standardWith parameters).comparison? op = some (.standard op) := by
  cases op <;> rfl

/-- The usual functions have no value, or one that is something. -/
theorem call_ne_null {name : String} {f : Function Id}
    (h : (standardWith parameters).function? name = some f) (node : Attributes)
    (args : List Value) : f.call node args ≠ some .null := by
  -- the operators come before the functions and leave the table of functions empty
  have hregistry : (standardWith parameters).functions =
      (((Registry.empty).insert "name" .name).insert "path" .path).insert "date" .date := rfl
  rw [function?, hregistry] at h
  simp only [Registry.get?_insert, Registry.get?_empty] at h
  split at h
  · cases h
    show (Function.dateOf? args).map Value.date ≠ some .null
    simp
  · split at h
    · cases h
      exact fun h => nomatch h
    · split at h
      · cases h
        exact fun h => nomatch h
      · contradiction

/-- So no operand has nothing for its value. -/
theorem ne_null_of_compileOperand {e : Expr} {r : Resolver Id}
    (h : Expr.compileOperand (standardWith parameters) e = .ok r) (node : Attributes) :
    r node ≠ some .null := by
  have hpresent (v : Value) : Resolver.present v ≠ some .null := by
    cases v <;> simp [Resolver.present]
  cases e with
  | logic connective children =>
      obtain ⟨ps, -, rfl⟩ := map_eq_ok.mp h
      exact fun h => nomatch h
  | comparison op left right =>
      obtain ⟨p, -, rfl⟩ := map_eq_ok.mp h
      exact fun h => nomatch h
  | call name args =>
      rw [Expr.compileOperand, Expr.calling] at h
      cases hf : (standardWith parameters).function? name with
      | none =>
          rw [hf] at h
          contradiction
      | some f =>
          rw [hf] at h
          dsimp only at h
          split at h
          · obtain ⟨rs, -, rfl⟩ := map_eq_ok.mp h
            show (match Resolver.values rs node with
              | none => none
              | some vs => f.call node vs) ≠ _
            split
            · simp
            · exact call_ne_null hf node _
          · contradiction
  | path segments =>
      cases h
      show (node.resolve _).bind Resolver.present ≠ _
      cases node.resolve _ with
      | none => simp
      | some v => exact hpresent v
  | literal v =>
      cases h
      exact hpresent v
  | parameter name =>
      rw [Expr.compileOperand, Expr.bound] at h
      cases hv : (standardWith parameters).parameter? name with
      | none =>
          rw [hv] at h
          contradiction
      | some v =>
          rw [hv] at h
          cases h
          exact hpresent v

end Context

namespace Question

open TreeSift.Expr

/-- **A comparison and its denial.**  Of two comparisons with the same operands, the second of which
denies the first, no node satisfies both.  A node on which an operand has no value satisfies neither.
Where both have values it satisfies exactly one of them, except where the values leave the question
without an answer: the right text is no pattern, or `in` looks for a list. -/
theorem compile_denial (q : Question) {parameters : Registry String Value} {left right : Expr}
    {yes no : Predicate Id}
    (hyes : compile (.standardWith parameters) (.comparison q.operator left right) = .ok yes)
    (hno : compile (.standardWith parameters) (.comparison q.denial left right) = .ok no) :
    ∃ l r, compileOperand (.standardWith parameters) left = .ok l ∧
      compileOperand (.standardWith parameters) right = .ok r ∧
      ∀ node, ¬ (yes node = true ∧ no node = true) ∧
        (l node = none ∨ r node = none → yes node = false ∧ no node = false) ∧
        ∀ v w, l node = some v → r node = some w →
          (¬ q.Unanswerable v w → no node = !yes node) ∧
          (q.Unanswerable v w → yes node = false ∧ no node = false) := by
  obtain ⟨l, r, hl, hr, hyes⟩ :=
    exists_operands_of_compile (Context.comparison?_standardWith q.operator) hyes
  obtain ⟨l', r', hl', hr', hno⟩ :=
    exists_operands_of_compile (Context.comparison?_standardWith q.denial) hno
  obtain rfl : l = l' := Except.ok.inj (hl.symm.trans hl')
  obtain rfl : r = r' := Except.ok.inj (hr.symm.trans hr')
  refine ⟨l, r, hl, hr, fun node => ?_⟩
  rw [hyes node, hno node]
  cases hv : l node with
  | none => simp
  | some v =>
      cases hw : r node with
      | none => simp
      | some w =>
          have hvnull : v ≠ .null := fun h =>
            Context.ne_null_of_compileOperand hl node (hv.trans (congrArg some h))
          have hwnull : w ≠ .null := fun h =>
            Context.ne_null_of_compileOperand hr node (hw.trans (congrArg some h))
          refine ⟨q.not_holds_both v w, by simp, ?_⟩
          intro v' w' hv' hw'
          cases hv'
          cases hw'
          exact ⟨holds_denial_eq_not hvnull hwnull, holds_of_unanswerable hvnull hwnull⟩

/-- A node on which `a` leads to one value and `b` to another. -/
def twoValues (a b : Value) : Attributes :=
  ⟨"node", "/node", fun path => if path = "a" then some a else if path = "b" then some b else none⟩

/-- `[a] like [b]` and `[a] like not [b]` on a node with a pattern, with a text that is none, and
without `b`. -/
theorem compile_denial_like :
    ∃ yes no : Predicate Id,
      compile (.standardWith .empty) (.comparison .like (.path ["a"]) (.path ["b"])) = .ok yes ∧
      compile (.standardWith .empty) (.comparison .notLike (.path ["a"]) (.path ["b"])) = .ok no ∧
      (yes (twoValues (.text "y") (.text "x+")) = false ∧
        no (twoValues (.text "y") (.text "x+")) = true) ∧
      (yes (twoValues (.text "y") (.text "(")) = false ∧
        no (twoValues (.text "y") (.text "(")) = false) ∧
      (yes (twoValues (.text "y") .null) = false ∧ no (twoValues (.text "y") .null) = false) := by
  obtain ⟨yes, hyes⟩ : ∃ yes, compile (.standardWith .empty)
      (.comparison .like (.path ["a"]) (.path ["b"])) = .ok yes := ⟨_, rfl⟩
  obtain ⟨no, hno⟩ : ∃ no, compile (.standardWith .empty)
      (.comparison .notLike (.path ["a"]) (.path ["b"])) = .ok no := ⟨_, rfl⟩
  obtain ⟨l, r, hl, hr, h⟩ := compile_denial .like hyes hno
  cases hl
  cases hr
  have hpattern : ¬ Unanswerable .like (.text "y") (.text "x+") := by
    have hsome : Pattern.whole? (Value.text "x+").display ≠ none := by decide +kernel
    simp [Unanswerable, hsome]
  have hnone : Unanswerable .like (.text "y") (.text "(") := .inl ⟨rfl, by decide +kernel⟩
  have hfalse : yes (twoValues (.text "y") (.text "x+")) = false := by
    have hholds : Operator.like.holds (.text "y") (.text "x+") = false := by decide +kernel
    rw [compile_eq _ hyes]
    exact hholds
  refine ⟨yes, no, hyes, hno, ⟨hfalse, ?_⟩, ?_, ?_⟩
  · have hnot := ((h (twoValues (.text "y") (.text "x+"))).2.2 _ _ rfl rfl).1 hpattern
    rw [hnot, hfalse]
    rfl
  · exact ((h (twoValues (.text "y") (.text "("))).2.2 _ _ rfl rfl).2 hnone
  · exact (h (twoValues (.text "y") .null)).2.1 (.inr rfl)

end Question

end TreeSift
