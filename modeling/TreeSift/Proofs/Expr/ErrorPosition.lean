import TreeSift.Proofs.Expr.Sound

/-!
# TreeSift.Proofs.Expr.ErrorPosition

What the parser can say is wrong with tokens, and where: at a token, or at the end of the text.

1. The `marks` of a list of tokens are their positions and that of the end.  An error is `Explained`
   by the tokens if it is at a mark of them, and if a number is only wanted where one of them is a
   number token that denotes none.
2. A reader fails with errors that the tokens it was given explain (`failsAt_disjunction` and the
   others).  It fails at the first of the tokens it has left, which are an end of those it was given
   (`Explained.mono`), or at the start of a bare operand, which it has remembered
   (`bare_disjunction` and the others).
-/

namespace TreeSift

namespace Grammar

/-! ## marks -/

/-- The positions of the tokens, and where the text ends. -/
def marks (stop : Nat) (ts : List Token) : List Nat := ts.map Token.position ++ [stop]

variable {stop : Nat} {ts rest : List Token}

/-- The marks of an end of the tokens are marks of all of them. -/
theorem marks_subset (h : rest <:+ ts) : marks stop rest ⊆ marks stop ts := by
  obtain ⟨before, rfl⟩ := h
  rw [marks, marks, List.map_append, List.append_assoc]
  exact List.subset_append_right _ _

theorem positionOf_mem_marks (stop : Nat) (ts : List Token) :
    positionOf stop ts ∈ marks stop ts := by
  cases ts with
  | nil => exact List.mem_singleton_self stop
  | cons t ts => exact List.mem_cons_self

/-! ## errors that tokens explain -/

/-- The error is at a mark of the tokens, and wants no number unless one of them should be one. -/
structure Explained (stop : Nat) (ts : List Token) (e : ParseError) : Prop where
  position : e.position ∈ marks stop ts
  number : e.expected = .number →
    ∃ t ∈ ts, ∃ text, t.lexeme = .number text ∧ number? text.toList = none

theorem Explained.mono {e : ParseError} (h : Explained stop rest e) (hs : rest <:+ ts) :
    Explained stop ts e where
  position := marks_subset hs h.position
  number he := by
    obtain ⟨t, ht, htext⟩ := h.number he
    exact ⟨t, hs.subset ht, htext⟩

theorem position_wanted (stop : Nat) (expected : Wanted) (ts : List Token) :
    (wanted stop expected ts).position ∈ marks stop ts := by
  have hposition : (wanted stop expected ts).position = positionOf stop ts := by cases ts <;> rfl
  exact hposition ▸ positionOf_mem_marks stop ts

theorem expected_wanted (stop : Nat) (expected : Wanted) (ts : List Token) :
    (wanted stop expected ts).expected = expected := by
  cases ts <;> rfl

/-- If this fails, then with an error that the tokens explain. -/
def FailsAt {α : Type} (stop : Nat) (ts : List Token) (x : Except ParseError α) : Prop :=
  ∀ e, x = .error e → Explained stop ts e

namespace FailsAt

variable {α β : Type} {x : Except ParseError α}

theorem pure (a : α) : FailsAt stop ts (Pure.pure a) := by
  intro e h
  contradiction

theorem mono (h : FailsAt stop rest x) (hs : rest <:+ ts) : FailsAt stop ts x :=
  fun e he => (h e he).mono hs

theorem bind {f : α → Except ParseError β} (hx : FailsAt stop ts x)
    (hf : ∀ a, x = .ok a → FailsAt stop ts (f a)) : FailsAt stop ts (x >>= f) := by
  cases x with
  | error e =>
      intro e' h
      injection h with h
      exact hx e' (congrArg Except.error h)
  | ok a => exact hf a rfl

/-- Anything but a number may be wanted at the first token. -/
theorem wanted (stop : Nat) {expected : Wanted} (hw : expected ≠ .number) (ts : List Token) :
    FailsAt stop ts (.error (Grammar.wanted stop expected ts) : Except ParseError α) := by
  intro e h
  injection h with h
  subst h
  refine ⟨position_wanted stop expected ts, fun h => ?_⟩
  exact absurd ((expected_wanted stop expected ts).symm.trans h) hw

/-- A number is wanted at a number token that denotes none. -/
theorem wantedNumber (stop : Nat) {t : Token} (r : List Token) {text : String}
    (hl : t.lexeme = .number text) (hn : number? text.toList = none) :
    FailsAt stop (t :: r)
      (.error (Grammar.wanted stop .number (t :: r)) : Except ParseError α) := by
  intro e h
  injection h with h
  subst h
  exact ⟨position_wanted stop .number (t :: r), fun _ => ⟨t, List.mem_cons_self, text, hl, hn⟩⟩

theorem condition {t : Term} (h : ∀ p, t.bare = some p → p ∈ marks stop ts) :
    FailsAt stop ts t.condition := by
  intro e he
  unfold Term.condition at he
  split at he
  · contradiction
  · next p hp =>
    injection he with he
    subst he
    exact ⟨h p hp, fun h => nomatch h⟩

end FailsAt

/-! ## the tokens left are an end -/

theorem Spans.suffix {ls : List Lexeme} (h : Spans ls ts rest) : rest <:+ ts := by
  induction ls generalizing ts with
  | nil =>
      obtain rfl := h
      exact List.suffix_refl ts
  | cons l ls ih =>
      obtain ⟨p, r, rfl, h⟩ := h
      exact (ih h).trans (List.suffix_cons _ r)

/-! ## where a bare operand starts -/

theorem bare_comparison {t : Term} (h : Reads (comparison stop ts) t rest) :
    ∀ p, t.bare = some p → p ∈ marks stop ts := by
  intro p hp
  obtain ⟨left, mid, -, ⟨-, -, rfl⟩ | ⟨op, after, right, -, -, rfl⟩⟩ := reads_comparison.mp h
  · dsimp only at hp
    split at hp
    · contradiction
    · injection hp with hp
      exact hp ▸ positionOf_mem_marks stop ts
  · contradiction

theorem bare_denial {t : Term} (h : Reads (denial stop ts) t rest) :
    ∀ p, t.bare = some p → p ∈ marks stop ts := by
  obtain ⟨-, h⟩ | ⟨p, r, inner, -, -, -, rfl⟩ := reads_denial.mp h
  · exact bare_comparison h
  · intro p hp
    contradiction

theorem bare_conjunction {t : Term} (h : Reads (conjunction stop ts) t rest) :
    ∀ p, t.bare = some p → p ∈ marks stop ts := by
  obtain ⟨first, mid, hfirst, ⟨-, rfl, -⟩ | ⟨-, more, -, -, rfl⟩⟩ := reads_conjunction.mp h
  · exact bare_denial hfirst
  · intro p hp
    contradiction

/-! ## the readers -/

theorem failsAt_operator (stop : Nat) (ts : List Token) :
    FailsAt stop ts (operator stop ts) := by
  unfold operator
  split
  · exact .pure _
  · exact .pure _
  · exact .pure _
  · exact .pure _
  · exact .wanted stop (by decide) _
  · exact .pure _

theorem failsAt_atom (stop : Nat) (t : Token) (r : List Token) :
    FailsAt stop (t :: r) (atom stop t r) := by
  unfold atom
  split
  · exact .pure _
  · exact .pure _
  · next hl =>
    split
    · exact .pure _
    · next hn => exact .wantedNumber stop r hl hn
  · split
    · exact .pure _
    · exact .wanted stop (by decide) _
  · exact .pure _
  · exact .pure _
  · exact .pure _
  · exact .pure _
  · exact .wanted stop (by decide) _

mutual

theorem failsAt_disjunction (stop : Nat) (ts : List Token) :
    FailsAt stop ts (disjunction stop ts) := by
  rw [disjunction]
  refine (failsAt_conjunction stop ts).bind fun first hfirst => ?_
  have hreads : Reads (conjunction stop ts) first.value first.rest := ⟨first, hfirst, rfl, rfl⟩
  obtain ⟨d, hfits⟩ := conjunction_sound hreads
  split
  · refine (FailsAt.condition (bare_conjunction hreads)).bind fun head _ => ?_
    refine FailsAt.bind ?_ fun tail _ => .pure _
    exact (failsAt_disjuncts stop first.rest).mono hfits.spans.suffix
  · exact .pure _
termination_by 8 * ts.length + 4
decreasing_by
  · omega
  · have := first.short
    omega

theorem failsAt_disjuncts (stop : Nat) (ts : List Token) :
    FailsAt stop ts (disjuncts stop ts) := by
  rw [disjuncts.eq_def]
  split
  · next p r =>
    have hr : r <:+ ⟨.or, p⟩ :: r := List.suffix_cons _ r
    refine ((failsAt_conjunction stop r).mono hr).bind fun next hnext => ?_
    have hreads : Reads (conjunction stop r) next.value next.rest := ⟨next, hnext, rfl, rfl⟩
    obtain ⟨d, hfits⟩ := conjunction_sound hreads
    refine ((FailsAt.condition (bare_conjunction hreads)).mono hr).bind fun head _ => ?_
    refine FailsAt.bind ?_ fun tail _ => .pure _
    exact ((failsAt_disjuncts stop next.rest).mono hfits.spans.suffix).mono hr
  · exact .pure _
termination_by 8 * ts.length + 4
decreasing_by
  all_goals subst_vars
  all_goals simp only [List.length_cons]
  · omega
  · have := next.short
    omega

theorem failsAt_conjunction (stop : Nat) (ts : List Token) :
    FailsAt stop ts (conjunction stop ts) := by
  rw [conjunction]
  refine (failsAt_denial stop ts).bind fun first hfirst => ?_
  have hreads : Reads (denial stop ts) first.value first.rest := ⟨first, hfirst, rfl, rfl⟩
  obtain ⟨d, hfits⟩ := denial_sound hreads
  split
  · refine (FailsAt.condition (bare_denial hreads)).bind fun head _ => ?_
    refine FailsAt.bind ?_ fun tail _ => .pure _
    exact (failsAt_conjuncts stop first.rest).mono hfits.spans.suffix
  · exact .pure _
termination_by 8 * ts.length + 3
decreasing_by
  · omega
  · have := first.short
    omega

theorem failsAt_conjuncts (stop : Nat) (ts : List Token) :
    FailsAt stop ts (conjuncts stop ts) := by
  rw [conjuncts.eq_def]
  split
  · next p r =>
    have hr : r <:+ ⟨.and, p⟩ :: r := List.suffix_cons _ r
    refine ((failsAt_denial stop r).mono hr).bind fun next hnext => ?_
    have hreads : Reads (denial stop r) next.value next.rest := ⟨next, hnext, rfl, rfl⟩
    obtain ⟨d, hfits⟩ := denial_sound hreads
    refine ((FailsAt.condition (bare_denial hreads)).mono hr).bind fun head _ => ?_
    refine FailsAt.bind ?_ fun tail _ => .pure _
    exact ((failsAt_conjuncts stop next.rest).mono hfits.spans.suffix).mono hr
  · exact .pure _
termination_by 8 * ts.length + 3
decreasing_by
  all_goals subst_vars
  all_goals simp only [List.length_cons]
  · omega
  · have := next.short
    omega

theorem failsAt_denial (stop : Nat) (ts : List Token) :
    FailsAt stop ts (denial stop ts) := by
  rw [denial.eq_def]
  split
  · next p r =>
    have hr : r <:+ ⟨.not, p⟩ :: r := List.suffix_cons _ r
    refine ((failsAt_denial stop r).mono hr).bind fun inner hinner => ?_
    have hreads : Reads (denial stop r) inner.value inner.rest := ⟨inner, hinner, rfl, rfl⟩
    exact ((FailsAt.condition (bare_denial hreads)).mono hr).bind fun _ _ => .pure _
  · exact failsAt_comparison stop ts
termination_by 8 * ts.length + 2
decreasing_by
  · subst_vars
    simp only [List.length_cons]
    omega
  · omega

theorem failsAt_comparison (stop : Nat) (ts : List Token) :
    FailsAt stop ts (comparison stop ts) := by
  rw [comparison]
  refine (failsAt_operand stop ts).bind fun left hleft => ?_
  have hreads : Reads (operand stop ts) left.value left.rest := ⟨left, hleft, rfl, rfl⟩
  obtain ⟨d, -, hspans, -⟩ := operand_sound hreads
  have hl : left.rest <:+ ts := hspans.suffix
  refine ((failsAt_operator stop left.rest).mono hl).bind fun op? hop => ?_
  split
  · next op =>
    have hop : ReadsOperator stop left.rest op.value op.rest := ⟨op, hop, rfl, rfl⟩
    refine FailsAt.bind ?_ fun right _ => .pure _
    exact ((failsAt_operand stop op.rest).mono hop.spans.suffix).mono hl
  · exact .pure _
termination_by 8 * ts.length + 1
decreasing_by
  · omega
  · have h₁ := left.short
    have h₂ := hop.length_lt
    omega

theorem failsAt_operand (stop : Nat) (ts : List Token) :
    FailsAt stop ts (operand stop ts) := by
  rw [operand.eq_def]
  split
  · exact .wanted stop (by decide) _
  · next name p r =>
    have hr : r <:+ ⟨.function name, p⟩ :: r := List.suffix_cons _ r
    split
    · exact .pure _
    · next q r _ =>
      refine FailsAt.bind ?_ fun args _ => .pure _
      exact ((failsAt_operands stop r).mono (List.suffix_cons _ r)).mono hr
    · exact (FailsAt.wanted stop (by decide) _).mono hr
  · next p r =>
    have hr : r <:+ ⟨.openParen, p⟩ :: r := List.suffix_cons _ r
    refine ((failsAt_disjunction stop r).mono hr).bind fun inner hinner => ?_
    have hreads : Reads (disjunction stop r) inner.value inner.rest := ⟨inner, hinner, rfl, rfl⟩
    obtain ⟨d, hfits⟩ := disjunction_sound hreads
    split
    · exact .pure _
    · exact ((FailsAt.wanted stop (by decide) _).mono hfits.spans.suffix).mono hr
  · next t r _ _ => exact (failsAt_atom stop t r).bind fun _ _ => .pure _
termination_by 8 * ts.length
decreasing_by
  all_goals subst_vars
  all_goals simp only [List.length_cons]
  all_goals omega

theorem failsAt_operands (stop : Nat) (ts : List Token) :
    FailsAt stop ts (operands stop ts) := by
  rw [operands]
  refine (failsAt_operand stop ts).bind fun first hfirst => ?_
  have hreads : Reads (operand stop ts) first.value first.rest := ⟨first, hfirst, rfl, rfl⟩
  obtain ⟨d, -, hspans, -⟩ := operand_sound hreads
  have hf : first.rest <:+ ts := hspans.suffix
  split
  · next p r h =>
    have hr : r <:+ first.rest := h ▸ List.suffix_cons _ r
    have hlt : r.length < first.rest.length := by simp [h]
    exact (((failsAt_operands stop r).mono hr).mono hf).bind fun tail _ => .pure _
  · exact .pure _
  · exact (FailsAt.wanted stop (by decide) _).mono hf
termination_by 8 * ts.length + 1
decreasing_by
  · omega
  · have := first.short
    omega

end

/-- What the parser says is wrong is explained by the tokens. -/
theorem explained_of_ofTokens (ts : TokenList) : FailsAt ts.stop ts.tokens (Expr.ofTokens ts) := by
  unfold Expr.ofTokens
  refine (failsAt_disjunction ts.stop ts.tokens).bind fun term hterm => ?_
  have hreads : Reads (disjunction ts.stop ts.tokens) term.value term.rest :=
    ⟨term, hterm, rfl, rfl⟩
  obtain ⟨d, hfits⟩ := disjunction_sound hreads
  split
  · exact .pure _
  · exact (FailsAt.wanted ts.stop (by decide) _).mono hfits.spans.suffix

/-- The parser fails at a token, or at the end of the text. -/
theorem failsAt_ofTokens (ts : TokenList) :
    ∀ e, Expr.ofTokens ts = .error e → e.position ∈ marks ts.stop ts.tokens :=
  fun e he => (explained_of_ofTokens ts e he).position

end Grammar

end TreeSift
