import TreeSift.Expr.Parse

/-!
# TreeSift.Proofs.Expr.Relocation

The grammar does not look at positions.

Tokens whose positions are moved, each in the same way as the end of the text, are read as they
were: the result is the same and so is what is left, and an error only moves.  `Moves R x y` says
this of two readings whose results are related by `R`; there is one lemma for each reader
(`moves_disjunction` and the others), and `Expr.ofTokens_moved` for whole filters.
-/

namespace TreeSift

variable (f : Nat → Nat)

/-! ## positions moved -/

/-- The token at another position. -/
def Token.moved (t : Token) : Token := { t with position := f t.position }

/-- The tokens, and the end of the text, at other positions. -/
def TokenList.moved (ts : TokenList) : TokenList := ⟨ts.tokens.map (Token.moved f), f ts.stop⟩

/-- The error at another position. -/
def ParseError.moved (e : ParseError) : ParseError := { e with position := f e.position }

namespace Grammar

/-- The term, with the start of a bare operand at another position. -/
def Term.moved (t : Term) : Term := { t with bare := t.bare.map f }

/-- The second reading is the first at other positions, with a related result. -/
inductive Moves {α β : Type} (R : α → β → Prop) : Except ParseError α → Except ParseError β → Prop
  where
  | ok {a : α} {b : β} (h : R a b) : Moves R (.ok a) (.ok b)
  | error (e : ParseError) : Moves R (.error e) (.error (e.moved f))

/-- The same was read but for its positions, and the same tokens are left but for theirs. -/
structure Alike {α β : Type} {m n : Nat} (g : α → β) (p : Parsed α m) (q : Parsed β n) : Prop where
  value : q.value = g p.value
  rest : q.rest = p.rest.map (Token.moved f)

variable {f} {α β γ δ : Type} {stop : Nat} {ts : List Token}

namespace Moves

/-- One step after another. -/
theorem bind {R : α → β → Prop} {S : γ → δ → Prop} {x : Except ParseError α}
    {y : Except ParseError β} {k : α → Except ParseError γ} {k' : β → Except ParseError δ}
    (h : Moves f R x y) (hk : ∀ a b, R a b → Moves f S (k a) (k' b)) :
    Moves f S (x >>= k) (y >>= k') := by
  cases h with
  | ok h => exact hk _ _ h
  | error e => exact .error e

/-- After the same value come the same steps. -/
theorem same {S : γ → δ → Prop} {x y : Except ParseError α} {k : α → Except ParseError γ}
    {k' : α → Except ParseError δ} (h : Moves f Eq x y) (hk : ∀ a, Moves f S (k a) (k' a)) :
    Moves f S (x >>= k) (y >>= k') :=
  h.bind fun a _ hab => hab ▸ hk a

/-- After a reading come the same steps with its value and with what it left. -/
theorem step {m n : Nat} {g : α → β} {S : γ → δ → Prop} {x : Except ParseError (Parsed α m)}
    {y : Except ParseError (Parsed β n)} {k : Parsed α m → Except ParseError γ}
    {k' : Parsed β n → Except ParseError δ} (h : Moves f (Alike f g) x y)
    (hk : ∀ value rest short short', Moves f S (k ⟨value, rest, short⟩)
      (k' ⟨g value, rest.map (Token.moved f), short'⟩)) :
    Moves f S (x >>= k) (y >>= k') := by
  refine h.bind fun a b hab => ?_
  obtain ⟨value, rest, short⟩ := a
  obtain ⟨value', rest', short'⟩ := b
  obtain ⟨hvalue, hrest⟩ := hab
  dsimp only at hvalue hrest
  subst hvalue hrest
  exact hk value rest short short'

theorem mapError_eq {x y : Except ParseError α} (h : Moves f Eq x y) :
    y = x.mapError (ParseError.moved f) := by
  cases h with
  | ok h =>
      subst h
      rfl
  | error e => rfl

end Moves

theorem wanted_moved (stop : Nat) (expected : Wanted) (ts : List Token) :
    wanted (f stop) expected (ts.map (Token.moved f)) = (wanted stop expected ts).moved f := by
  cases ts <;> rfl

theorem positionOf_moved (stop : Nat) (ts : List Token) :
    positionOf (f stop) (ts.map (Token.moved f)) = f (positionOf stop ts) := by
  cases ts <;> rfl

theorem Moves.wanted {R : α → β → Prop} (stop : Nat) (expected : Wanted) (ts : List Token) :
    Moves f R (.error (wanted stop expected ts))
      (.error (Grammar.wanted (f stop) expected (ts.map (Token.moved f)))) := by
  rw [wanted_moved]
  exact .error _

theorem Moves.condition (t : Term) : Moves f Eq t.condition (t.moved f).condition := by
  obtain ⟨e, bare⟩ := t
  cases bare with
  | none => exact .ok rfl
  | some p => exact .error _

theorem takeNot_moved (ts : List Token) :
    takeNot (ts.map (Token.moved f)) = ((takeNot ts).1, (takeNot ts).2.map (Token.moved f)) := by
  cases ts with
  | nil => rfl
  | cons t ts => obtain ⟨l, p⟩ := t; cases l <;> rfl

theorem takeAny_moved (ts : List Token) :
    takeAny (ts.map (Token.moved f)) = ((takeAny ts).1, (takeAny ts).2.map (Token.moved f)) := by
  cases ts with
  | nil => rfl
  | cons t ts =>
      by_cases h : t.lexeme = .word "any"
      · obtain ⟨l, p⟩ := t
        obtain rfl := h
        rfl
      · obtain ⟨l, p⟩ := t
        simp [takeAny, Token.moved, h]

/-! ## the readers -/

theorem moves_operator (stop : Nat) (ts : List Token) :
    Moves f (Option.Rel (Alike f id)) (operator stop ts)
      (operator (f stop) (ts.map (Token.moved f))) := by
  cases ts with
  | nil => exact .ok .none
  | cons t r =>
      obtain ⟨l, p⟩ := t
      cases l with
      | comparison w =>
          cases w with
          | like =>
              refine .ok (.some ⟨?_, ?_⟩) <;> simp [takeNot_moved]
          | contains =>
              refine .ok (.some ⟨?_, ?_⟩) <;> simp [takeNot_moved, takeAny_moved]
          | _ => exact .ok (.some ⟨rfl, rfl⟩)
      | not =>
          cases r with
          | nil => exact .wanted stop _ [⟨.not, p⟩]
          | cons t r =>
              obtain ⟨l, q⟩ := t
              cases l with
              | comparison w =>
                  cases w with
                  | within => exact .ok (.some ⟨rfl, rfl⟩)
                  | _ => exact .wanted stop _ (⟨.not, p⟩ :: _ :: r)
              | _ => exact .wanted stop _ (⟨.not, p⟩ :: _ :: r)
      | _ => exact .ok .none

theorem moves_atom (stop : Nat) (t : Token) (r : List Token) :
    Moves f Eq (atom stop t r) (atom (f stop) (t.moved f) (r.map (Token.moved f))) := by
  have hwanted (expected : Wanted) : Moves f Eq (.error (wanted stop expected (t :: r)))
      (.error (wanted (f stop) expected (t.moved f :: r.map (Token.moved f))) :
        Except ParseError Expr) := .wanted stop expected (t :: r)
  have hlexeme : (t.moved f).lexeme = t.lexeme := rfl
  unfold atom
  rw [hlexeme]
  split
  · exact .ok rfl
  · exact .ok rfl
  · split
    · exact .ok rfl
    · exact hwanted _
  · split
    · exact .ok rfl
    · exact hwanted _
  · exact .ok rfl
  · exact .ok rfl
  · exact .ok rfl
  · exact .ok rfl
  · exact hwanted _

mutual

theorem moves_disjunction (stop : Nat) (ts : List Token) :
    Moves f (Alike f (Term.moved f)) (disjunction stop ts)
      (disjunction (f stop) (ts.map (Token.moved f))) := by
  rw [disjunction, disjunction]
  refine (moves_conjunction stop ts).step fun value rest short short' => ?_
  cases rest with
  | nil => exact .ok ⟨rfl, rfl⟩
  | cons t r =>
      obtain ⟨l, p⟩ := t
      cases l with
      | or =>
          refine (Moves.condition value).same fun head => ?_
          refine (moves_disjuncts stop (⟨.or, p⟩ :: r)).step fun tail rest _ _ => ?_
          exact .ok ⟨rfl, rfl⟩
      | _ => exact .ok ⟨rfl, rfl⟩
termination_by 8 * ts.length + 4
decreasing_by
  all_goals omega

theorem moves_disjuncts (stop : Nat) (ts : List Token) :
    Moves f (Alike f id) (disjuncts stop ts) (disjuncts (f stop) (ts.map (Token.moved f))) := by
  rw [disjuncts.eq_def stop, disjuncts.eq_def (f stop)]
  cases ts with
  | nil => exact .ok ⟨rfl, rfl⟩
  | cons t r =>
      obtain ⟨l, p⟩ := t
      cases l with
      | or =>
          refine (moves_conjunction stop r).step fun value rest short short' => ?_
          refine (Moves.condition value).same fun head => ?_
          refine (moves_disjuncts stop rest).step fun tail rest _ _ => ?_
          exact .ok ⟨rfl, rfl⟩
      | _ => exact .ok ⟨rfl, rfl⟩
termination_by 8 * ts.length + 4
decreasing_by
  all_goals simp only [List.length_cons]
  all_goals omega

theorem moves_conjunction (stop : Nat) (ts : List Token) :
    Moves f (Alike f (Term.moved f)) (conjunction stop ts)
      (conjunction (f stop) (ts.map (Token.moved f))) := by
  rw [conjunction, conjunction]
  refine (moves_denial stop ts).step fun value rest short short' => ?_
  cases rest with
  | nil => exact .ok ⟨rfl, rfl⟩
  | cons t r =>
      obtain ⟨l, p⟩ := t
      cases l with
      | and =>
          refine (Moves.condition value).same fun head => ?_
          refine (moves_conjuncts stop (⟨.and, p⟩ :: r)).step fun tail rest _ _ => ?_
          exact .ok ⟨rfl, rfl⟩
      | _ => exact .ok ⟨rfl, rfl⟩
termination_by 8 * ts.length + 3
decreasing_by
  all_goals omega

theorem moves_conjuncts (stop : Nat) (ts : List Token) :
    Moves f (Alike f id) (conjuncts stop ts) (conjuncts (f stop) (ts.map (Token.moved f))) := by
  rw [conjuncts.eq_def stop, conjuncts.eq_def (f stop)]
  cases ts with
  | nil => exact .ok ⟨rfl, rfl⟩
  | cons t r =>
      obtain ⟨l, p⟩ := t
      cases l with
      | and =>
          refine (moves_denial stop r).step fun value rest short short' => ?_
          refine (Moves.condition value).same fun head => ?_
          refine (moves_conjuncts stop rest).step fun tail rest _ _ => ?_
          exact .ok ⟨rfl, rfl⟩
      | _ => exact .ok ⟨rfl, rfl⟩
termination_by 8 * ts.length + 3
decreasing_by
  all_goals simp only [List.length_cons]
  all_goals omega

theorem moves_denial (stop : Nat) (ts : List Token) :
    Moves f (Alike f (Term.moved f)) (denial stop ts)
      (denial (f stop) (ts.map (Token.moved f))) := by
  rw [denial.eq_def stop, denial.eq_def (f stop)]
  cases ts with
  | nil => exact moves_comparison stop []
  | cons t r =>
      obtain ⟨l, p⟩ := t
      cases l with
      | not =>
          refine (moves_denial stop r).step fun value rest short short' => ?_
          refine (Moves.condition value).same fun condition => ?_
          exact .ok ⟨rfl, rfl⟩
      | _ => exact moves_comparison stop (_ :: r)
termination_by 8 * ts.length + 2
decreasing_by
  all_goals simp only [List.length_cons, List.length_nil]
  all_goals omega

theorem moves_comparison (stop : Nat) (ts : List Token) :
    Moves f (Alike f (Term.moved f)) (comparison stop ts)
      (comparison (f stop) (ts.map (Token.moved f))) := by
  rw [comparison, comparison]
  refine (moves_operand stop ts).step fun value rest short short' => ?_
  refine (moves_operator stop rest).bind fun op? op?' hop => ?_
  cases hop with
  | none =>
      refine .ok ⟨?_, rfl⟩
      rw [positionOf_moved]
      simp [Term.moved, apply_ite (Option.map f)]
  | @some op op' hop =>
      obtain ⟨op, after, taken⟩ := op
      obtain ⟨op', after', taken'⟩ := op'
      obtain ⟨hop, hafter⟩ := hop
      dsimp only [id] at hop hafter
      subst hop hafter
      refine (moves_operand stop after).step fun right rest _ _ => ?_
      exact .ok ⟨rfl, rfl⟩
termination_by 8 * ts.length + 1
decreasing_by
  all_goals omega

theorem moves_operand (stop : Nat) (ts : List Token) :
    Moves f (Alike f id) (operand stop ts) (operand (f stop) (ts.map (Token.moved f))) := by
  rw [operand.eq_def stop, operand.eq_def (f stop)]
  cases ts with
  | nil => exact .wanted stop _ []
  | cons t r =>
      obtain ⟨l, p⟩ := t
      cases l with
      | function name =>
          cases r with
          | nil => exact .wanted stop _ []
          | cons t r =>
              obtain ⟨l, q⟩ := t
              cases l with
              | openParen =>
                  cases r with
                  | nil =>
                      refine (moves_operands stop []).step fun args rest _ _ => ?_
                      exact .ok ⟨rfl, rfl⟩
                  | cons t r =>
                      obtain ⟨l, s⟩ := t
                      cases l with
                      | closeParen => exact .ok ⟨rfl, rfl⟩
                      | _ =>
                          refine (moves_operands stop (_ :: r)).step fun args rest _ _ => ?_
                          exact .ok ⟨rfl, rfl⟩
              | _ => exact .wanted stop _ (_ :: r)
      | openParen =>
          refine (moves_disjunction stop r).step fun value rest short short' => ?_
          cases rest with
          | nil => exact .wanted stop _ []
          | cons t r' =>
              obtain ⟨l, q⟩ := t
              cases l with
              | closeParen => exact .ok ⟨rfl, rfl⟩
              | _ => exact .wanted stop _ (_ :: r')
      | _ =>
          refine (moves_atom stop _ r).same fun e => ?_
          exact .ok ⟨rfl, rfl⟩
termination_by 8 * ts.length
decreasing_by
  all_goals subst_vars
  all_goals simp only [List.length_cons]
  all_goals omega

theorem moves_operands (stop : Nat) (ts : List Token) :
    Moves f (Alike f id) (operands stop ts) (operands (f stop) (ts.map (Token.moved f))) := by
  rw [operands, operands]
  refine (moves_operand stop ts).step fun value rest short short' => ?_
  cases rest with
  | nil => exact .wanted stop _ []
  | cons t r =>
      obtain ⟨l, p⟩ := t
      cases l with
      | comma =>
          have hlt : r.length < ts.length := Nat.lt_of_succ_lt short
          refine (moves_operands stop r).step fun tail rest _ _ => ?_
          exact .ok ⟨rfl, rfl⟩
      | closeParen => exact .ok ⟨rfl, rfl⟩
      | _ => exact .wanted stop _ (_ :: r)
termination_by 8 * ts.length + 1
decreasing_by
  all_goals omega

end

end Grammar

open Grammar

/-- **The grammar does not look at positions.**  Tokens at other positions are the same filter, and
where they are none, the error is the same at its other position. -/
theorem Expr.ofTokens_moved (ts : TokenList) :
    ofTokens (ts.moved f) = (ofTokens ts).mapError (ParseError.moved f) := by
  refine Moves.mapError_eq ?_
  refine (moves_disjunction ts.stop ts.tokens).step fun value rest short short' => ?_
  cases rest with
  | nil => exact .ok rfl
  | cons t r => exact .wanted ts.stop _ (t :: r)

end TreeSift
