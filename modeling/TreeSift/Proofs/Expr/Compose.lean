import TreeSift.Proofs.Expr.Local
import TreeSift.Proofs.Expr.RoundTrip

/-!
# TreeSift.Proofs.Expr.Compose

Filter texts put together in parentheses are read as what they are read as by themselves.

1. A text that is read has the tokens of a derivation, and keeps them before all that delimits it
   (`exists_derivation`).  In parentheses it is a condition, even if by itself it is a bare operand.
2. So parentheses alone change nothing, and joins and denials of such texts are read as joins and
   denials of what they denote, flattened as usual (`ofText_of_groups`).
3. Comparisons of such texts are read as comparisons, but for the word `any`: before a parenthesis
   it is the name of a function, whose only argument is then the text there, if that is an operand
   (`ofText_of_compared_groups`).
-/

namespace TreeSift

open Lexeme

namespace Grammar

open TreeSift.Grammar.Derivation

/-! ## what follows an operand -/

variable {ts mid rest : List Token}

/-- After an operand at the start of a filter comes an operator with another operand, or what may come
after a comparison. -/
theorem closes_or_operator {o : Derivation .operand} (ho : Spans o.lexemes ts mid) :
    (d : Derivation .disjunction) → Spans d.lexemes ts rest → Closes .disjunction rest →
      Closes .comparison mid ∨ ∃ op after, ∃ right : Derivation .operand, ∃ last,
        Spans (spelling op) mid after ∧ Spans right.lexemes after last
  | .disjunction (.conjunction first more) others, hd, hc => by
      obtain ⟨last, hfirst, hothers⟩ := spans_append.mp hd
      obtain ⟨next, hfirst, hmore⟩ := spans_append.mp hfirst
      have hclose := closes_of_conjuncts more hmore (closes_of_disjuncts others hothers hc)
      cases first with
      | deny inner =>
          obtain ⟨p, r, rfl, -⟩ := hfirst
          exact absurd ⟨p, r, rfl⟩
            (not_starts_of_opensOperand (starts_operand o ho) (m := .not) rfl)
      | affirm inner =>
          cases inner with
          | alone inner =>
              obtain ⟨rfl, rfl⟩ := (operand_unique o inner).operand ho hfirst
              exact .inl hclose
          | compared left op right =>
              obtain ⟨mid', hleft, hop⟩ := spans_append.mp hfirst
              obtain ⟨after, hop, hright⟩ := spans_append.mp hop
              obtain ⟨rfl, rfl⟩ := (operand_unique o left).operand ho hleft
              exact .inr ⟨op, after, right, next, hop, hright⟩

/-- A filter starts with a denial or an operand. -/
theorem starts_disjunction : (d : Derivation .disjunction) → Spans d.lexemes ts rest →
    ∃ l, Starts l ts ∧ (l = .not ∨ opensOperand l = true)
  | .disjunction (.conjunction first more) others, h => by
      obtain ⟨last, hfirst, -⟩ := spans_append.mp h
      obtain ⟨next, hfirst, -⟩ := spans_append.mp hfirst
      cases first with
      | deny inner =>
          obtain ⟨p, r, rfl, -⟩ := hfirst
          exact ⟨.not, ⟨p, r, rfl⟩, .inl rfl⟩
      | affirm inner =>
          obtain ⟨l, hs, ho⟩ := starts_comparison inner hfirst
          exact ⟨l, hs, .inr ho⟩

/-- What is both the arguments of a call and a filter is one operand. -/
theorem exists_operand_of_arguments {args : Derivation .arguments} {d : Derivation .disjunction}
    {p q : Nat} {r s : List Token} (ha : Spans args.lexemes ts (⟨.closeParen, p⟩ :: r))
    (hd : Spans d.lexemes ts (⟨.closeParen, q⟩ :: s)) :
    ∃ o : Derivation .operand, d = .ofComparison (.alone o) := by
  cases args with
  | noArgument =>
      obtain rfl := ha
      obtain ⟨l, hs, hl⟩ := starts_disjunction d hd
      rw [starts_cons] at hs
      subst hs
      simp [opensOperand] at hl
  | arguments args =>
      cases args with
      | lastOperand o =>
          have ho : Spans (ofComparison (.alone o)).lexemes ts (⟨.closeParen, p⟩ :: r) := by
            simpa [lexemes] using ha
          exact ⟨o, (disjunction_unique _ _ hd ho (closes_cons rfl) (closes_cons rfl)).1⟩
      | moreOperands next more =>
          obtain ⟨mid, hn, p, r, rfl, -⟩ := spans_append.mp ha
          obtain h | ⟨op, after, right, last, hop, hr⟩ := closes_or_operator hn d hd (closes_cons rfl)
          · exact absurd ⟨p, r, rfl⟩ (h.not_starts (l := .comma) rfl)
          · have hnone : operator 0 (⟨.comma, p⟩ :: r) = .ok none := operator_eq_none.mpr (by simp)
            exact absurd hnone (readsOperator_before_operand 0 hop hr).ne_none

/-- Where a group, an operator and the name of a function with parentheses around a filter are a
filter, the one in the parentheses is one operand. -/
theorem exists_operand_of_call {d left right : Derivation .disjunction} {op : Operator}
    {name : String} (hd : Spans d.lexemes ts [])
    (h : Spans ((group left).lexemes ++ (spelling op ++
      .function name :: .openParen :: (right.lexemes ++ [.closeParen]))) ts []) :
    ∃ o : Derivation .operand, right = .ofComparison (.alone o) := by
  obtain ⟨mid, hgroup, h⟩ := spans_append.mp h
  obtain ⟨after, hop, p, r, rfl, q, tokens, rfl, hcall⟩ := spans_append.mp h
  obtain ⟨last, hright, q', s, rfl, rfl⟩ := spans_append.mp hcall
  have hread : ReadsOperator 0 mid op _ := readsOperator_of_spans hop (by simp) (by simp)
  obtain hc | ⟨op', after, operand, last, hop', hoperand⟩ :=
    closes_or_operator hgroup d hd (closes_nil _)
  · exact absurd (operator_eq_none_of_closes 0 hc) hread.ne_none
  · obtain ⟨rfl, rfl⟩ := hread.unique (readsOperator_before_operand 0 hop' hoperand)
    cases operand with
    | atom he =>
        obtain ⟨p, r, heq, -⟩ := hoperand
        cases heq
        cases he
    | group inner =>
        obtain ⟨p, r, heq, -⟩ := hoperand
        cases heq
    | call name args =>
        obtain ⟨p, r, heq, q, r', heq', hargs⟩ := hoperand
        cases heq
        cases heq'
        obtain ⟨mid, ha, p', r, rfl, -⟩ := spans_append.mp hargs
        exact exists_operand_of_arguments ha hright

end Grammar

namespace Expr

open Grammar Grammar.Derivation

/-- A text in parentheses. -/
def grouped (text : List Char) : List Char := '(' :: (text ++ [')'])

/-- Two texts in parentheses and an operator between them. -/
def comparedGroups (op : Operator) (left right : List Char) : List Char :=
  grouped left ++ ' ' :: (op.symbol.toList ++ ' ' :: grouped right)

/-- Whether a text is an operand by itself. -/
def IsOperandText (text : List Char) : Prop :=
  ∃ d : Derivation .operand, d.Proper ∧ Lexes text d.lexemes

/-! ## groups -/

/-- What is read is the text of a derivation, wherever it stands. -/
theorem exists_derivation {text : List Char} {e : Expr} (h : ofText text = .ok e) :
    ∃ d : Derivation .disjunction, d.Proper ∧ d.denote = e ∧ Writes text d.lexemes := by
  unfold ofText at h
  split at h
  · contradiction
  · next tokens htokens =>
    obtain ⟨ts, hts, rfl⟩ := exists_of_map_eq_ok htokens
    split at h
    · contradiction
    · next hread =>
      injection h with h
      subst h
      obtain ⟨d, hp, hl, hd⟩ := derivation_of_ofTokens hread
      exact ⟨d, hp, hd, hl ▸ writes_of_readAll hts⟩

variable {a b : List Char} {A B : Expr}

/-- In parentheses it is a flat condition. -/
theorem exists_group (ha : ofText a = .ok A) :
    ∃ d : Derivation .disjunction, d.Proper ∧ d.denote = A ∧ A.Flat ∧
      Writes (grouped a) (group d).lexemes := by
  obtain ⟨d, hp, rfl, hw⟩ := exists_derivation ha
  exact ⟨d, hp, rfl, flat_disjunction d, hw.group⟩

theorem ofText_grouped (ha : ofText a = .ok A) : ofText (grouped a) = .ok A := by
  obtain ⟨d, hp, rfl, -, hw⟩ := exists_group ha
  exact ofText_of_lexes (.ofComparison (.alone (.group d))) (proper_ofComparison.mpr hp)
    (by simpa [lexemes] using hw.lexes)

theorem ofText_and_groups {sep : List Char} (hs : Separates sep .and) (ha : ofText a = .ok A)
    (hb : ofText b = .ok B) : ofText (grouped a ++ sep ++ grouped b) = .ok (all [A, B]).simplify := by
  obtain ⟨d, hp, rfl, hflat, hw⟩ := exists_group ha
  obtain ⟨d', hp', rfl, hflat', hw'⟩ := exists_group hb
  rw [all, ← joined_eq_simplify (by decide) hflat (by simpa using hflat') (by simp)]
  exact ofText_of_lexes (.disjunction
    (.conjunction (.affirm (.alone (.group d))) (.conjunct (.affirm (.alone (.group d'))) .noConjunct))
    .noDisjunct) (by simpa [Proper, isBare] using ⟨hp, hp'⟩)
    (by simpa [lexemes] using (hw.separated hs hw').lexes)

theorem ofText_or_groups {sep : List Char} (hs : Separates sep .or) (ha : ofText a = .ok A)
    (hb : ofText b = .ok B) : ofText (grouped a ++ sep ++ grouped b) = .ok (any [A, B]).simplify := by
  obtain ⟨d, hp, rfl, hflat, hw⟩ := exists_group ha
  obtain ⟨d', hp', rfl, hflat', hw'⟩ := exists_group hb
  rw [any, ← joined_eq_simplify (by decide) hflat (by simpa using hflat') (by simp)]
  exact ofText_of_lexes (.disjunction (.conjunction (.affirm (.alone (.group d))) .noConjunct)
    (.disjunct (.conjunction (.affirm (.alone (.group d'))) .noConjunct) .noDisjunct))
    (by simpa [Proper, isBare] using ⟨hp, hp'⟩)
    (by simpa [lexemes] using (hw.separated hs hw').lexes)

theorem ofText_deny_group {w : List Char} (ht : ∀ rest, Takes w .not (' ' :: rest))
    (ha : ofText a = .ok A) : ofText (w ++ ' ' :: grouped a) = .ok (deny A) := by
  obtain ⟨d, hp, rfl, -, hw⟩ := exists_group ha
  exact ofText_of_lexes (.disjunction
    (.conjunction (.deny (.affirm (.alone (.group d)))) .noConjunct) .noDisjunct)
    (by simpa [Proper, isBare] using hp) (by simpa [lexemes] using (hw.denied ht).lexes)

theorem separates_andSign : Separates " && ".toList .and :=
  separates_spaced (w := ['&', '&']) (fun _ => ⟨_, _, rfl, rfl, rfl⟩) fun _ h =>
    absurd (Option.some.inj h) (by decide)

theorem separates_orSign : Separates " || ".toList .or :=
  separates_spaced (w := ['|', '|']) (fun _ => ⟨_, _, rfl, rfl, rfl⟩) fun _ h =>
    absurd (Option.some.inj h) (by decide)

theorem takes_notSign (rest : List Char) : Takes ['!'] .not (' ' :: rest) :=
  ⟨_, _, rfl, rfl, rfl⟩

/-- A path of one segment is read as it is written. -/
theorem ofText_bracketed {s : String} (h : IsSegment s.toList) :
    ofText ('[' :: (s.toList ++ [']'])) = .ok (path [s]) := by
  have hread : ofText (path [s]).render = .ok (path [s]) :=
    ofText_of_restored (restored_path (List.cons_ne_nil s []) (by simpa using h))
  simpa [render, pathText, Text.joinWith] using hread

/-- **Reading is compositional.**  Texts that are read as filters may be put in parentheses, and then
be joined and denied by words or by signs: what is read is the join, flattened, or the denial, of
what they are read as by themselves. -/
theorem ofText_of_groups (ha : ofText a = .ok A) (hb : ofText b = .ok B) :
    ofText (grouped a) = .ok A ∧
    (∀ sep ∈ [" and ", " && "],
      ofText (grouped a ++ sep.toList ++ grouped b) = .ok (all [A, B]).simplify) ∧
    (∀ sep ∈ [" or ", " || "],
      ofText (grouped a ++ sep.toList ++ grouped b) = .ok (any [A, B]).simplify) ∧
    ∀ mark ∈ ["not ", "! "], ofText (mark.toList ++ grouped a) = .ok (deny A) := by
  simp only [List.forall_mem_cons, List.not_mem_nil, false_implies, implies_true, and_true]
  refine ⟨ofText_grouped ha, ⟨?_, ?_⟩, ⟨?_, ?_⟩, ?_, ?_⟩
  · exact ofText_and_groups separates_and ha hb
  · exact ofText_and_groups separates_andSign ha hb
  · exact ofText_or_groups separates_or ha hb
  · exact ofText_or_groups separates_orSign ha hb
  · exact ofText_deny_group takes_not ha
  · exact ofText_deny_group takes_notSign ha

/-- A join inside a join, of operands that may not be joined without parentheses. -/
theorem ofText_of_groups_nested :
    ofText "([a]) and ([b])".toList = .ok (all [path ["a"], path ["b"]]) ∧
    ofText "[c]".toList = .ok (path ["c"]) ∧
    ofText "(([a]) and ([b])) && ([c])".toList =
      .ok (all [path ["a"], path ["b"], path ["c"]]) := by
  have ha : ofText "[a]".toList = .ok (path ["a"]) := ofText_bracketed (s := "a") (by decide)
  have hb : ofText "[b]".toList = .ok (path ["b"]) := ofText_bracketed (s := "b") (by decide)
  have hc : ofText "[c]".toList = .ok (path ["c"]) := ofText_bracketed (s := "c") (by decide)
  have hab : ofText "([a]) and ([b])".toList = .ok (all [path ["a"], path ["b"]]) :=
    ofText_and_groups separates_and ha hb
  obtain ⟨-, hand, -⟩ := ofText_of_groups hab hc
  exact ⟨hab, hc, hand " && " (by simp)⟩

/-! ## comparisons -/

/-- Operators other than the two with `any` compare texts in parentheses. -/
theorem ofText_comparedGroups {op : Operator} (hop : op ≠ .containsAny ∧ op ≠ .notContainsAny)
    (ha : ofText a = .ok A) (hb : ofText b = .ok B) :
    ofText (comparedGroups op a b) = .ok (.comparison op A B) := by
  obtain ⟨d, hp, rfl, -, hw⟩ := exists_group ha
  obtain ⟨d', hp', rfl, -, hw'⟩ := exists_group hb
  have hlexes := (hw.compared hw' fun h => (h.elim hop.1 hop.2).elim).lexes
  exact ofText_of_lexes (.ofComparison (.compared (.group d) op (.group d')))
    (proper_ofComparison.mpr ⟨hp, hp'⟩) (by simpa [lexemes, comparedGroups] using hlexes)

/-- What follows `any` and a parenthesis are the arguments of a function of that name. -/
theorem lexes_any {ls : List Lexeme} (h : Writes b ls) :
    Lexes ("any".toList ++ ' ' :: grouped b)
      (.function "any" :: .openParen :: (ls ++ [.closeParen])) := by
  have hblank : ∀ c ∈ (' ' :: grouped b).head?, isWordChar c = false := by
    intro c hc
    obtain rfl := Option.some.inj hc
    rfl
  have hword : Takes "any".toList (.function "any") (' ' :: grouped b) :=
    takes_word (by decide) hblank
  exact .token hword (.gap rfl h.group.lexes)

theorem symbol_containsOperator_any (negated : Bool) :
    (containsOperator negated true).symbol.toList =
      (containsOperator negated false).symbol.toList ++ ' ' :: "any".toList := by
  cases negated <;> decide

theorem lexes_contains_any (negated : Bool) {ls ls' : List Lexeme} (h : Writes (grouped a) ls)
    (h' : Writes b ls') :
    Lexes (comparedGroups (containsOperator negated true) a b)
      (ls ++ (spelling (containsOperator negated false) ++
        .function "any" :: .openParen :: (ls' ++ [.closeParen]))) := by
  rw [comparedGroups, symbol_containsOperator_any, List.append_assoc, List.cons_append]
  refine h _ _ (delimits_operator _ _) (lexes_operator ?_ (lexes_any h'))
  cases negated <;> simp [containsOperator]

/-- With `any` a text is read only if the right text is an operand, and then not as that operator. -/
theorem ofText_contains_any_iff (negated : Bool) (ha : ofText a = .ok A) (hb : ofText b = .ok B)
    {e : Expr} :
    ofText (comparedGroups (containsOperator negated true) a b) = .ok e ↔
      IsOperandText b ∧ e = .comparison (containsOperator negated false) A (.call "any" [B]) := by
  obtain ⟨d, hp, rfl, -, hw⟩ := exists_group ha
  have hoperand : IsOperandText b →
      ofText (comparedGroups (containsOperator negated true) a b) =
        .ok (.comparison (containsOperator negated false) d.denote (.call "any" [B])) := by
    intro h
    obtain ⟨o, ho, hlexes⟩ := h
    have hread := ofText_of_lexes (.ofComparison (.alone o)) (proper_ofComparison.mpr ho)
      (by simpa [lexemes] using hlexes)
    rw [hb] at hread
    injection hread with hB
    subst hB
    exact ofText_of_lexes (.ofComparison (.compared (.group d) (containsOperator negated false)
      (.call "any" (.arguments (.lastOperand o))))) (proper_ofComparison.mpr ⟨hp, ho⟩)
      (by simpa [lexemes] using lexes_contains_any negated hw hlexes.writes)
  constructor
  · intro h
    obtain ⟨d', hp', rfl, hw'⟩ := exists_derivation hb
    obtain ⟨whole, -, -, hwhole⟩ := exists_derivation h
    obtain ⟨ts, hts, hls⟩ := hwhole.lexes 0
    obtain ⟨ts', hts', hls'⟩ := lexes_contains_any negated hw hw' 0
    rw [hts] at hts'
    injection hts' with hts'
    subst hts'
    obtain ⟨o, rfl⟩ := exists_operand_of_call (spans_all.mpr hls.symm) (spans_all.mpr hls'.symm)
    have htext : IsOperandText b :=
      ⟨o, proper_ofComparison.mp hp', by simpa [lexemes] using hw'.lexes⟩
    rw [hoperand htext] at h
    injection h with h
    exact ⟨htext, h.symm⟩
  · intro h
    obtain ⟨htext, rfl⟩ := h
    exact hoperand htext

/-- **Comparing texts in parentheses.**  Texts that are read as filters are compared in parentheses by
twelve of the operators.  By `contains any` and `contains not any` they are not: there `any` is the
name of a function.  Such a text is read only if the right text is an operand by itself, and then
as `contains` or `contains not` with a call on that operand. -/
theorem ofText_of_compared_groups (ha : ofText a = .ok A) (hb : ofText b = .ok B) :
    (∀ op, op ≠ .containsAny ∧ op ≠ .notContainsAny →
      ofText (comparedGroups op a b) = .ok (.comparison op A B)) ∧
    (∀ e, ofText (comparedGroups .containsAny a b) = .ok e ↔
      IsOperandText b ∧ e = .comparison .contains A (.call "any" [B])) ∧
    ∀ e, ofText (comparedGroups .notContainsAny a b) = .ok e ↔
      IsOperandText b ∧ e = .comparison .notContains A (.call "any" [B]) :=
  ⟨fun _ hop => ofText_comparedGroups hop ha hb, fun _ => ofText_contains_any_iff false ha hb,
    fun _ => ofText_contains_any_iff true ha hb⟩

/-- Two paths in parentheses are compared by `like not`, and not by `contains not any`. -/
theorem ofText_of_compared_groups_paths :
    ofText "[a]".toList = .ok (path ["a"]) ∧ ofText "[b]".toList = .ok (path ["b"]) ∧
    (Operator.notLike ≠ .containsAny ∧ Operator.notLike ≠ .notContainsAny) ∧
    ofText "([a]) like not ([b])".toList = .ok (.comparison .notLike (path ["a"]) (path ["b"])) ∧
    ofText "([a]) contains not any ([b])".toList ≠
      .ok (.comparison .notContainsAny (path ["a"]) (path ["b"])) := by
  have ha : ofText "[a]".toList = .ok (path ["a"]) := ofText_bracketed (s := "a") (by decide)
  have hb : ofText "[b]".toList = .ok (path ["b"]) := ofText_bracketed (s := "b") (by decide)
  have hop : Operator.notLike ≠ .containsAny ∧ Operator.notLike ≠ .notContainsAny := by decide
  obtain ⟨hplain, -, hany⟩ := ofText_of_compared_groups ha hb
  refine ⟨ha, hb, hop, hplain .notLike hop, fun h => ?_⟩
  obtain ⟨-, he⟩ := (hany _).mp h
  cases he

/-- Not every operator compares every two filters in parentheses. -/
theorem not_ofText_containsAny_groups :
    ¬ ∀ (op : Operator) (a b : List Char) (A B : Expr), ofText a = .ok A → ofText b = .ok B →
      ofText (comparedGroups op a b) = .ok (.comparison op A B) := by
  intro h
  have ha : ofText "[a]".toList = .ok (path ["a"]) := ofText_bracketed (s := "a") (by decide)
  have hb : ofText "[b]".toList = .ok (path ["b"]) := ofText_bracketed (s := "b") (by decide)
  have hread := h .containsAny _ _ _ _ ha hb
  obtain ⟨-, he⟩ := (ofText_contains_any_iff false ha hb).mp hread
  cases he

end Expr

end TreeSift
