import TreeSift.Filter.Error
import TreeSift.Proofs.Expr.Grammar
import TreeSift.Proofs.Expr.Lexing

/-!
# TreeSift.Proofs.Expr.RoundTrip

Reading the text of an expression gives the expression back (`Expr.ofText_render`).

1. The text of a writable expression is the text of a derivation of it, whatever delimits it
   (`Expr.restored`).  A comparison gives a derivation that is not bare, an operand one that may be;
   a join or a denial is in parentheses and gives either.
2. Under the parentheses of a join its conditions stand apart, since none of them is a join of that
   kind that the join would take up.
3. The grammar has the last word: what has a derivation is read as what that denotes.
-/

namespace TreeSift

open Lexeme

namespace Writes

/-! ## composite texts -/

theorem group {text : List Char} {ls : List Lexeme} (h : Writes text ls) :
    Writes ('(' :: (text ++ [')'])) (.openParen :: (ls ++ [.closeParen])) := by
  intro rest more hd hl
  have hinner := h _ _ (delimits_closeParen rest) (.token (takes_closeParen rest) hl)
  simpa using Lexes.token (takes_openParen _) hinner

theorem denied {w text : List Char} {ls : List Lexeme} (ht : ∀ rest, Takes w .not (' ' :: rest))
    (h : Writes text ls) : Writes (w ++ ' ' :: text) (.not :: ls) := by
  intro rest more hd hl
  rw [List.append_assoc, List.cons_append]
  exact .token (ht _) (.gap rfl (h rest more hd hl))

/-- Nothing has to come after a text. -/
theorem lexes {text : List Char} {ls : List Lexeme} (h : Writes text ls) : Lexes text ls := by
  simpa using h [] [] delimits_nil .nil

/-- Nothing opens a parenthesis after `any`. -/
theorem compared {op : Operator} {text text' : List Char} {ls ls' : List Lexeme}
    (h : Writes text ls) (h' : Writes text' ls')
    (hany : op = .containsAny ∨ op = .notContainsAny →
      ∀ rest, (Text.trimStart (text' ++ rest)).head? ≠ some '(') :
    Writes (text ++ ' ' :: (op.symbol.toList ++ ' ' :: text'))
      (ls ++ (Grammar.spelling op ++ ls')) := by
  intro rest more hd hl
  have hop := lexes_operator (fun ho => hany ho rest) (h' rest more hd hl)
  simpa using h _ _ (delimits_operator op _) hop

end Writes

namespace Expr

open Grammar Grammar.Derivation

/-- The text of the expression is read as a derivation of it. -/
def Restored : Role → Expr → Prop
  | .condition, e => ∃ d : Derivation .comparison,
    d.Proper ∧ d.isBare = false ∧ d.denote = e ∧ Writes e.render d.lexemes
  | .operand, e => ∃ d : Derivation .operand,
    d.Proper ∧ d.denote = e ∧ Writes e.render d.lexemes

/-! ## constants -/

theorem writes_plain {w : List Char} (hw : IsName w) (h : ¬IsReserved w)
    (hl : Text.lowerAscii w = w) : Writes w [.word (String.ofList w)] :=
  writes_of_takes fun _ hd => takes_plain hw h hl hd

/-- The text of a constant is one token, which the grammar takes for the constant. -/
theorem exists_atom_of_constant {v : Value} (h : WritableConstant v) :
    ∃ l, Atom l (.literal v) ∧ Writes (renderLiteral v) [l] := by
  cases h with
  | null => exact ⟨_, .null, writes_plain (by decide) (by decide) rfl⟩
  | boolean b =>
      cases b with
      | true => exact ⟨_, .true, writes_plain (by decide) (by decide) rfl⟩
      | false => exact ⟨_, .false, writes_plain (by decide) (by decide) rfl⟩
  | long n =>
      refine ⟨_, .number ?_, writes_of_takes fun _ hd => takes_writeInt n.toInt hd⟩
      rw [String.toList_ofList]
      exact number?_writeInt n
  | text plain => exact ⟨_, .string _, writes_of_takes fun rest _ => takes_quote plain rest⟩

/-! ## joins -/

/-- Conditions that are no joins of a kind are joined as they are. -/
theorem joined_eq_logic {c : Connective} {e : Expr} {es : List Expr} (hne : es ≠ [])
    (h : ∀ x ∈ e :: es, ∀ ds, x ≠ .logic c ds) : joined c e es = .logic c (e :: es) := by
  cases es with
  | nil => contradiction
  | cons next more =>
      have hspread : (e :: next :: more).flatMap (spread c) = e :: next :: more := by
        rw [List.flatMap_congr fun x hx => spread_of_ne (h x hx), List.flatMap_singleton']
      rw [joined, hspread]

/-- Conditions with `or` between them. -/
theorem exists_disjunction {e : Expr} {es : List Expr}
    (h : ∀ x ∈ e :: es, Restored .condition x) :
    ∃ (first : Derivation .conjunction) (more : Derivation .disjuncts),
      first.Proper ∧ first.isBare = false ∧ more.Proper ∧ first.denote = e ∧ more.denote = es ∧
        Writes (renderJoined (separator .or) (e :: es)) (first.lexemes ++ more.lexemes) := by
  induction es generalizing e with
  | nil =>
      obtain ⟨d, hp, hb, hd, hw⟩ := h e List.mem_cons_self
      refine ⟨.conjunction (.affirm d) .noConjunct, .noDisjunct, ⟨hp, trivial, .inl rfl⟩, hb,
        trivial, hd, rfl, ?_⟩
      simpa [renderJoined, lexemes] using hw
  | cons next es ih =>
      obtain ⟨⟨d, hp, hb, hd, hw⟩, htail⟩ := List.forall_mem_cons.mp h
      obtain ⟨second, more, hsecond, hbare, hmore, hnext, hes, hwrites⟩ := ih htail
      refine ⟨.conjunction (.affirm d) .noConjunct, .disjunct second more,
        ⟨hp, trivial, .inl rfl⟩, hb, ⟨hsecond, hmore, hbare⟩, hd, ?_, ?_⟩
      · simp [denote, hnext, hes]
      · simpa [renderJoined, lexemes] using hw.separated separates_or hwrites

/-- Conditions with `and` between them. -/
theorem exists_conjunction {e : Expr} {es : List Expr}
    (h : ∀ x ∈ e :: es, Restored .condition x) :
    ∃ (first : Derivation .denial) (more : Derivation .conjuncts),
      first.Proper ∧ first.isBare = false ∧ more.Proper ∧ first.denote = e ∧ more.denote = es ∧
        Writes (renderJoined (separator .and) (e :: es)) (first.lexemes ++ more.lexemes) := by
  induction es generalizing e with
  | nil =>
      obtain ⟨d, hp, hb, hd, hw⟩ := h e List.mem_cons_self
      refine ⟨.affirm d, .noConjunct, hp, hb, trivial, hd, rfl, ?_⟩
      simpa [renderJoined, lexemes] using hw
  | cons next es ih =>
      obtain ⟨⟨d, hp, hb, hd, hw⟩, htail⟩ := List.forall_mem_cons.mp h
      obtain ⟨second, more, hsecond, hbare, hmore, hnext, hes, hwrites⟩ := ih htail
      refine ⟨.affirm d, .conjunct second more, hp, hb, ⟨hsecond, hmore, hbare⟩, hd, ?_, ?_⟩
      · simp [denote, hnext, hes]
      · simpa [renderJoined, lexemes] using hw.separated separates_and hwrites

/-- Operands with commas between them. -/
theorem exists_operands {e : Expr} {es : List Expr} (h : ∀ x ∈ e :: es, Restored .operand x) :
    ∃ d : Derivation .operands, d.Proper ∧ d.denote = e :: es ∧
      Writes (renderJoined [',', ' '] (e :: es)) d.lexemes := by
  induction es generalizing e with
  | nil =>
      obtain ⟨d, hp, hd, hw⟩ := h e List.mem_cons_self
      exact ⟨.lastOperand d, hp, by simp [denote, hd], by simpa [renderJoined, lexemes] using hw⟩
  | cons next es ih =>
      obtain ⟨⟨d, hp, hd, hw⟩, htail⟩ := List.forall_mem_cons.mp h
      obtain ⟨more, hmore, hes, hwrites⟩ := ih htail
      refine ⟨.moreOperands d more, ⟨hp, hmore⟩, by simp [denote, hd, hes], ?_⟩
      simpa [renderJoined, lexemes] using hw.separated separates_comma hwrites

/-- What is in parentheses may stand for a condition and for an operand. -/
theorem restored_of_group (role : Role) {e : Expr} (inner : Derivation .disjunction)
    (hp : inner.Proper) (hd : inner.denote = e)
    (hw : Writes e.render (.openParen :: (inner.lexemes ++ [.closeParen]))) : Restored role e := by
  cases role with
  | condition => exact ⟨.alone (.group inner), hp, rfl, hd, hw⟩
  | operand => exact ⟨.group inner, hp, hd, hw⟩

theorem restored_join (role : Role) {c : Connective} {es : List Expr} (joins : c ≠ .not)
    (several : 2 ≤ es.length) (conditions : ∀ e ∈ es, Restored .condition e)
    (apart : ∀ e ∈ es, ∀ ds, e ≠ .logic c ds) : Restored role (.logic c es) := by
  cases es with
  | nil => contradiction
  | cons e es =>
      have hne : es ≠ [] := by
        intro hes
        subst hes
        contradiction
      cases c with
      | not => contradiction
      | or =>
          obtain ⟨first, more, hfirst, hbare, hmore, rfl, rfl, hw⟩ := exists_disjunction conditions
          refine restored_of_group role (.disjunction first more) ⟨hfirst, hmore, .inr hbare⟩
            (joined_eq_logic hne apart) ?_
          rw [render]
          exact hw.group
      | and =>
          obtain ⟨first, more, hfirst, hbare, hmore, rfl, rfl, hw⟩ := exists_conjunction conditions
          refine restored_of_group role (.disjunction (.conjunction first more) .noDisjunct)
            ⟨⟨hfirst, hmore, .inr hbare⟩, trivial, .inl rfl⟩ (joined_eq_logic hne apart) ?_
          rw [render]
          simpa [lexemes] using hw.group

theorem restored_deny (role : Role) {e : Expr} (h : Restored .condition e) :
    Restored role (.logic .not [e]) := by
  obtain ⟨d, hp, hb, rfl, hw⟩ := h
  refine restored_of_group role
    (.disjunction (.conjunction (.deny (.affirm d)) .noConjunct) .noDisjunct)
    ⟨⟨⟨hp, hb⟩, trivial, .inl rfl⟩, trivial, .inl rfl⟩ rfl ?_
  simpa [render, renderDenied, lexemes] using (hw.denied takes_not).group

/-- What stands between the parentheses of a call, and the one that closes it. -/
theorem exists_arguments {args : List Expr} (h : ∀ x ∈ args, Restored .operand x) :
    ∃ d : Derivation .arguments, d.Proper ∧ d.denote = args ∧
      ∀ rest more, Lexes rest more →
        Lexes (renderJoined [',', ' '] args ++ ')' :: rest) (d.lexemes ++ .closeParen :: more) := by
  cases args with
  | nil => exact ⟨.noArgument, trivial, rfl, fun rest more => .token (takes_closeParen rest)⟩
  | cons e es =>
      obtain ⟨d, hp, hd, hw⟩ := exists_operands h
      refine ⟨.arguments d, hp, hd, fun rest more hl => ?_⟩
      exact hw _ _ (delimits_closeParen rest) (.token (takes_closeParen rest) hl)

theorem restored_call {name : String} {args : List Expr} (named : IsName name.toList)
    (free : ¬IsReserved name.toList) (operands : ∀ e ∈ args, Restored .operand e) :
    Restored .operand (.call name args) := by
  obtain ⟨d, hp, hd, hw⟩ := exists_arguments operands
  refine ⟨.call name d, hp, by simp [denote, hd], fun rest more _ hl => ?_⟩
  have hname (text : List Char) : Takes name.toList (.function name) ('(' :: text) := by
    simpa using takes_function named free
  simpa [render, lexemes] using
    Lexes.token (hname _) (.token (takes_openParen _) (hw rest more hl))

theorem restored_path {segments : List String} (hne : segments ≠ [])
    (plain : ∀ s ∈ segments, IsSegment s.toList) : Restored .operand (.path segments) := by
  have hchars : ∀ cs ∈ segments.map String.toList, IsSegment cs := by
    simpa using plain
  refine ⟨.atom (.path (String.ofList (pathText segments))), trivial, ?_, ?_⟩
  · simp [denote, segmentsOf_pathText hne plain]
  · exact writes_of_takes fun rest _ => takes_path (by simpa using hne) hchars rest

/-! ## operands that open no parenthesis -/

theorem isBlank_eq_false_of_isDigit {c : Char} (h : c.isDigit = true) :
    CharClass.isBlank c = false := by
  have hrange : 48 ≤ c.toNat ∧ c.toNat ≤ 57 := Char.isDigit_iff_toNat.mp h
  simp only [CharClass.isBlank, Bool.or_eq_false_iff, Bool.and_eq_false_iff,
    decide_eq_false_iff_not]
  omega

theorem WritableConstant.exists_first {v : Value} (h : WritableConstant v) :
    ∃ c r, renderLiteral v = c :: r ∧ CharClass.isBlank c = false ∧ c ≠ '(' := by
  cases h with
  | null => exact ⟨_, _, rfl, rfl, by decide⟩
  | boolean b => cases b <;> exact ⟨_, _, rfl, rfl, by decide⟩
  | text => exact ⟨'\'', _, rfl, rfl, by decide⟩
  | long n =>
      change ∃ c r, Json.writeInt n.toInt = c :: r ∧ _
      obtain ⟨c, r, htext⟩ := List.exists_cons_of_ne_nil (writeInt_ne_nil n.toInt)
      refine ⟨c, r, htext, ?_⟩
      obtain rfl | hd := isDigit_of_mem_writeInt (htext ▸ List.mem_cons_self)
      · exact ⟨rfl, by decide⟩
      · exact ⟨isBlank_eq_false_of_isDigit hd, ne_of_isDigit hd rfl⟩

/-- An operand that is no join and no denial starts with neither a blank nor a parenthesis. -/
theorem Writable.exists_first {e : Expr} (h : Writable .operand e)
    (hl : ∀ c es, e ≠ .logic c es) :
    ∃ c r, e.render = c :: r ∧ CharClass.isBlank c = false ∧ c ≠ '(' := by
  cases h with
  | join => exact absurd rfl (hl _ _)
  | deny => exact absurd rfl (hl _ _)
  | path => exact ⟨'[', _, by rw [render], rfl, by decide⟩
  | parameter => exact ⟨'$', _, by rw [render], rfl, by decide⟩
  | call named =>
      obtain ⟨c, r, hname, hc⟩ := named.first
      refine ⟨c, _, by rw [render, hname]; rfl, isBlank_eq_false_of_isWordStart hc, ?_⟩
      exact ne_of_isWordStart hc rfl
  | literal constant =>
      rw [render]
      exact constant.exists_first

/-- The text of a writable expression is that of a derivation of it. -/
theorem restored {role : Role} {e : Expr} (h : Writable role e) : Restored role e := by
  induction h with
  | join joins several _ apart ih => exact restored_join _ joins several ih apart
  | deny _ ih => exact restored_deny _ ih
  | @comparison op left right hl hr apart ihl ihr =>
      obtain ⟨d, hp, rfl, hw⟩ := ihl
      obtain ⟨d', hp', rfl, hw'⟩ := ihr
      refine ⟨.compared d op d', ⟨hp, hp'⟩, rfl, rfl, ?_⟩
      rw [render]
      refine hw.compared hw' fun hop rest => ?_
      obtain ⟨c, r, htext, hc, hparen⟩ := hr.exists_first (apart hop)
      rw [htext]
      simpa [Text.trimStart, hc] using hparen
  | path hne plain => exact restored_path hne plain
  | @parameter name named =>
      refine ⟨.atom (.parameter name), trivial, rfl, ?_⟩
      rw [render]
      exact writes_of_takes fun _ hd => by simpa using takes_parameter named hd
  | call named free _ ih => exact restored_call named free ih
  | literal constant =>
      obtain ⟨l, ha, hw⟩ := exists_atom_of_constant constant
      exact ⟨.atom ha, trivial, rfl, by rw [render]; exact hw⟩

/-- The parser accepts its grammar, so the text of a derivation is read as what that denotes. -/
theorem ofText_of_lexes {text : List Char} (d : Derivation .disjunction) (hp : d.Proper)
    (h : Lexes text d.lexemes) : ofText text = .ok d.denote := by
  obtain ⟨ts, hts, hls⟩ := h (Text.byteLength text)
  have htext : TokenList.ofText text = .ok ⟨ts, Text.byteLength text⟩ := by
    simp [TokenList.ofText, hts, Except.map]
  have hread : ofTokens ⟨ts, Text.byteLength text⟩ = .ok d.denote :=
    ofTokens_of_derivation d hp hls.symm
  simp only [ofText, htext, hread]

theorem ofText_of_restored {role : Role} {e : Expr} (h : Restored role e) :
    ofText e.render = .ok e := by
  obtain ⟨d, hp, rfl, hw⟩ : ∃ d : Derivation .comparison,
      d.Proper ∧ d.denote = e ∧ Writes e.render d.lexemes := by
    cases role with
    | condition =>
        obtain ⟨d, hp, -, hd, hw⟩ := h
        exact ⟨d, hp, hd, hw⟩
    | operand =>
        obtain ⟨d, hp, hd, hw⟩ := h
        exact ⟨.alone d, hp, hd, hw⟩
  simpa using ofText_of_lexes (.ofComparison d) (by simpa using hp) (by simpa using hw.lexes)

/-- **Reading undoes writing.**  The text of every writable expression, as a condition or as an
operand, is read without an error, and as that very expression. -/
theorem ofText_render {role : Role} {e : Expr} (h : Writable role e) :
    ofText e.render = .ok e :=
  ofText_of_restored (restored h)

/-- Joins and denials as conditions and as operands, with a blank in a path, a quote in a text and a
number below zero. -/
def crowded : Expr :=
  .any [
    .all [
      .comparison .ge (.call "len" [.path ["a", "b c"], .parameter "p"]) (.literal (.long (-12))),
      .deny (.comparison .notContainsAny (.path ["d"]) (.literal (.text "it's")))],
    .comparison .notWithin
      (.deny (.comparison .eq (.literal (.boolean true)) (.literal .null))) (.parameter "p")]

/-- What is read is the expression that was written. -/
theorem ofText_render_crowded :
    Writable .condition crowded ∧
    crowded.render = ("((len([a/b c], $p) >= -12 and (not [d] contains not any 'it\\'s'))" ++
      " or (not true == null) not in $p)").toList ∧
    ofText crowded.render = .ok crowded := by
  have hlen : Writable .operand (.call "len" [.path ["a", "b c"], .parameter "p"]) := by
    refine .call (by decide) (by decide) ?_
    simp only [List.forall_mem_cons, List.not_mem_nil, false_implies, implies_true, and_true]
    exact ⟨.path (by decide) (by decide), .parameter (by decide)⟩
  have hdenied : Writable .operand
      (.deny (.comparison .eq (.literal (.boolean true)) (.literal .null))) :=
    .deny (.comparison (.literal (.boolean true)) (.literal .null) (by simp))
  have hall : Writable .condition (.all [
      .comparison .ge (.call "len" [.path ["a", "b c"], .parameter "p"]) (.literal (.long (-12))),
      .deny (.comparison .notContainsAny (.path ["d"]) (.literal (.text "it's")))]) := by
    refine .join (by decide) (by decide) ?_ (by simp [deny])
    simp only [List.forall_mem_cons, List.not_mem_nil, false_implies, implies_true, and_true]
    refine ⟨.comparison hlen (.literal (.long _)) (by simp), .deny ?_⟩
    exact .comparison (.path (by decide) (by decide)) (.literal (.text (by decide))) (by simp)
  have hany : Writable .condition crowded := by
    refine .join (by decide) (by decide) ?_ (by simp [all])
    simp only [List.forall_mem_cons, List.not_mem_nil, false_implies, implies_true, and_true]
    exact ⟨hall, .comparison hdenied (.parameter (by decide)) (by simp)⟩
  exact ⟨hany, by decide +kernel, ofText_render hany⟩

end Expr

end TreeSift
