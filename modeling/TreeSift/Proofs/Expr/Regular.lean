import TreeSift.Proofs.Expr.Origin

/-!
# TreeSift.Proofs.Expr.Regular

What holds of every expression that was read from a text.

1. `Regular` says it of one part: how many conditions a join or a denial has, that a join is not
   directly in one of its kind, and which names, segments and constants there are.
2. The joins are the grammar's doing (`Stems`), and names, segments and constants are as the tokens
   spell them (`regular_of_atom`).
3. An expression with regular parts is flat, so flattening has nothing to do in it; a path with
   regular segments has them back when its text is split.
-/

namespace TreeSift

namespace Expr

open Lexeme Grammar

/-- The part of an expression is one that a text can bring about. -/
inductive Regular : Expr → Prop where
  | join {c : Connective} {es : List Expr} (joins : c ≠ .not) (several : 2 ≤ es.length)
    (apart : ∀ e ∈ es, ∀ ds, e ≠ .logic c ds) : Regular (.logic c es)
  | deny (e : Expr) : Regular (.logic .not [e])
  | comparison (op : Operator) (left right : Expr) : Regular (.comparison op left right)
  | call {name : String} (args : List Expr) (named : IsName name.toList)
    (free : ¬IsReserved name.toList) : Regular (.call name args)
  | path {segments : List String} (ne_nil : segments ≠ [])
    (plain : ∀ s ∈ segments, IsSegment s.toList) : Regular (.path segments)
  | literal {v : Value} (single : ∀ vs, v ≠ .list vs)
    (defined : ∀ x, v = .double x → x.isNaN = false) : Regular (.literal v)
  | parameter {name : String} (named : IsName name.toList) : Regular (.parameter name)

/-! ## what the tokens spell -/

/-- A path token has the text of a path with at least one segment. -/
theorem regular_segmentsOf {text : String} {span : List Char}
    (h : Spelled (.path text) span) : Regular (.path (segmentsOf text.toList)) := by
  cases h with
  | @path ss ne_nil trimmed plain =>
    have hsegments : ∀ s ∈ ss.map Text.trim, IsSegment s := by
      intro s hs
      obtain ⟨t, ht, rfl⟩ := List.mem_map.mp hs
      exact trimmed t ht
    have hne : ss.map Text.trim ≠ [] := by simpa using ne_nil
    rw [String.toList_ofList, segmentsOf,
      Text.splitAt_joinWith hne fun s hs hc => ((hsegments s hs).plain _ hc).not_slash rfl]
    refine .path (by simpa using hne) fun s hs => ?_
    obtain ⟨t, ht, rfl⟩ := List.mem_map.mp hs
    rw [String.toList_ofList]
    exact hsegments t ht
  | fixed h => simp [fixedSpellings] at h

theorem isName_parameter {name : String} {span : List Char}
    (h : Spelled (.parameter name) span) : IsName name.toList := by
  cases h with
  | parameter h => rwa [String.toList_ofList]
  | fixed h => simp [fixedSpellings] at h

theorem isName_function {name : String} {span : List Char}
    (h : Spelled (.function name) span) : IsName name.toList ∧ ¬IsReserved name.toList := by
  cases h with
  | function h free =>
    rw [String.toList_ofList]
    exact ⟨h, free⟩
  | fixed h => simp [fixedSpellings] at h

/-- A token that is an operand by itself is a regular one. -/
theorem regular_of_atom {l : Lexeme} {span : List Char} {e : Expr} (hl : Spelled l span)
    (h : Atom l e) : Regular e := by
  cases h with
  | path text => exact regular_segmentsOf hl
  | number h =>
    refine .literal (fun vs hv => number?_ne_list (hv ▸ h)) fun x hx => ?_
    exact isNaN_of_number? hl.isNumeral (hx ▸ h)
  | parameter name => exact .parameter (isName_parameter hl)
  | _ => exact .literal (by simp) (by simp)

/-- What stands in spelled tokens is regular. -/
theorem regular_of_stems {ls : List Lexeme} {e : Expr} (hls : ∀ l ∈ ls, ∃ span, Spelled l span)
    (h : Stems ls e) : Regular e := by
  cases h with
  | atom hl h =>
    obtain ⟨span, hspan⟩ := hls _ hl
    exact regular_of_atom hspan h
  | call args hl =>
    obtain ⟨span, hspan⟩ := hls _ hl
    obtain ⟨named, free⟩ := isName_function hspan
    exact .call args named free
  | comparison op left right => exact .comparison op left right
  | deny e => exact .deny e
  | join joins several apart => exact .join joins several apart

/-! ## what regular parts are good for -/

/-- An expression with regular parts is flat. -/
theorem flat_of_regular : (e : Expr) → (∀ s ∈ parts e, Regular s) → e.Flat
  | .logic c es, h => by
      refine .logic (fun e he => flat_of_regular e fun s hs => h s ?_) fun hc => ?_
      · rw [parts, List.mem_cons, mem_partsAll]
        exact .inr ⟨e, he, hs⟩
      · cases h _ (mem_parts_self _) with
        | join joins several apart => exact apart
        | deny e => contradiction
  | .comparison op left right, _ => .comparison op left right
  | .call name args, _ => .call name args
  | .path segments, _ => .path segments
  | .literal v, _ => .literal v
  | .parameter name, _ => .parameter name

/-- **What reading guarantees.**  Every part of an expression that was read is regular, wherever it
stands; flattening leaves the expression as it is; and every path in it is read back from its
text. -/
theorem regular_of_ofText {text : List Char} {e : Expr} (h : ofText text = .ok e) :
    (∀ s ∈ parts e, Regular s) ∧ e.simplify = e ∧
    ∀ segments, .path segments ∈ parts e → segmentsOf (pathText segments) = segments := by
  obtain ⟨ts, hts, hstem⟩ := allStem_of_ofText h
  obtain ⟨tokens, hread, rfl⟩ := exists_of_map_eq_ok hts
  have hspelled : ∀ l ∈ tokens.map Token.lexeme, ∃ span, Spelled l span := by
    intro l hl
    obtain ⟨t, ht, rfl⟩ := List.mem_map.mp hl
    exact Token.spelled_of_readAll hread t ht
  have hregular : ∀ s ∈ parts e, Regular s := fun s hs => regular_of_stems hspelled (hstem s hs)
  refine ⟨hregular, (flat_of_regular e hregular).simplify_eq, fun segments hs => ?_⟩
  cases hregular _ hs with
  | path ne_nil plain => exact segmentsOf_pathText ne_nil plain

/-- The derivation of `x(([a] in [b] and ([ c / d ] in [e] and not [f] in [g]))) == $n`. -/
def nestedDerivation : Derivation .disjunction :=
  let within (left right : String) : Derivation .denial :=
    .affirm (.compared (.atom (.path left)) .within (.atom (.path right)))
  let both (left right : Derivation .denial) : Derivation .operand :=
    .group (.disjunction (.conjunction left (.conjunct right .noConjunct)) .noDisjunct)
  let inner := both (within "c/d" "e") (.deny (within "f" "g"))
  let outer := both (within "a" "b") (.affirm (.alone inner))
  .ofComparison (.compared (.call "x" (.arguments (.lastOperand outer))) .eq
    (.atom (.parameter "n")))

/-- What it denotes: the conjunction in the conjunction is taken up. -/
def nestedRead : Expr :=
  let within (left : List String) (right : String) : Expr :=
    .comparison .within (.path left) (.path [right])
  .comparison .eq
    (.call "x" [.all [within ["a"] "b", within ["c", "d"] "e", .deny (within ["f"] "g")]])
    (.parameter "n")

/-- A conjunction in a conjunction in an argument is read as one, and blanks in a path are gone. -/
theorem regular_of_ofText_nested :
    ofText "x(([a] in [b] and ([ c / d ] in [e] and not [f] in [g]))) == $n".toList =
      .ok nestedRead ∧
    (∀ s ∈ parts nestedRead, Regular s) ∧ nestedRead.simplify = nestedRead ∧
    segmentsOf (pathText ["c", "d"]) = ["c", "d"] := by
  have htokens : (TokenList.ofText
      "x(([a] in [b] and ([ c / d ] in [e] and not [f] in [g]))) == $n".toList).map
        (fun ts => ts.tokens.map Token.lexeme) = .ok nestedDerivation.lexemes := by
    decide +kernel
  obtain ⟨ts, hts, hl⟩ := exists_of_map_eq_ok htokens
  have hproper : nestedDerivation.Proper := by
    simp [nestedDerivation, Derivation.Proper, Derivation.isBare]
  have hread : ofText "x(([a] in [b] and ([ c / d ] in [e] and not [f] in [g]))) == $n".toList =
      .ok nestedRead := by
    simp only [ofText, hts, ofTokens_of_derivation nestedDerivation hproper hl.symm]
    rfl
  obtain ⟨hregular, hsimplify, hpath⟩ := regular_of_ofText hread
  exact ⟨hread, hregular, hsimplify, hpath _ (by simp [nestedRead, parts, partsAll, all])⟩

end Expr

end TreeSift
