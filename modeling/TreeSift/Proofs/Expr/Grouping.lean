import TreeSift.Proofs.Expr.Compose
import TreeSift.Proofs.Expr.Regular

/-!
# TreeSift.Proofs.Expr.Grouping

How far the text of an expression shows its grouping.

1. Joins and denials have parentheses and comparisons have none, so the text of a comparison of
   comparisons does not say which of them was made first.  `regrouped` groups all of them to the
   right and keeps the text (`render_regrouped`).
2. Grouped to the right, an expression is one of a language that can be read back (`Legible`): on
   the left of an operator is an operand, which ends by itself, and on its right a condition, which
   ends where no operator follows (`Follows`).  There a text in front of a rest determines the
   expression and the rest (`readable`).
3. So two expressions have one text exactly if they are the same regrouped, and an expression
   without comparisons of comparisons shares its text with no other.
-/

namespace TreeSift

namespace Expr

open Lexeme Grammar

/-! ## kinds of expressions -/

/-- Whether it is a comparison. -/
def isComparison : Expr → Bool
  | comparison .. => true
  | _ => false

/-- Whether it is neither a constant nor a call. -/
def isPlain : Expr → Bool
  | literal _ => false
  | call .. => false
  | _ => true

/-- Whether it compares a comparison. -/
def comparesComparison : Expr → Bool
  | comparison _ left right => left.isComparison || right.isComparison
  | _ => false

/-- Made of paths, parameters, comparisons and connectives alone. -/
def Plain (e : Expr) : Prop := ∀ s ∈ parts e, s.isPlain = true

/-- There is no comparison of a comparison in it. -/
def Unnested (e : Expr) : Prop := ∀ s ∈ parts e, s.comparesComparison = false

instance (e : Expr) : Decidable (Plain e) :=
  inferInstanceAs (Decidable (∀ s ∈ parts e, s.isPlain = true))

instance (e : Expr) : Decidable (Unnested e) :=
  inferInstanceAs (Decidable (∀ s ∈ parts e, s.comparesComparison = false))

/-! ## grouping to the right -/

/-- The comparison of two operands, where a comparison on the left is taken apart: its last operand
is compared instead, and the whole on the right of its operator. -/
def graft (op : Operator) : Expr → Expr → Expr
  | comparison op' first last, right => comparison op' first (graft op last right)
  | left, right => comparison op left right

mutual

/-- The expression with all comparisons grouped to the right. -/
def regrouped : Expr → Expr
  | logic c es => logic c (regroupedAll es)
  | comparison op left right => graft op (regrouped left) (regrouped right)
  | call name args => call name (regroupedAll args)
  | path segments => path segments
  | literal v => literal v
  | parameter name => parameter name

/-- Several expressions, each regrouped. -/
def regroupedAll : List Expr → List Expr
  | [] => []
  | e :: es => regrouped e :: regroupedAll es

end

@[simp] theorem regroupedAll_eq_map (es : List Expr) : regroupedAll es = es.map regrouped := by
  induction es with
  | nil => rfl
  | cons e es ih => rw [regroupedAll, ih, List.map_cons]

theorem isComparison_graft (op : Operator) (left right : Expr) :
    (graft op left right).isComparison = true := by
  cases left <;> rfl

theorem graft_of_not_comparison {left : Expr} (h : left.isComparison = false) (op : Operator)
    (right : Expr) : graft op left right = .comparison op left right := by
  cases left with
  | comparison => contradiction
  | _ => rfl

/-! ## the text stays -/

theorem renderJoined_cons (sep : List Char) (e : Expr) (es : List Expr) :
    renderJoined sep (e :: es) = e.render ++ es.flatMap fun x => sep ++ x.render := by
  induction es generalizing e with
  | nil => simp [renderJoined]
  | cons next es ih => simp [renderJoined, ih]

theorem renderDenied_eq_flatMap (es : List Expr) :
    renderDenied es = es.flatMap fun e => ' ' :: e.render := by
  induction es with
  | nil => rfl
  | cons e es ih => simp [renderDenied, ih]

variable {f : Expr → Expr} {es : List Expr}

/-- A join has the same text if each condition has. -/
theorem renderJoined_map (sep : List Char) (h : ∀ e ∈ es, (f e).render = e.render) :
    renderJoined sep (es.map f) = renderJoined sep es := by
  cases es with
  | nil => rfl
  | cons e es =>
      obtain ⟨he, hes⟩ := List.forall_mem_cons.mp h
      rw [List.map_cons, renderJoined_cons, renderJoined_cons, he, List.flatMap_map]
      exact congrArg _ (List.flatMap_congr fun x hx => by rw [hes x hx])

theorem renderDenied_map (h : ∀ e ∈ es, (f e).render = e.render) :
    renderDenied (es.map f) = renderDenied es := by
  rw [renderDenied_eq_flatMap, renderDenied_eq_flatMap, List.flatMap_map]
  exact List.flatMap_congr fun e he => by rw [h e he]

theorem render_graft (op : Operator) (left right : Expr) :
    (graft op left right).render = (comparison op left right).render := by
  fun_induction graft op left right with
  | case1 right op' first last ih => simp [render, ih]
  | case2 => rfl

/-- Grouping to the right keeps the text. -/
theorem render_regrouped (e : Expr) : e.regrouped.render = e.render := by
  induction e using treeInduction with
  | logic c es ih =>
      cases c with
      | not => simp [regrouped, render, renderDenied_map ih]
      | _ => simp [regrouped, render, renderJoined_map _ ih]
  | comparison op left right ihl ihr =>
      rw [regrouped, render_graft, render, render, ihl, ihr]
  | call name args ih => simp [regrouped, render, renderJoined_map _ ih]
  | _ => rfl

/-! ## without comparisons of comparisons -/

theorem unnested_comparison {op : Operator} {left right : Expr} :
    Unnested (.comparison op left right) ↔
      (left.isComparison = false ∧ right.isComparison = false) ∧
        Unnested left ∧ Unnested right := by
  rw [Unnested, forall_parts_comparison, comparesComparison, Bool.or_eq_false_iff]
  rfl

theorem map_regrouped {es : List Expr} (h : ∀ e ∈ es, e.regrouped = e) :
    regroupedAll es = es := by
  rw [regroupedAll_eq_map, List.map_congr_left h, List.map_id']

/-- There is nothing to regroup, -/
theorem regrouped_of_unnested {e : Expr} (h : Unnested e) : e.regrouped = e := by
  induction e using treeInduction with
  | logic c es ih =>
      obtain ⟨-, hes⟩ := forall_parts_logic.mp h
      rw [regrouped, map_regrouped fun e he => ih e he (hes e he)]
  | comparison op left right ihl ihr =>
      obtain ⟨⟨hleft, -⟩, hl, hr⟩ := unnested_comparison.mp h
      rw [regrouped, ihl hl, ihr hr, graft_of_not_comparison hleft]
  | call name args ih =>
      obtain ⟨-, hargs⟩ := forall_parts_call.mp h
      rw [regrouped, map_regrouped fun e he => ih e he (hargs e he)]
  | _ => rfl

/-- and regrouping does not lead there from elsewhere. -/
theorem regrouped_of_unnested_regrouped {e : Expr} (h : Unnested e.regrouped) :
    e.regrouped = e := by
  induction e using treeInduction with
  | logic c es ih =>
      rw [regrouped, regroupedAll_eq_map] at h
      obtain ⟨-, hes⟩ := forall_parts_logic.mp h
      rw [regrouped, map_regrouped fun e he => ih e he (hes _ (List.mem_map_of_mem he))]
  | comparison op left right ihl ihr =>
      rw [regrouped] at h ⊢
      cases hleft : left.regrouped with
      | comparison op' first last =>
          -- then a comparison stands on the right of its operator
          rw [hleft, graft] at h
          have hright := (unnested_comparison.mp h).1.2
          rw [isComparison_graft] at hright
          contradiction
      | _ =>
          rw [hleft, graft_of_not_comparison rfl, ← hleft] at h
          obtain ⟨-, hl, hr⟩ := unnested_comparison.mp h
          rw [graft_of_not_comparison rfl, ← hleft, ihl hl, ihr hr]
  | call name args ih =>
      rw [regrouped, regroupedAll_eq_map] at h
      obtain ⟨-, hargs⟩ := forall_parts_call.mp h
      rw [regrouped, map_regrouped fun e he => ih e he (hargs _ (List.mem_map_of_mem he))]
  | _ => rfl

/-! ## the language of regrouped expressions -/

/-- Expressions whose text can be read back, as operands and as conditions. -/
inductive Legible : Role → Expr → Prop where
  | join {c : Connective} {es : List Expr} (joins : c ≠ .not) (several : 2 ≤ es.length)
    (conditions : ∀ e ∈ es, Legible .condition e) : Legible .operand (.logic c es)
  | deny {e : Expr} (condition : Legible .condition e) : Legible .operand (.logic .not [e])
  | path {segments : List String} (ne_nil : segments ≠ [])
    (plain : ∀ s ∈ segments, IsSegment s.toList) : Legible .operand (.path segments)
  | parameter {name : String} (named : IsName name.toList) : Legible .operand (.parameter name)
  | alone {e : Expr} (operand : Legible .operand e) : Legible .condition e
  | comparison {op : Operator} {left right : Expr} (hl : Legible .operand left)
    (hr : Legible .condition right) : Legible .condition (.comparison op left right)

theorem Legible.graft {left right : Expr} (op : Operator) (hl : Legible .condition left)
    (hr : Legible .condition right) : Legible .condition (graft op left right) := by
  fun_induction Expr.graft op left right with
  | case1 right op' first last ih =>
      cases hl with
      | alone h => cases h
      | comparison hfirst hlast => exact .comparison hfirst (ih hlast hr)
  | case2 right left hleft =>
      cases hl with
      | alone h => exact .comparison h hr
      | comparison => exact absurd rfl (hleft _ _ _)

/-- What is plain and can be read is legible when it is regrouped. -/
theorem legible_regrouped {e : Expr} (hplain : Plain e) (h : ∀ s ∈ parts e, Regular s) :
    Legible .condition e.regrouped := by
  induction e using treeInduction with
  | logic c es ih =>
      obtain ⟨hroot, hparts⟩ := forall_parts_logic.mp h
      obtain ⟨-, hes⟩ := forall_parts_logic.mp hplain
      have hlegible : ∀ e ∈ es, Legible .condition e.regrouped :=
        fun e he => ih e he (hes e he) (hparts e he)
      rw [regrouped, regroupedAll_eq_map]
      cases hroot with
      | join joins several apart =>
          exact .alone (.join joins (by simpa using several) (List.forall_mem_map.mpr hlegible))
      | deny e => exact .alone (.deny (hlegible e List.mem_cons_self))
  | comparison op left right ihl ihr =>
      obtain ⟨-, hl, hr⟩ := forall_parts_comparison.mp h
      obtain ⟨-, hpl, hpr⟩ := forall_parts_comparison.mp hplain
      rw [regrouped]
      exact (ihl hpl hl).graft op (ihr hpr hr)
  | path segments =>
      cases h _ (mem_parts_self _) with
      | path ne_nil plain => exact .alone (.path ne_nil plain)
  | parameter name =>
      cases h _ (mem_parts_self _) with
      | parameter named => exact .alone (.parameter named)
  | _ => exact absurd (hplain _ (mem_parts_self _)) (by simp [isPlain])

/-! ## where texts end -/

/-- Two runs of one class that end where the class ends are told from their rests. -/
theorem run_append_inj {p : Char → Bool} {a b r t : List Char} (ha : ∀ c ∈ a, p c = true)
    (hb : ∀ c ∈ b, p c = true) (hr : ∀ c ∈ r.head?, p c = false)
    (ht : ∀ c ∈ t.head?, p c = false) (h : a ++ r = b ++ t) : a = b ∧ r = t := by
  obtain ⟨htake, hdrop⟩ := takeWhile_run ha hr
  obtain ⟨htake', hdrop'⟩ := takeWhile_run hb ht
  rw [h] at htake hdrop
  exact ⟨htake.symm.trans htake', hdrop.symm.trans hdrop'⟩

/-- What may follow an operand continues no name.  After a condition there is no operator either. -/
structure Follows (role : Role) (rest : List Char) : Prop where
  ends : ∀ c ∈ rest.head?, isWordChar c = false
  noOperator : role = .condition →
    ∀ (op : Operator) (t : List Char), rest ≠ ' ' :: (op.symbol.toList ++ ' ' :: t)

theorem follows_nil (role : Role) : Follows role [] where
  ends := by simp
  noOperator := by simp

theorem follows_closeParen (role : Role) (rest : List Char) : Follows role (')' :: rest) where
  ends := by simp; decide
  noOperator := by simp

theorem follows_blank (rest : List Char) : Follows .operand (' ' :: rest) where
  ends := by simp; decide
  noOperator := by simp

theorem Follows.operand {rest : List Char} (h : Follows .condition rest) : Follows .operand rest :=
  ⟨h.ends, by simp⟩

/-- A character that a legible expression starts with. -/
def opensText (c : Char) : Bool := c = '[' || c = '$' || c = '('

/-- The conditions of a join after the first, each with its separator. -/
def renderMore (c : Connective) (es : List Expr) : List Char :=
  es.flatMap fun e => separator c ++ e.render

theorem exists_render_logic (c : Connective) (es : List Expr) :
    ∃ t, render (.logic c es) = '(' :: t := by
  cases c <;> simp [render]

theorem render_join {c : Connective} (joins : c ≠ .not) (e : Expr) (es : List Expr) :
    render (.logic c (e :: es)) = '(' :: (e.render ++ (renderMore c es ++ [')'])) := by
  cases c with
  | not => contradiction
  | _ => simp [render, renderJoined_cons, renderMore]

theorem render_deny (e : Expr) :
    render (.logic .not [e]) = '(' :: ("not ".toList ++ (e.render ++ [')'])) := by
  simp [render, renderDenied]

theorem Legible.exists_first {role : Role} {e : Expr} (h : Legible role e) :
    ∃ c t, e.render = c :: t ∧ opensText c = true := by
  induction h with
  | @join c es =>
      obtain ⟨t, ht⟩ := exists_render_logic c es
      exact ⟨'(', t, ht, rfl⟩
  | deny => exact ⟨'(', _, render_deny _, rfl⟩
  | path => exact ⟨'[', _, by rw [render], rfl⟩
  | parameter => exact ⟨'$', _, by rw [render], rfl⟩
  | alone _ ih => exact ih
  | comparison _ _ ihl _ =>
      obtain ⟨c, t, htext, hc⟩ := ihl
      exact ⟨c, _, by rw [render, htext]; rfl, hc⟩

/-! ## operators and separators -/

theorem ofSymbol?_symbol (op : Operator) : Operator.ofSymbol? op.symbol = some op := by
  cases op <;> decide

theorem not_opensText_symbol (op : Operator) :
    ∀ c ∈ op.symbol.toList ++ [' '], (!opensText c) = true := by
  rw [← List.all_eq_true]
  cases op <;> decide

/-- No symbol is read as the start of another, since operands start like no symbol goes on. -/
theorem operator_append_inj {op op' : Operator} {t t' : List Char}
    (ht : ∀ c ∈ t.head?, opensText c = true) (ht' : ∀ c ∈ t'.head?, opensText c = true)
    (h : op.symbol.toList ++ ' ' :: t = op'.symbol.toList ++ ' ' :: t') : op = op' ∧ t = t' := by
  have hruns : (op.symbol.toList ++ [' ']) ++ t = (op'.symbol.toList ++ [' ']) ++ t' := by
    simpa using h
  obtain ⟨hsymbol, htext⟩ := run_append_inj (not_opensText_symbol op) (not_opensText_symbol op')
    (fun c hc => by rw [ht c hc]; rfl) (fun c hc => by rw [ht' c hc]; rfl) hruns
  have hop : op.symbol = op'.symbol := String.toList_injective (List.append_cancel_right hsymbol)
  refine ⟨?_, htext⟩
  have hsome := ofSymbol?_symbol op
  rw [hop, ofSymbol?_symbol] at hsome
  exact (Option.some.inj hsome).symm

theorem separator_append_inj {c c' : Connective} (hc : c ≠ .not) (hc' : c' ≠ .not)
    {t t' : List Char} (h : separator c ++ t = separator c' ++ t') : c = c' ∧ t = t' := by
  cases c <;> cases c' <;> simp_all [separator]

theorem renderMore_cons (c : Connective) (e : Expr) (es : List Expr) :
    renderMore c (e :: es) = separator c ++ (e.render ++ renderMore c es) := by
  simp [renderMore]

/-- Separators start like no operator between blanks. -/
theorem follows_separator {c : Connective} (hc : c ≠ .not) (rest : List Char) :
    Follows .condition (separator c ++ rest) := by
  have hsymbol (op : Operator) : ∃ d s, op.symbol.toList = d :: s ∧ d ≠ 'a' ∧ d ≠ 'o' := by
    cases op <;> exact ⟨_, _, rfl, by decide, by decide⟩
  have hseparator : ∃ d s, separator c = ' ' :: d :: s ∧ (d = 'a' ∨ d = 'o') := by
    cases c with
    | and => exact ⟨_, _, rfl, .inl rfl⟩
    | or => exact ⟨_, _, rfl, .inr rfl⟩
    | not => contradiction
  obtain ⟨d, s, hs, hd⟩ := hseparator
  rw [hs]
  refine ⟨by simp; decide, fun _ op t heq => ?_⟩
  obtain ⟨d', s', hs', ha, ho⟩ := hsymbol op
  rw [hs'] at heq
  injection heq with _ heq
  injection heq with heq _
  subst heq
  exact hd.elim ha ho

theorem follows_renderMore {c : Connective} (hc : c ≠ .not) (es : List Expr) (rest : List Char) :
    Follows .condition (renderMore c es ++ ')' :: rest) := by
  cases es with
  | nil => exact follows_closeParen _ _
  | cons e es =>
      rw [renderMore_cons, List.append_assoc]
      exact follows_separator hc _

/-! ## reading back -/

/-- The text of the expression in front of a rest is that of no other, and of no other rest. -/
def Readable (role : Role) (e : Expr) : Prop :=
  ∀ ⦃e' : Expr⦄, Legible role e' → ∀ ⦃r r' : List Char⦄, Follows role r → Follows role r' →
    e.render ++ r = e'.render ++ r' → e = e' ∧ r = r'

theorem readable_path {segments : List String} (ne_nil : segments ≠ [])
    (plain : ∀ s ∈ segments, IsSegment s.toList) : Readable .operand (.path segments) := by
  have hclose {segments : List String} (h : ∀ s ∈ segments, IsSegment s.toList) :
      ∀ c ∈ pathText segments, (c != ']') = true := by
    intro c hc
    obtain rfl | ⟨cs, hcs, hc⟩ := Text.mem_joinWith hc
    · decide
    · obtain ⟨s, hs, rfl⟩ := List.mem_map.mp hcs
      simpa using ((h s hs).plain c hc).not_close
  intro e' h' r r' hr hr' heq
  cases h' with
  | @path segments' ne_nil' plain' =>
      have hruns : pathText segments ++ ']' :: r = pathText segments' ++ ']' :: r' := by
        simpa [render] using heq
      obtain ⟨htext, hrest⟩ :=
        run_append_inj (hclose plain) (hclose plain') (by simp) (by simp) hruns
      have hsegments := segmentsOf_pathText ne_nil plain
      rw [htext, segmentsOf_pathText ne_nil' plain'] at hsegments
      exact ⟨by rw [hsegments], List.tail_eq_of_cons_eq hrest⟩
  | @join c es =>
      obtain ⟨t, ht⟩ := exists_render_logic c es
      simp [render, ht] at heq
  | deny => simp [render] at heq
  | parameter => simp [render] at heq

theorem readable_parameter {name : String} (named : IsName name.toList) :
    Readable .operand (.parameter name) := by
  intro e' h' r r' hr hr' heq
  cases h' with
  | @parameter name' named' =>
      have hruns : name.toList ++ r = name'.toList ++ r' := by simpa [render] using heq
      obtain ⟨hname, hrest⟩ := run_append_inj named.word named'.word hr.ends hr'.ends hruns
      exact ⟨by rw [String.toList_injective hname], hrest⟩
  | @join c es =>
      obtain ⟨t, ht⟩ := exists_render_logic c es
      simp [render, ht] at heq
  | deny => simp [render] at heq
  | path => simp [render] at heq

theorem readable_alone {e : Expr} (ih : Readable .operand e) : Readable .condition e := by
  intro e' h' r r' hr hr' heq
  cases h' with
  | alone h' => exact ih h' hr.operand hr'.operand heq
  | @comparison op left right hl hright =>
      have hsplit : e.render ++ r =
          left.render ++ ' ' :: (op.symbol.toList ++ ' ' :: (right.render ++ r')) := by
        simpa [render] using heq
      obtain ⟨-, hrest⟩ := ih hl hr.operand (follows_blank _) hsplit
      exact absurd hrest (hr.noOperator rfl op _)

theorem readable_comparison {op : Operator} {left right : Expr} (hright : Legible .condition right)
    (ihl : Readable .operand left) (ihr : Readable .condition right) :
    Readable .condition (.comparison op left right) := by
  intro e' h' r r' hr hr' heq
  cases h' with
  | alone h' =>
      have hsplit : left.render ++ ' ' :: (op.symbol.toList ++ ' ' :: (right.render ++ r)) =
          e'.render ++ r' := by
        simpa [render] using heq
      obtain ⟨-, hrest⟩ := ihl h' (follows_blank _) hr'.operand hsplit
      exact absurd hrest.symm (hr'.noOperator rfl op _)
  | @comparison op' left' right' hl' hright' =>
      have hsplit : left.render ++ ' ' :: (op.symbol.toList ++ ' ' :: (right.render ++ r)) =
          left'.render ++ ' ' :: (op'.symbol.toList ++ ' ' :: (right'.render ++ r')) := by
        simpa [render] using heq
      have hopens {right : Expr} (h : Legible .condition right) (r : List Char) :
          ∀ c ∈ (right.render ++ r).head?, opensText c = true := by
        obtain ⟨c, t, htext, hc⟩ := h.exists_first
        simpa [htext] using hc
      obtain ⟨rfl, hop⟩ := ihl hl' (follows_blank _) (follows_blank _) hsplit
      obtain ⟨rfl, htext⟩ := operator_append_inj (hopens hright r) (hopens hright' r')
        (List.tail_eq_of_cons_eq hop)
      obtain ⟨rfl, hrest⟩ := ihr hright' hr hr' htext
      exact ⟨rfl, hrest⟩

theorem render_deny_ne_render_join {c : Connective} (joins : c ≠ .not) {d : Expr}
    (hd : Legible .condition d) (e : Expr) (es : List Expr) (r r' : List Char) :
    render (.logic .not [e]) ++ r ≠ render (.logic c (d :: es)) ++ r' := by
  obtain ⟨x, t, htext, hx⟩ := hd.exists_first
  rw [render_deny, render_join joins, htext]
  intro heq
  obtain rfl : 'n' = x := by
    injection heq with _ heq
    injection heq
  contradiction

theorem readable_deny {e : Expr} (ih : Readable .condition e) :
    Readable .operand (.logic .not [e]) := by
  intro e' h' r r' hr hr' heq
  cases h' with
  | @deny e' h' =>
      have hsplit : e.render ++ ')' :: r = e'.render ++ ')' :: r' := by
        simpa [render_deny] using heq
      obtain ⟨rfl, hrest⟩ := ih h' (follows_closeParen _ _) (follows_closeParen _ _) hsplit
      exact ⟨rfl, List.tail_eq_of_cons_eq hrest⟩
  | @join c es joins several conditions =>
      cases es with
      | nil => contradiction
      | cons d es =>
          exact absurd heq
            (render_deny_ne_render_join joins (conditions d List.mem_cons_self) e es r r')
  | path => simp [render] at heq
  | parameter => simp [render] at heq

/-- The conditions after the first are read back one by one, with their separators. -/
theorem renderMore_append_inj {c c' : Connective} (hc : c ≠ .not) (hc' : c' ≠ .not)
    {es es' : List Expr} (h : ∀ e ∈ es, Readable .condition e)
    (h' : ∀ e ∈ es', Legible .condition e) {r r' : List Char}
    (heq : renderMore c es ++ ')' :: r = renderMore c' es' ++ ')' :: r') :
    es = es' ∧ (es ≠ [] → c = c') ∧ r = r' := by
  induction es generalizing es' with
  | nil =>
      cases es' with
      | nil => exact ⟨rfl, fun hne => absurd rfl hne, List.tail_eq_of_cons_eq heq⟩
      | cons e' es' => cases c' <;> simp_all [renderMore, separator]
  | cons e es ih =>
      cases es' with
      | nil => cases c <;> simp_all [renderMore, separator]
      | cons e' es' =>
          obtain ⟨he, hes⟩ := List.forall_mem_cons.mp h
          obtain ⟨he', hes'⟩ := List.forall_mem_cons.mp h'
          simp only [renderMore_cons, List.append_assoc] at heq
          obtain ⟨rfl, htext⟩ := separator_append_inj hc hc' heq
          obtain ⟨rfl, hmore⟩ :=
            he he' (follows_renderMore hc es r) (follows_renderMore hc es' r') htext
          obtain ⟨rfl, -, hrest⟩ := ih hes hes' hmore
          exact ⟨rfl, fun _ => rfl, hrest⟩

theorem readable_join {c : Connective} {es : List Expr} (joins : c ≠ .not)
    (several : 2 ≤ es.length) (h : ∀ e ∈ es, Legible .condition e)
    (ih : ∀ e ∈ es, Readable .condition e) : Readable .operand (.logic c es) := by
  intro e' h' r r' hr hr' heq
  cases es with
  | nil => contradiction
  | cons e es =>
      obtain ⟨he, hes⟩ := List.forall_mem_cons.mp ih
      cases h' with
      | @join c' es' joins' several' conditions' =>
          cases es' with
          | nil => contradiction
          | cons e' es' =>
              obtain ⟨he', hes'⟩ := List.forall_mem_cons.mp conditions'
              have hsplit : e.render ++ (renderMore c es ++ ')' :: r) =
                  e'.render ++ (renderMore c' es' ++ ')' :: r') := by
                simpa [render_join, joins, joins'] using heq
              obtain ⟨rfl, hmore⟩ :=
                he he' (follows_renderMore joins es r) (follows_renderMore joins' es' r') hsplit
              obtain ⟨rfl, hjoin, hrest⟩ := renderMore_append_inj joins joins' hes hes' hmore
              have hne : es ≠ [] := by
                intro hnil
                subst hnil
                contradiction
              exact ⟨by rw [hjoin hne], hrest⟩
      | @deny d =>
          exact absurd heq.symm
            (render_deny_ne_render_join joins (h e List.mem_cons_self) d es r' r)
      | path => simp [render, render_join joins] at heq
      | parameter => simp [render, render_join joins] at heq

theorem readable {role : Role} {e : Expr} (h : Legible role e) : Readable role e := by
  induction h with
  | join joins several conditions ih => exact readable_join joins several conditions ih
  | deny _ ih => exact readable_deny ih
  | path ne_nil plain => exact readable_path ne_nil plain
  | parameter named => exact readable_parameter named
  | alone _ ih => exact readable_alone ih
  | comparison _ hright ihl ihr => exact readable_comparison hright ihl ihr

/-! ## expressions that were read -/

theorem regular_of_mem_parts {text : List Char} {e : Expr} (h : ofText text = .ok e) :
    ∀ s ∈ parts e, Regular s := by
  obtain ⟨ts, hts, hstem⟩ := allStem_of_ofText h
  obtain ⟨tokens, hread, rfl⟩ := exists_of_map_eq_ok hts
  refine fun s hs => regular_of_stems (fun l hl => ?_) (hstem s hs)
  obtain ⟨t, ht, rfl⟩ := List.mem_map.mp hl
  exact Token.spelled_of_readAll hread t ht

variable {text text' : List Char} {e e' : Expr}

/-- Regrouped, expressions that were read are determined by their text. -/
theorem regrouped_eq_of_render_eq (h : ofText text = .ok e) (h' : ofText text' = .ok e')
    (hplain : Plain e) (hplain' : Plain e') (heq : e.render = e'.render) :
    e.regrouped = e'.regrouped := by
  have hlegible := legible_regrouped hplain (regular_of_mem_parts h)
  have hlegible' := legible_regrouped hplain' (regular_of_mem_parts h')
  have htext : e.regrouped.render ++ [] = e'.regrouped.render ++ [] := by
    rw [render_regrouped, render_regrouped, heq]
  exact (readable hlegible hlegible' (follows_nil _) (follows_nil _) htext).1

/-! ## three ways to group -/

theorem ofText_of_lexemes (d : Derivation .disjunction) (hp : d.Proper)
    (h : (TokenList.ofText text).map (fun ts => ts.tokens.map Token.lexeme) = .ok d.lexemes) :
    ofText text = .ok d.denote := by
  obtain ⟨ts, hts, hl⟩ := exists_of_map_eq_ok h
  simp only [ofText, hts, ofTokens_of_derivation d hp hl.symm]

/-- What `([a] == [b]) == $p` is read as. -/
def leftGroup : Expr :=
  .comparison .eq (.comparison .eq (.path ["a"]) (.path ["b"])) (.parameter "p")

/-- What `[a] == ([b] == $p)` is read as. -/
def rightGroup : Expr :=
  .comparison .eq (.path ["a"]) (.comparison .eq (.path ["b"]) (.parameter "p"))

/-- What `(([a]) and ([b])) == $p` is read as. -/
def joinGroup : Expr :=
  .comparison .eq (.all [.path ["a"], .path ["b"]]) (.parameter "p")

theorem ofText_leftGroup : ofText "([a] == [b]) == $p".toList = .ok leftGroup :=
  ofText_of_lexemes
    (.ofComparison (.compared
      (.group (.ofComparison (.compared (.atom (.path "a")) .eq (.atom (.path "b"))))) .eq
      (.atom (.parameter "p"))))
    (by simp [Derivation.Proper]) (by decide +kernel)

theorem ofText_rightGroup : ofText "[a] == ([b] == $p)".toList = .ok rightGroup :=
  ofText_of_lexemes
    (.ofComparison (.compared (.atom (.path "a")) .eq
      (.group (.ofComparison (.compared (.atom (.path "b")) .eq (.atom (.parameter "p")))))))
    (by simp [Derivation.Proper]) (by decide +kernel)

theorem ofText_joinGroup : ofText "(([a]) and ([b])) == $p".toList = .ok joinGroup :=
  ofText_of_lexemes
    (.ofComparison (.compared
      (.group (.disjunction (.conjunction
        (.affirm (.alone (.group (.ofComparison (.alone (.atom (.path "a")))))))
        (.conjunct (.affirm (.alone (.group (.ofComparison (.alone (.atom (.path "b")))))))
          .noConjunct)) .noDisjunct)) .eq
      (.atom (.parameter "p"))))
    (by simp [Derivation.Proper, Derivation.isBare]) (by decide +kernel)

/-! ## texts that are the same -/

/-- **What the text shows of the grouping.**  Expressions of paths, parameters, comparisons and
connectives that were read have one text exactly if they are the same with all comparisons grouped
to the right.  If in one of them no comparison is compared, they are the same. -/
theorem render_eq_render_iff (h : ofText text = .ok e) (h' : ofText text' = .ok e')
    (hplain : Plain e) (hplain' : Plain e') :
    (e.render = e'.render ↔ e.regrouped = e'.regrouped) ∧
    (Unnested e → e.render = e'.render → e = e') := by
  refine ⟨⟨regrouped_eq_of_render_eq h h' hplain hplain', fun heq => ?_⟩, fun hunnested heq => ?_⟩
  · rw [← render_regrouped e, heq, render_regrouped]
  · have hregrouped := regrouped_eq_of_render_eq h h' hplain hplain' heq
    rw [regrouped_of_unnested hunnested] at hregrouped
    have hunnested' : Unnested e'.regrouped := hregrouped ▸ hunnested
    rw [hregrouped, regrouped_of_unnested_regrouped hunnested']

/-- A join on the left of an operator shows, but not which of two operators was applied first. -/
theorem render_eq_render_iff_groups :
    ofText "([a] == [b]) == $p".toList = .ok leftGroup ∧
    ofText "[a] == ([b] == $p)".toList = .ok rightGroup ∧
    ofText "(([a]) and ([b])) == $p".toList = .ok joinGroup ∧
    (Plain leftGroup ∧ Plain rightGroup ∧ Plain joinGroup ∧ Unnested joinGroup) ∧
    leftGroup.render = rightGroup.render ∧ joinGroup.render ≠ leftGroup.render := by
  have hplain : Plain leftGroup ∧ Plain rightGroup ∧ Plain joinGroup := by decide
  obtain ⟨hleft, hright, hjoin⟩ := hplain
  have hunnested : Unnested joinGroup := by decide
  obtain ⟨hiff, -⟩ := render_eq_render_iff ofText_leftGroup ofText_rightGroup hleft hright
  obtain ⟨-, hsame⟩ := render_eq_render_iff ofText_joinGroup ofText_leftGroup hjoin hleft
  refine ⟨ofText_leftGroup, ofText_rightGroup, ofText_joinGroup,
    ⟨hleft, hright, hjoin, hunnested⟩, hiff.mpr rfl, fun heq => ?_⟩
  cases hsame hunnested heq

/-- Not all expressions that are read have texts of their own. -/
theorem not_eq_of_render_eq :
    ¬ ∀ (text text' : List Char) (e e' : Expr), ofText text = .ok e → ofText text' = .ok e' →
      Plain e → Plain e' → e.render = e'.render → e = e' := by
  intro h
  cases h _ _ _ _ ofText_leftGroup ofText_rightGroup (by decide) (by decide) rfl

end Expr

end TreeSift
