import TreeSift.Filter.Stream
import TreeSift.Proofs.Charset.Decode
import TreeSift.Proofs.Filter.Binding
import TreeSift.Proofs.Filter.Stream

/-!
# TreeSift.Proofs.Filter.Adjustment

Changes to a stream, in any order and number.

1. Of several changes to one thing the last one counts (`Stream.lastCounts_adjustAll`).  All of that
   is one fact about folds (`foldl_of_set`).
2. A context is seen through what it answers: an expression compiles alike in two contexts that
   answer alike (`Expr.compile_eq_of_agrees`), so the order in which parameters were bound does not
   show.
3. A selector is seen through the text that is read from it (`Selector.read`).
4. So streams that were changed differently cannot be told apart if the last changes of each kind
   are the same (`Stream.adjustAll_any_order`).
-/

namespace TreeSift

variable {m : Type → Type}

/-! ## folds -/

section
variable {σ α β : Type}

/-- The last of what steps set. -/
def lastSet? (set? : α → Option β) (as : List α) : Option β := (as.filterMap set?).getLast?

variable {set? : α → Option β}

theorem lastSet?_append (as bs : List α) :
    lastSet? set? (as ++ bs) = (lastSet? set? bs).or (lastSet? set? as) := by
  simp [lastSet?]

@[simp] theorem lastSet?_nil : lastSet? set? [] = none := rfl

@[simp] theorem lastSet?_cons (a : α) (as : List α) :
    lastSet? set? (a :: as) = (lastSet? set? as).or (set? a) := by
  rw [← List.singleton_append, lastSet?_append]
  cases h : set? a <;> simp [lastSet?, h]

/-- Steps that set nothing may be left out. -/
theorem lastSet?_filter {p : α → Bool} (h : ∀ a, p a = false → set? a = none) (as : List α) :
    lastSet? set? (as.filter p) = lastSet? set? as := by
  induction as with
  | nil => rfl
  | cons a as ih =>
      cases hp : p a with
      | true => rw [List.filter_cons_of_pos hp, lastSet?_cons, lastSet?_cons, ih]
      | false =>
          rw [List.filter_cons_of_neg (by simp [hp]), lastSet?_cons, h a hp, Option.or_none, ih]

variable {step : σ → α → σ}

/-- What each step sets anew or leaves is at the end what was set last. -/
theorem foldl_of_set (view : σ → Option β) (h : ∀ s a, view (step s a) = (set? a).or (view s))
    (as : List α) (s : σ) : view (as.foldl step s) = (lastSet? set? as).or (view s) := by
  induction as generalizing s with
  | nil => rfl
  | cons a as ih => rw [List.foldl_cons, ih, h, lastSet?_cons, Option.or_assoc]

/-- What no step sets is left. -/
theorem foldl_of_kept (view : σ → β) (h : ∀ s a, view (step s a) = view s) (as : List α) (s : σ) :
    view (as.foldl step s) = view s := by
  induction as generalizing s with
  | nil => rfl
  | cons a as ih => rw [List.foldl_cons, ih, h]

end

/-! ## what a change sets -/

/-- The value that a binding gives to a parameter. -/
def given? (name : String) (binding : String × Value) : Option Value :=
  if binding.1 = name then some binding.2 else none

namespace Adjustment

/-- The branch selector that is set. -/
def branch? : Adjustment → Option Selector
  | .branch selector => some selector
  | _ => none

/-- The child selector that is set. -/
def child? : Adjustment → Option Selector
  | .child selector => some selector
  | _ => none

/-- The limit that is set. -/
def limit? : Adjustment → Option Nat
  | .limit n => some n
  | _ => none

/-- The value that a parameter has afterwards, if it is bound. -/
def value? (name : String) : Adjustment → Option Value
  | .bind n v => given? name (n, v)
  | .bindAll bindings => lastSet? (given? name) bindings
  | _ => none

end Adjustment

theorem Context.parameter?_bindAll (c : Context m) (bindings : List (String × Value))
    (name : String) : (c.bindAll bindings).parameter? name =
      (lastSet? (given? name) bindings).or (c.parameter? name) := by
  refine foldl_of_set (·.parameter? name) (fun c b => ?_) bindings c
  rw [parameter?_bind, given?]
  split <;> rfl

theorem Context.strategies_bindAll (c : Context m) (bindings : List (String × Value)) :
    (c.bindAll bindings).comparisons = c.comparisons ∧
      (c.bindAll bindings).functions = c.functions := by
  constructor
  · refine foldl_of_kept comparisons (fun c b => ?_) bindings c
    rfl
  · refine foldl_of_kept functions (fun c b => ?_) bindings c
    rfl

namespace Stream

open Adjustment

/-- What a stream is after changes: what was set last, and what it was where nothing was set. -/
structure LastCounts (s : Stream m) (as : List Adjustment) : Prop where
  root : (s.adjustAll as).root = s.root
  branch : (s.adjustAll as).branch = (lastSet? branch? as).or s.branch
  child : (s.adjustAll as).child = (lastSet? child? as).or s.child
  limit : (s.adjustAll as).limit = (lastSet? limit? as).or s.limit
  parameter (name : String) : (s.adjustAll as).context.parameter? name =
    (lastSet? (value? name) as).or (s.context.parameter? name)
  comparison (op : Operator) : (s.adjustAll as).context.comparison? op = s.context.comparison? op
  function (name : String) : (s.adjustAll as).context.function? name = s.context.function? name

theorem adjust_parameter? (name : String) (s : Stream m) (a : Adjustment) :
    (s.adjust a).context.parameter? name = (a.value? name).or (s.context.parameter? name) := by
  cases a with
  | bind n v =>
      rw [adjust, Context.parameter?_bind, value?, given?]
      split <;> rfl
  | bindAll bindings => exact Context.parameter?_bindAll ..
  | branch _ | child _ | limit _ => rfl

/-- No change touches the strategies. -/
theorem adjust_strategies (s : Stream m) (a : Adjustment) :
    (s.adjust a).context.comparisons = s.context.comparisons ∧
      (s.adjust a).context.functions = s.context.functions := by
  cases a with
  | bindAll bindings => exact Context.strategies_bindAll ..
  | branch _ | child _ | bind _ _ | limit _ => exact ⟨rfl, rfl⟩

theorem lastCounts_adjustAll (s : Stream m) (as : List Adjustment) : s.LastCounts as where
  root := foldl_of_kept Stream.root (fun s a => by cases a <;> rfl) as s
  branch := foldl_of_set Stream.branch (fun s a => by cases a <;> rfl) as s
  child := foldl_of_set Stream.child (fun s a => by cases a <;> rfl) as s
  limit := foldl_of_set Stream.limit (fun s a => by cases a <;> rfl) as s
  parameter name :=
    foldl_of_set (fun s : Stream m => s.context.parameter? name) (adjust_parameter? name) as s
  comparison op :=
    foldl_of_kept (fun s : Stream m => s.context.comparison? op)
      (fun s a => by simp only [Context.comparison?, adjust_strategies s a]) as s
  function name :=
    foldl_of_kept (fun s : Stream m => s.context.function? name)
      (fun s a => by simp only [Context.function?, adjust_strategies s a]) as s

end Stream

/-! ## contexts that answer alike -/

/-- Two contexts answer alike.  The order in which they came to know may differ. -/
structure Context.Agrees (c c' : Context m) : Prop where
  parameter (name : String) : c.parameter? name = c'.parameter? name
  comparison (op : Operator) : c.comparison? op = c'.comparison? op
  function (name : String) : c.function? name = c'.function? name

namespace Expr

variable {c c' : Context m}

theorem constant?_eq_of_agrees (h : c.Agrees c') (e : Expr) : constant? c e = constant? c' e := by
  cases e with
  | parameter name => exact h.parameter name
  | _ => rfl

variable [Monad m]

mutual

/-- Contexts that answer alike compile conditions alike, -/
theorem compile_eq_of_agrees (h : c.Agrees c') : (e : Expr) → compile c e = compile c' e
  | .logic connective es => by rw [compile, compile, compileAll_eq_of_agrees h es]
  | .comparison op left right => by
      rw [compile, compile, comparing, comparing, h.comparison, constant?_eq_of_agrees h,
        compileOperand_eq_of_agrees h left, compileOperand_eq_of_agrees h right]
  | .call name args => by
      rw [compile, compile, calling, calling, h.function, compileOperands_eq_of_agrees h args]
  | .path segments => by rw [compile, compile]
  | .literal v => by rw [compile, compile]
  | .parameter name => by rw [compile, compile, bound, bound, h.parameter]

theorem compileAll_eq_of_agrees (h : c.Agrees c') : (es : List Expr) →
    compileAll c es = compileAll c' es
  | [] => by rw [compileAll, compileAll]
  | e :: es => by
      rw [compileAll, compileAll, compile_eq_of_agrees h e, compileAll_eq_of_agrees h es]

/-- and operands. -/
theorem compileOperand_eq_of_agrees (h : c.Agrees c') : (e : Expr) →
    compileOperand c e = compileOperand c' e
  | .logic connective es => by
      rw [compileOperand, compileOperand, compileAll_eq_of_agrees h es]
  | .comparison op left right => by
      rw [compileOperand, compileOperand, comparing, comparing, h.comparison,
        constant?_eq_of_agrees h, compileOperand_eq_of_agrees h left,
        compileOperand_eq_of_agrees h right]
  | .call name args => by
      rw [compileOperand, compileOperand, calling, calling, h.function,
        compileOperands_eq_of_agrees h args]
  | .path segments => by rw [compileOperand, compileOperand]
  | .literal v => by rw [compileOperand, compileOperand]
  | .parameter name => by rw [compileOperand, compileOperand, bound, bound, h.parameter]

theorem compileOperands_eq_of_agrees (h : c.Agrees c') : (es : List Expr) →
    compileOperands c es = compileOperands c' es
  | [] => by rw [compileOperands, compileOperands]
  | e :: es => by
      rw [compileOperands, compileOperands, compileOperand_eq_of_agrees h e,
        compileOperands_eq_of_agrees h es]

end

end Expr

/-! ## sequences that come to the same -/

/-- The text of a selector, decoded if need be. -/
def Selector.read : Selector → Except FilterError String
  | .text source => .ok source
  | .encoded bytes label => (Charset.decode bytes label).map String.ofList

namespace Adjustment

/-- Two sequences of changes set the same apart from the branch selector, where selectors may differ
that are read alike. -/
structure SameListing (as bs : List Adjustment) : Prop where
  child : (lastSet? child? as).map Selector.read = (lastSet? child? bs).map Selector.read
  limit : lastSet? limit? as = lastSet? limit? bs
  value (name : String) : lastSet? (value? name) as = lastSet? (value? name) bs

/-- Two sequences of changes set the same. -/
structure SameLast (as bs : List Adjustment) : Prop extends SameListing as bs where
  branch : (lastSet? branch? as).map Selector.read = (lastSet? branch? bs).map Selector.read

namespace SameLast

theorem refl (as : List Adjustment) : SameLast as as := ⟨⟨rfl, rfl, fun _ => rfl⟩, rfl⟩

theorem append {as bs as' bs' : List Adjustment} (h : SameLast as bs) (h' : SameLast as' bs') :
    SameLast (as ++ as') (bs ++ bs') := by
  refine ⟨⟨?child, ?limit, fun name => ?value⟩, ?branch⟩
  case child => simp only [lastSet?_append, Option.map_or, h.child, h'.child]
  case limit => simp only [lastSet?_append, h.limit, h'.limit]
  case value => simp only [lastSet?_append, h.value, h'.value]
  case branch => simp only [lastSet?_append, Option.map_or, h.branch, h'.branch]

/-- Selectors that are read alike may stand for each other. -/
theorem of_read {x y : Selector} (h : x.read = y.read) {set : Selector → Adjustment}
    (hset : set = .branch ∨ set = .child) : SameLast [set x] [set y] := by
  have hsome : (some x).map Selector.read = (some y).map Selector.read := congrArg some h
  obtain rfl | rfl := hset
  · exact ⟨⟨rfl, rfl, fun _ => rfl⟩, hsome⟩
  · exact ⟨⟨hsome, rfl, fun _ => rfl⟩, rfl⟩

end SameLast

/-- Branch selectors may be left out. -/
theorem sameListing_filter (as : List Adjustment) :
    SameListing (as.filter (·.branch?.isNone)) as := by
  have hnone {β : Type} {set? : Adjustment → Option β} (h : ∀ x, set? (.branch x) = none) :
      lastSet? set? (as.filter (·.branch?.isNone)) = lastSet? set? as := by
    refine lastSet?_filter (fun a ha => ?_) as
    cases a with
    | branch x => exact h x
    | _ => contradiction
  exact ⟨congrArg _ (hnone fun _ => rfl), hnone fun _ => rfl, fun _ => hnone fun _ => rfl⟩

end Adjustment

/-! ## streams that cannot be told apart -/

section
variable [Monad m]

theorem Selector.compile_eq_read (s : Selector) (c : Context m) :
    s.compile c = s.read >>= (Filter.compile · c) := by
  cases s with
  | text source => rfl
  | encoded bytes label =>
      rw [compile, Filter.compileBytes, read]
      cases Charset.decode bytes label <;> rfl

/-- The tests that a text stands for in a context. -/
def Filter.testOf (text : String) (c : Context m) : Except FilterError (Node → m Bool) :=
  (Filter.compile text c).map Filter.test

/-- Filters of one text may keep different contexts, but they test alike if those answer alike. -/
theorem Filter.testOf_eq_of_agrees {c c' : Context m} (h : c.Agrees c') (text : String) :
    testOf text c = testOf text c' := by
  rw [testOf, testOf, Filter.compile, Filter.compile]
  cases Expr.ofText text.toList with
  | error error => rfl
  | ok e =>
      show Except.map _ (Except.bind (e.compile c) _) = Except.map _ (Except.bind (e.compile c') _)
      rw [Expr.compile_eq_of_agrees h]
      cases e.compile c' <;> rfl

namespace Stream

open Adjustment

/-- The tests of a selector that may be absent. -/
def asked (s : Stream m) (selector : Option Selector) : Except FilterError (Node → m Bool) :=
  (s.filter? selector).map accepts

theorem asked_eq (s : Stream m) (selector : Option Selector) :
    s.asked selector = match selector.map Selector.read with
      | none => .ok fun _ => pure true
      | some text => text >>= (Filter.testOf · s.context) := by
  cases selector with
  | none => rfl
  | some selector =>
      rw [asked, filter?, Selector.compile_eq_read, Option.map_some]
      cases selector.read with
      | error error => rfl
      | ok text =>
          show Except.map _ (Except.map _ (Filter.compile text _)) = Filter.testOf text _
          rw [Filter.testOf]
          cases Filter.compile text s.context <;> rfl

theorem nodes_eq_asked (s : Stream m) : s.nodes = (do
    let opens ← s.asked s.branch
    let keep ← s.asked s.child
    return (Walk.from' s.root).select opens keep s.limit) := by
  rw [nodes, asked, asked]
  cases s.filter? s.branch with
  | error error => rfl
  | ok branch => cases s.filter? s.child <;> rfl

theorem children_eq_asked (s : Stream m) : s.children = (do
    let keep ← s.asked s.child
    return Node.selectAmong keep s.limit s.root.children) := by
  rw [children, asked]
  cases s.filter? s.child <;> rfl

/-- Two streams start at one node, with one limit, with contexts that answer alike and with child
selectors that are read alike. -/
structure Alike (s t : Stream m) : Prop where
  root : s.root = t.root
  context : s.context.Agrees t.context
  child : s.child.map Selector.read = t.child.map Selector.read
  limit : s.limit = t.limit

namespace Alike

variable {s t : Stream m}

theorem asked_eq_asked (h : s.Alike t) {x y : Option Selector}
    (hread : x.map Selector.read = y.map Selector.read) : s.asked x = t.asked y := by
  rw [asked_eq, asked_eq, hread]
  simp only [Filter.testOf_eq_of_agrees h.context]

theorem children_eq (h : s.Alike t) : s.children = t.children := by
  rw [children_eq_asked, children_eq_asked, h.asked_eq_asked h.child, h.root, h.limit]

theorem nodes_eq (h : s.Alike t)
    (hbranch : s.branch.map Selector.read = t.branch.map Selector.read) : s.nodes = t.nodes := by
  rw [nodes_eq_asked, nodes_eq_asked, h.asked_eq_asked hbranch, h.asked_eq_asked h.child, h.root,
    h.limit]

end Alike

omit [Monad m] in
theorem alike_adjustAll (s : Stream m) {as bs : List Adjustment} (h : SameListing as bs) :
    (s.adjustAll as).Alike (s.adjustAll bs) := by
  have has := s.lastCounts_adjustAll as
  have hbs := s.lastCounts_adjustAll bs
  constructor
  case root => rw [has.root, hbs.root]
  case context =>
    constructor
    case parameter =>
      intro name
      rw [has.parameter, hbs.parameter, h.value]
    case comparison =>
      intro op
      rw [has.comparison, hbs.comparison]
    case function =>
      intro name
      rw [has.function, hbs.function]
  case child => rw [has.child, hbs.child, Option.map_or, Option.map_or, h.child]
  case limit => rw [has.limit, hbs.limit, h.limit]

/-- Streams changed by sequences that set the same cannot be told apart. -/
theorem nodes_eq_of_sameLast (s : Stream m) {as bs : List Adjustment} (h : SameLast as bs) :
    (s.adjustAll as).nodes = (s.adjustAll bs).nodes := by
  refine (s.alike_adjustAll h.toSameListing).nodes_eq ?_
  rw [(s.lastCounts_adjustAll as).branch, (s.lastCounts_adjustAll bs).branch, Option.map_or,
    Option.map_or, h.branch]

/-- **Of changes the last one of each kind counts, and their order does not show otherwise.**  After
any changes a stream is what `LastCounts` says.  Two sequences with the same last child selector,
the same last limit and the same last value for each parameter list the same children or fail with
the same error; if they have the same last branch selector as well, this holds of the nodes.  Bytes
that decode to a text may stand for it as a selector wherever it is set.  Branch selectors, valid or
not, do not matter for the children. -/
theorem adjustAll_any_order (s : Stream m) :
    (∀ as, s.LastCounts as) ∧
    (∀ as bs : List Adjustment, lastSet? child? as = lastSet? child? bs →
      lastSet? limit? as = lastSet? limit? bs →
      (∀ name, lastSet? (value? name) as = lastSet? (value? name) bs) →
      (s.adjustAll as).children = (s.adjustAll bs).children ∧
      (lastSet? branch? as = lastSet? branch? bs →
        (s.adjustAll as).nodes = (s.adjustAll bs).nodes)) ∧
    (∀ bytes label text, Charset.decode bytes label = .ok text →
      ∀ set, set = Adjustment.branch ∨ set = Adjustment.child → ∀ before after,
      let encoded := s.adjustAll (before ++ set (.encoded bytes label) :: after)
      let plain := s.adjustAll (before ++ set (.text (String.ofList text)) :: after)
      encoded.children = plain.children ∧ encoded.nodes = plain.nodes) ∧
    ∀ as, (s.adjustAll (as.filter (·.branch?.isNone))).children = (s.adjustAll as).children := by
  refine ⟨s.lastCounts_adjustAll, ?order, ?encoded, ?branches⟩
  case order =>
    intro as bs hchild hlimit hvalue
    have hlisting : SameListing as bs := ⟨congrArg _ hchild, hlimit, hvalue⟩
    exact ⟨(s.alike_adjustAll hlisting).children_eq, fun hbranch =>
      s.nodes_eq_of_sameLast ⟨hlisting, congrArg _ hbranch⟩⟩
  case encoded =>
    intro bytes label text htext set hset before after
    have hread : (Selector.encoded bytes label).read =
        (Selector.text (String.ofList text)).read := by
      simp only [Selector.read, htext, Except.map]
    have hsame := (SameLast.refl before).append ((SameLast.of_read hread hset).append (.refl after))
    exact ⟨(s.alike_adjustAll hsame.toSameListing).children_eq, s.nodes_eq_of_sameLast hsame⟩
  case branches =>
    intro as
    exact (s.alike_adjustAll (sameListing_filter as)).children_eq

end Stream

end

namespace Stream

open Adjustment

/-! ## two sequences -/

/-- A start with two children. -/
def oneAndTwo : Node :=
  ⟨"", "/", [], [⟨"x", "/x", [("a", .long 1)], []⟩, ⟨"y", "/y", [("a", .long 2)], []⟩]⟩

/-- `[a] == $p`. -/
def checkParameter : Expr := .comparison .eq (.path ["a"]) (.parameter "p")

/-- The text of `checkParameter`, two bytes for each character. -/
def checkParameterBytes : List UInt8 := (Charset.UnicodeForm.utf16 false).encode "[a] == $p".toList

theorem decode_checkParameterBytes :
    Charset.decode checkParameterBytes (some "utf-16le") = .ok "[a] == $p".toList := by
  have hlabel : Charset.labelled? (some "utf-16le") =
      some (Charset.UnicodeForm.utf16 false).encoding :=
    Charset.UnicodeForm.ofLabel?_eq_some_iff.mpr (by decide)
  have hmark : ∀ g : Charset.UnicodeForm, ¬ g.mark <+: checkParameterBytes := by
    intro g
    obtain _ | (_ | _) := g <;> decide
  rw [Charset.UnicodeForm.decode_of_label hlabel hmark, Charset.UnicodeForm.readAfter_eq_ok_iff,
    checkParameterBytes]

theorem writable_checkParameter : Expr.Writable .condition checkParameter :=
  .comparison (.path (by simp) (by decide)) (.parameter (by decide)) (by simp)

/-- First the limit is set twice, one parameter twice at once, and a child selector before the one
that counts; then all of it comes in another order.  The branch selector is no expression, but the
child that passes the other selector is listed. -/
theorem adjustAll_any_order_oneAndTwo :
    let s : Stream Id := ⟨oneAndTwo, Context.standard, none, none, none⟩
    let check := Selector.encoded checkParameterBytes (some "utf-16le")
    let first : List Adjustment := [.child (.text "("), .limit 2, .child check,
      .bindAll [("p", .long 1), ("q", .null), ("p", .long 2)], .branch (.text ")"), .limit 1]
    let second : List Adjustment := [.branch (.text ")"), .bind "q" .null, .bind "p" .null,
      .limit 1, .bind "p" (.long 2), .child check]
    Charset.decode checkParameterBytes (some "utf-16le") = .ok "[a] == $p".toList ∧
    (∀ name, lastSet? (value? name) first = lastSet? (value? name) second) ∧
    (s.adjustAll first).nodes = (s.adjustAll second).nodes ∧
    (s.adjustAll first).children = .ok [⟨"y", "/y", [("a", .long 2)], []⟩] := by
  intro s check first second
  have h := adjustAll_any_order s
  have hvalue : ∀ name, lastSet? (value? name) first = lastSet? (value? name) second := by
    intro name
    by_cases hp : "p" = name <;> by_cases hq : "q" = name <;>
      simp [first, second, value?, given?, hp, hq]
  obtain ⟨hchildren, hnodes⟩ := h.2.1 first second rfl rfl hvalue
  have hread := (h.2.2.1 _ _ _ decode_checkParameterBytes .child (.inr rfl)
    [.branch (.text ")"), .bind "q" .null, .bind "p" .null, .limit 1, .bind "p" (.long 2)] []).1
  refine ⟨decode_checkParameterBytes, hvalue, hnodes rfl, hchildren.trans (hread.trans ?_)⟩
  rw [String.ofList_toList]
  let plain := s.adjustAll [.branch (.text ")"), .bind "q" .null, .bind "p" .null, .limit 1,
    .bind "p" (.long 2), .child (.text "[a] == $p")]
  obtain ⟨p, hp⟩ : ∃ p, checkParameter.compile plain.context = .ok p := ⟨_, rfl⟩
  have hfilter : plain.filter? plain.child = .ok (some ⟨"[a] == $p", plain.context, p⟩) :=
    congrArg (Except.map some)
      (Filter.compile_of_writable "[a] == $p" writable_checkParameter (by decide) hp)
  refine (children_eq_ok hfilter (some 1)).trans ?_
  cases hp
  rfl

end Stream

end TreeSift
