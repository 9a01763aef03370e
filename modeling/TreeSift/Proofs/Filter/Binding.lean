import TreeSift.Filter.Basic
import TreeSift.Proofs.Expr.Origin
import TreeSift.Proofs.Expr.RoundTrip
import TreeSift.Proofs.Filter.Fault
import TreeSift.Proofs.Filter.Like
import TreeSift.Proofs.Filter.Logged

/-!
# TreeSift.Proofs.Filter.Binding

Binding a parameter is putting its value in its place.

1. In a context with a parameter bound, an expression compiles to what the expression with the value
   written in place of the parameter compiles to (`Expr.compile_bind`).
2. So what is wrong after binding and was not before can only be that a strategy refuses the value
   as the constant on its right (`Expr.refused_of_mem_ownFaults_bind`).
3. A filter can be bound anew as often as one likes.  What that does, and when it fails, is
   `Filter.Rebindable`.
-/

namespace TreeSift

variable {m : Type → Type}

namespace Expr

/-! ## substitution -/

mutual

/-- The expression with a constant in place of a parameter, wherever that stands. -/
def substitute (name : String) (v : Value) : Expr → Expr
  | logic connective children => logic connective (substituteAll name v children)
  | comparison op left right => comparison op (substitute name v left) (substitute name v right)
  | call f args => call f (substituteAll name v args)
  | path segments => path segments
  | literal w => literal w
  | parameter n => if n = name then literal v else parameter n

/-- Several expressions with a constant in place of a parameter. -/
def substituteAll (name : String) (v : Value) : List Expr → List Expr
  | [] => []
  | e :: es => substitute name v e :: substituteAll name v es

end

@[simp] theorem length_substituteAll (name : String) (v : Value) (es : List Expr) :
    (substituteAll name v es).length = es.length := by
  induction es with
  | nil => rw [substituteAll]
  | cons e es ih => simp [substituteAll, ih]

mutual

/-- Where the parameter does not stand, nothing changes. -/
theorem substitute_of_not_mem {name : String} (v : Value) : (e : Expr) →
    .parameter name ∉ parts e → e.substitute name v = e
  | .logic connective es, h => by
      rw [substitute, substituteAll_of_not_mem v es fun hes => h (by simp [parts, hes])]
  | .comparison op left right, h => by
      rw [substitute, substitute_of_not_mem v left fun hl => h (by simp [parts, hl]),
        substitute_of_not_mem v right fun hr => h (by simp [parts, hr])]
  | .call f args, h => by
      rw [substitute, substituteAll_of_not_mem v args fun hargs => h (by simp [parts, hargs])]
  | .path segments, _ => by rw [substitute]
  | .literal w, _ => by rw [substitute]
  | .parameter n, h => by
      rw [substitute, if_neg fun hn => h (by simp [parts, hn])]

theorem substituteAll_of_not_mem {name : String} (v : Value) : (es : List Expr) →
    .parameter name ∉ partsAll es → substituteAll name v es = es
  | [], _ => by rw [substituteAll]
  | e :: es, h => by
      rw [substituteAll, substitute_of_not_mem v e fun he => h (by simp [partsAll, he]),
        substituteAll_of_not_mem v es fun hes => h (by simp [partsAll, hes])]

end

mutual

/-- Constants for two parameters may be put in in either order. -/
theorem substitute_comm {name name' : String} (hne : name ≠ name') (v w : Value) : (e : Expr) →
    (e.substitute name' w).substitute name v = (e.substitute name v).substitute name' w
  | .logic connective es => by
      simp only [substitute, substituteAll_comm hne v w es]
  | .comparison op left right => by
      simp only [substitute, substitute_comm hne v w left, substitute_comm hne v w right]
  | .call f args => by
      simp only [substitute, substituteAll_comm hne v w args]
  | .path segments => by simp only [substitute]
  | .literal u => by simp only [substitute]
  | .parameter n => by
      by_cases hn : n = name
      · subst hn
        simp [substitute, hne]
      · by_cases hn' : n = name'
        · subst hn'
          simp [substitute, hn]
        · simp [substitute, hn, hn']

theorem substituteAll_comm {name name' : String} (hne : name ≠ name') (v w : Value) :
    (es : List Expr) → substituteAll name v (substituteAll name' w es) =
      substituteAll name' w (substituteAll name v es)
  | [] => by simp only [substituteAll]
  | e :: es => by
      simp only [substituteAll, substitute_comm hne v w e, substituteAll_comm hne v w es]

end

end Expr

/-! ## a context with a parameter bound -/

namespace Registry

variable {κ α : Type} [DecidableEq κ]

theorem put_put (k : κ) (a b : α) (es : List (κ × α)) : put k a (put k b es) = put k a es := by
  induction es with
  | nil => simp [put]
  | cons e es ih =>
      obtain ⟨k', c⟩ := e
      by_cases h : k' = k <;> simp [put, h, ih]

/-- A key that is set again stands where it stood. -/
theorem insert_insert (r : Registry κ α) (k : κ) (a b : α) :
    (r.insert k b).insert k a = r.insert k a := by
  simp [insert, put_put]

end Registry

namespace Context

variable (c : Context m) (name : String) (v w : Value)

@[simp] theorem parameter?_bind (n : String) :
    (c.bind name v).parameter? n = if name = n then some v else c.parameter? n :=
  Registry.get?_insert _ _ _ _

theorem logged_bind [Monad m] : (c.bind name v).logged = c.logged.bind name v := rfl

/-- Of two values bound to one parameter the last one counts. -/
theorem bind_bind_self : (c.bind name v).bind name w = c.bind name w := by
  simp [bind, Registry.insert_insert]

end Context

namespace Expr

variable {c : Context m} {name : String} {v : Value}

/-- The constant that an operand is after binding was put there, or was one before. -/
theorem constant?_bind_eq_some {e : Expr} {w : Value}
    (h : constant? (c.bind name v) e = some w) :
    (e = .parameter name ∧ w = v) ∨ constant? c e = some w := by
  cases e with
  | parameter n =>
      rw [constant?, Context.parameter?_bind] at h
      split at h
      · next hn => exact .inl ⟨by rw [hn], (Option.some.inj h).symm⟩
      · exact .inr h
  | literal u => exact .inr h
  | _ => contradiction

@[simp] theorem constant?_bind (e : Expr) :
    constant? (c.bind name v) e = constant? c (e.substitute name v) := by
  cases e with
  | parameter n =>
      rw [substitute, constant?, Context.parameter?_bind]
      by_cases hn : n = name
      · rw [if_pos hn, if_pos hn.symm, constant?]
      · rw [if_neg hn, if_neg (Ne.symm hn), constant?]
  | _ => simp [substitute, constant?]

/-! ## compiling with a parameter bound -/

/-- Binding adds no fault but the refusal of the value. -/
theorem refused_of_mem_ownFaults_bind {s : Expr} {error : FilterError} (hs : c.Supports s)
    (h : error ∈ ownFaults (c.bind name v) s) :
    ∃ op left strategy reason, s = .comparison op left (.parameter name) ∧
      c.comparison? op = some strategy ∧ strategy.specialize v = .refused reason ∧
        error = .invalidArgument op reason := by
  rw [supports_iff] at hs
  have hown : error ∉ ownFaults c s := by simp [hs]
  cases s with
  | comparison op left right =>
      rw [ownFaults, List.mem_append] at h hown
      obtain ⟨hop, hrefused⟩ := not_or.mp hown
      obtain ⟨strategy, w, reason, hstrategy, hconstant, hw, rfl⟩ :=
        mem_refusals.mp (h.resolve_left hop)
      obtain ⟨rfl, rfl⟩ | hconstant := constant?_bind_eq_some hconstant
      · exact ⟨op, left, strategy, reason, rfl, hstrategy, hw, rfl⟩
      · exact absurd (mem_refusals.mpr ⟨strategy, w, reason, hstrategy, hconstant, hw, rfl⟩)
          hrefused
  | call f args => exact absurd h hown
  | parameter n =>
      obtain ⟨w, hw⟩ := parameterFaults_eq_nil.mp hs
      have hbound : parameterFaults (c.bind name v) n = [] := by
        refine parameterFaults_eq_nil.mpr ?_
        rw [Context.parameter?_bind]
        split
        · exact ⟨v, rfl⟩
        · exact ⟨w, hw⟩
      rw [ownFaults, hbound] at h
      contradiction
  | logic connective es => exact absurd h hown
  | path segments => exact absurd h hown
  | literal w => exact absurd h hown

variable [Monad m]

theorem bound_bind (n : String) :
    (bound (c.bind name v) n : Except FilterError (Resolver m)) =
      compileOperand c (substitute name v (.parameter n)) := by
  rw [bound, substitute, Context.parameter?_bind]
  by_cases hn : n = name
  · rw [if_pos hn, if_pos hn.symm, compileOperand]
  · rw [if_neg hn, if_neg (Ne.symm hn), compileOperand, bound]

mutual

/-- **Binding is substitution**, of conditions, -/
theorem compile_bind : (e : Expr) → compile (c.bind name v) e = compile c (e.substitute name v)
  | .logic connective es => by
      rw [substitute, compile, compile, compileAll_bind es]
  | .comparison op left right => by
      rw [substitute, compile, compile, constant?_bind, compileOperand_bind left,
        compileOperand_bind right]
      rfl
  | .call f args => by
      rw [substitute, compile, compile, compileOperands_bind args, length_substituteAll]
      rfl
  | .path segments => by rw [substitute, compile, compile]
  | .literal w => by rw [substitute, compile, compile]
  | .parameter n => by
      rw [compile, bound_bind, substitute]
      split
      · rw [compile, compileOperand]
        rfl
      · rw [compile, compileOperand]

theorem compileAll_bind : (es : List Expr) →
    compileAll (c.bind name v) es = compileAll c (substituteAll name v es)
  | [] => by rw [substituteAll, compileAll, compileAll]
  | e :: es => by
      rw [substituteAll, compileAll, compileAll, compile_bind e, compileAll_bind es]

/-- and of operands. -/
theorem compileOperand_bind : (e : Expr) →
    compileOperand (c.bind name v) e = compileOperand c (e.substitute name v)
  | .logic connective es => by
      rw [substitute, compileOperand, compileOperand, compileAll_bind es]
  | .comparison op left right => by
      rw [substitute, compileOperand, compileOperand, constant?_bind, compileOperand_bind left,
        compileOperand_bind right]
      rfl
  | .call f args => by
      rw [substitute, compileOperand, compileOperand, compileOperands_bind args,
        length_substituteAll]
      rfl
  | .path segments => by rw [substitute, compileOperand, compileOperand]
  | .literal w => by rw [substitute, compileOperand, compileOperand]
  | .parameter n => by rw [compileOperand, bound_bind]

theorem compileOperands_bind : (es : List Expr) →
    compileOperands (c.bind name v) es = compileOperands c (substituteAll name v es)
  | [] => by rw [substituteAll, compileOperands, compileOperands]
  | e :: es => by
      rw [substituteAll, compileOperands, compileOperands, compileOperand_bind e,
        compileOperands_bind es]

end

/-- A parameter that does not stand in the expression may have any value. -/
theorem compile_bind_of_not_mem {e : Expr} (h : .parameter name ∉ parts e) :
    compile (c.bind name v) e = compile c e := by
  rw [compile_bind, substitute_of_not_mem v e h]

/-- Two parameters may be bound in either order. -/
theorem compile_bind_comm {name' : String} (hne : name ≠ name') (w : Value) (e : Expr) :
    compile ((c.bind name v).bind name' w) e = compile ((c.bind name' w).bind name v) e := by
  rw [compile_bind, compile_bind, compile_bind, compile_bind, substitute_comm hne]

/-- If an expression compiles, then binding can only bring the refusal of the value. -/
theorem refused_of_compile_bind_error {e : Expr} {p : Predicate m} (hp : compile c e = .ok p)
    {error : FilterError} (h : compile (c.bind name v) e = .error error) :
    ∃ op left strategy reason, .comparison op left (.parameter name) ∈ parts e ∧
      c.comparison? op = some strategy ∧ strategy.specialize v = .refused reason ∧
        error = .invalidArgument op reason := by
  have hmem : error ∈ faults (c.bind name v) e :=
    List.mem_of_mem_head? ((reports_compile e error).mp h)
  obtain ⟨s, hs, hown⟩ := mem_faults_iff e |>.mp hmem
  obtain ⟨op, left, strategy, reason, rfl, hrest⟩ :=
    refused_of_mem_ownFaults_bind ((exists_compile_iff e).mp ⟨p, hp⟩ s hs) hown
  exact ⟨op, left, strategy, reason, hs, hrest⟩

/-- What a second binding does not refuse, it does not refuse before the first. -/
theorem exists_compile_bind_of_compile_bind {e : Expr} {p q : Predicate m} {name' : String}
    {w : Value} (hp : compile c e = .ok p)
    (hq : compile ((c.bind name v).bind name' w) e = .ok q) :
    ∃ r, compile (c.bind name' w) e = .ok r := by
  cases hc : compile (c.bind name' w) e with
  | ok r => exact ⟨r, rfl⟩
  | error error =>
      obtain ⟨op, left, strategy, reason, hs, hstrategy, hrefused, -⟩ :=
        refused_of_compile_bind_error hp hc
      obtain ⟨strategy', hstrategy', hnone⟩ := (exists_compile_iff e).mp ⟨q, hq⟩ _ hs
      obtain rfl : strategy = strategy' := Option.some.inj (hstrategy.symm.trans hstrategy')
      exact absurd hrefused (hnone w (by simp [constant?]) reason)

end Expr

/-! ## filters -/

open TreeSift.Expr

/-- What binding the parameters of a filter does. -/
structure Filter.Rebindable [Monad m] (f : Filter m) : Prop where
  /-- It can fail only where the strategy of an operator refuses the value on its right, -/
  refused {name : String} {v : Value} {error : FilterError} (h : f.bind name v = .error error) :
    ∃ e op left strategy reason, ofText f.source.toList = .ok e ∧
      .comparison op left (.parameter name) ∈ parts e ∧
      f.context.comparison? op = some strategy ∧ strategy.specialize v = .refused reason ∧
      error = .invalidArgument op reason
  /-- and not at all if no token of the text is the parameter; then nothing else changes. -/
  unused {name : String} (v : Value) {ts : TokenList}
    (hts : TokenList.ofText f.source.toList = .ok ts)
    (h : ∀ t ∈ ts.tokens, t.lexeme ≠ .parameter name) :
    ∃ g, f.bind name v = .ok g ∧ g.predicate = f.predicate
  /-- Of two values for one parameter the last one counts, -/
  again {name : String} {v : Value} {g : Filter m} (h : f.bind name v = .ok g) (w : Value) :
    g.bind name w = f.bind name w
  /-- and two parameters may be bound in either order. -/
  either {name name' : String} (hne : name ≠ name') {v w : Value} {g g' : Filter m}
    (h : f.bind name v = .ok g) (h' : g.bind name' w = .ok g') :
    ∃ k k', f.bind name' w = .ok k ∧ k.bind name v = .ok k' ∧ k'.predicate = g'.predicate

namespace Filter

variable [Monad m] {c : Context m} {text : String}

/-- A filter is made of an expression that is read and compiles. -/
theorem compile_eq {e : Expr} (he : ofText text.toList = .ok e) :
    Filter.compile text c = (do return ⟨text, c, ← e.compile c⟩) := by
  rw [Filter.compile, he]
  rfl

theorem compile_eq_ok {f : Filter m} :
    Filter.compile text c = .ok f ↔ f.source = text ∧ f.context = c ∧
      ∃ e, ofText text.toList = .ok e ∧ e.compile c = .ok f.predicate := by
  constructor
  · intro h
    obtain ⟨e, he, -⟩ := bind_eq_ok.mp h
    rw [compile_eq he] at h
    obtain ⟨p, hp, rfl⟩ := map_eq_ok.mp h
    exact ⟨rfl, rfl, e, he, hp⟩
  · intro h
    obtain ⟨rfl, rfl, e, he, hp⟩ := h
    rw [compile_eq he, hp]
    rfl

/-- Every filter that compiled can be bound anew. -/
theorem rebindable_of_compile {f : Filter m} (h : Filter.compile text c = .ok f) :
    f.Rebindable := by
  obtain ⟨rfl, rfl, e, he, hp⟩ := compile_eq_ok.mp h
  constructor
  case refused =>
    intro name v error h
    rw [Filter.bind, compile_eq he] at h
    cases hc : e.compile (f.context.bind name v) with
    | ok p =>
        rw [hc] at h
        contradiction
    | error error' =>
        rw [hc] at h
        injection h with h
        subst h
        obtain ⟨op, left, strategy, reason, hrest⟩ := refused_of_compile_bind_error hp hc
        exact ⟨e, op, left, strategy, reason, he, hrest⟩
  case unused =>
    intro name v ts hts h
    have hnone : .parameter name ∉ parts e := by
      intro hmem
      obtain ⟨ts', hts', hstem⟩ := allStem_of_ofText he
      obtain rfl : ts = ts' := Except.ok.inj (hts.symm.trans hts')
      obtain ⟨t, ht, hl⟩ := List.mem_map.mp (hstem _ hmem).parameter
      exact h t ht hl
    refine ⟨⟨f.source, f.context.bind name v, f.predicate⟩, ?_, rfl⟩
    rw [Filter.bind, compile_eq he, compile_bind_of_not_mem hnone, hp]
    rfl
  case again =>
    intro name v g hg w
    obtain ⟨hsource, hcontext, -⟩ := compile_eq_ok.mp hg
    rw [Filter.bind, Filter.bind, hsource, hcontext, Context.bind_bind_self]
  case either =>
    intro name name' hne v w g g' hg hg'
    obtain ⟨hsource, hcontext, -⟩ := compile_eq_ok.mp hg
    obtain ⟨-, -, e', he', hp'⟩ := compile_eq_ok.mp hg'
    rw [hsource] at he'
    rw [hcontext] at hp'
    obtain rfl : e = e' := Except.ok.inj (he.symm.trans he')
    obtain ⟨q, hq⟩ := exists_compile_bind_of_compile_bind hp hp'
    let k : Filter m := ⟨f.source, f.context.bind name' w, q⟩
    let k' : Filter m := ⟨f.source, k.context.bind name v, g'.predicate⟩
    refine ⟨k, k', ?_, ?_, rfl⟩
    · rw [Filter.bind, compile_eq he, hq]
      rfl
    · rw [Filter.bind, compile_eq he, ← compile_bind_comm hne, hp']
      rfl

/-- **Binding a parameter is substitution, and binding anew is safe.**  An expression compiles with a
parameter bound to what it compiles to with the value in the parameter's place, or fails with the
same error; it does so in the watched context too.  A filter that compiled can be bound anew. -/
theorem bind_substitutes (c : Context m) :
    (∀ (e : Expr) (name : String) (v : Value),
      Expr.compile (c.bind name v) e = Expr.compile c (e.substitute name v) ∧
      Expr.compile (c.bind name v).logged e = Expr.compile c.logged (e.substitute name v)) ∧
    ∀ (text : String) (f : Filter m), Filter.compile text c = .ok f → f.Rebindable :=
  ⟨fun e name v => ⟨compile_bind e, by rw [Context.logged_bind, compile_bind]⟩,
    fun _ _ => rebindable_of_compile⟩

/-- `[a] like $p`. -/
def likeParameter : Expr := .comparison .like (.path ["a"]) (.parameter "p")

/-- After a pattern the parameter may get a text that is none, which is refused as it was. -/
theorem bind_substitutes_likeParameter :
    let c := (Context.standard : Context Id).bind "p" (.text "x")
    ∃ f g, Filter.compile "[a] like $p" c = .ok f ∧ f.bind "p" (.text "y") = .ok g ∧
      g.bind "p" (.text "(") = f.bind "p" (.text "(") ∧
      f.bind "p" (.text "(") = .error (.invalidArgument .like (.noPattern "(".toList)) := by
  intro c
  have hread : ofText "[a] like $p".toList = .ok likeParameter := by
    have hw : Writable .condition likeParameter :=
      .comparison (.path (by simp) (by decide)) (.parameter (by decide)) (by simp)
    exact ofText_of_restored (restored hw)
  obtain ⟨p, hp⟩ : ∃ p, likeParameter.compile c = .ok p := ⟨_, rfl⟩
  obtain ⟨q, hq⟩ : ∃ q, likeParameter.compile (c.bind "p" (.text "y")) = .ok q := ⟨_, rfl⟩
  have hf : Filter.compile "[a] like $p" c = .ok ⟨"[a] like $p", c, p⟩ := by
    rw [compile_eq hread, hp]
    rfl
  have hg : (⟨"[a] like $p", c, p⟩ : Filter Id).bind "p" (.text "y") =
      .ok ⟨"[a] like $p", c.bind "p" (.text "y"), q⟩ := by
    rw [Filter.bind, compile_eq hread, hq]
    rfl
  refine ⟨_, _, hf, hg, ((bind_substitutes c).2 _ _ hf).again hg _, ?_⟩
  have hnone : Pattern.whole? "(".toList = none := by decide +kernel
  rw [Filter.bind, compile_eq hread, ((bind_substitutes c).1 likeParameter "p" _).1]
  show (Expr.compile c (.comparison .like (.path ["a"]) (.literal (.text "("))) >>= _) = _
  rw [compile_refused rfl (by rw [compileOperand]) (specialize_eq_refused hnone (.inl rfl))]
  rfl

end Filter

end TreeSift
