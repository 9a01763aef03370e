import TreeSift.Expr.Basic
import TreeSift.Expr.Token
import TreeSift.Proofs.Text.Split

/-!
# TreeSift.Proofs.Expr.Writable

The expressions whose text says what they are.

1. A join has at least two conditions, none of which is a join of its kind; a denial has one.  Both
   are in parentheses, so they may stand for conditions and for operands alike.  A comparison has no
   parentheses and is a condition only.
2. A name is a word.  The words of the language are no names of functions, in whatever case.
3. A segment of a path has no blank at either end, and no character that ends the segment or that no
   path has.  It is not empty, and neither is the path.
4. Constants are those with a text of their own: a double may look like a whole number and a date
   like a text, and of the escapes in a text only that of the quote is written.
5. Parentheses directly after `any` would make it the name of a function.
-/

namespace TreeSift

namespace Lexeme

/-- A word, as parameters and functions are named. -/
structure IsName (cs : List Char) : Prop where
  first : ∃ c r, cs = c :: r ∧ isWordStart c = true
  word : ∀ c ∈ cs, isWordChar c = true

-- `List.all` goes through the characters that are there, and not through all that exist
instance (cs : List Char) : Decidable (IsName cs) :=
  decidable_of_iff (cs.head?.any isWordStart = true ∧ cs.all isWordChar = true) <| by
    rw [List.all_eq_true]
    cases cs with
    | nil => exact ⟨fun h => absurd h.1 (by decide), fun h => absurd h.first (by simp)⟩
    | cons c r =>
        exact ⟨fun h => ⟨⟨c, r, rfl, h.1⟩, h.2⟩, fun h => ⟨by simpa using h.first, h.word⟩⟩

/-- The words of the language that stand before operands. -/
def reserved : List String := ["and", "or", "not", "like", "contains", "in"]

/-- Whether a word is one of the language, in some case. -/
def IsReserved (cs : List Char) : Prop := String.ofList (Text.lowerAscii cs) ∈ reserved

instance (cs : List Char) : Decidable (IsReserved cs) :=
  inferInstanceAs (Decidable (String.ofList (Text.lowerAscii cs) ∈ reserved))

/-- A character that a segment of a path may have. -/
structure IsSegmentChar (c : Char) : Prop where
  not_slash : c ≠ '/'
  not_open : c ≠ '['
  not_close : c ≠ ']'
  not_control : CharClass.isControl c = false

instance (c : Char) : Decidable (IsSegmentChar c) :=
  decidable_of_iff (c ≠ '/' ∧ c ≠ '[' ∧ c ≠ ']' ∧ CharClass.isControl c = false)
    ⟨fun ⟨h₁, h₂, h₃, h₄⟩ => ⟨h₁, h₂, h₃, h₄⟩, fun ⟨h₁, h₂, h₃, h₄⟩ => ⟨h₁, h₂, h₃, h₄⟩⟩

/-- A segment of a path. -/
structure IsSegment (cs : List Char) : Prop where
  ne_nil : cs ≠ []
  trimmed : Text.trim cs = cs
  plain : ∀ c ∈ cs, IsSegmentChar c

instance (cs : List Char) : Decidable (IsSegment cs) :=
  decidable_of_iff
      (cs ≠ [] ∧ Text.trim cs = cs ∧ (cs.all fun c => decide (IsSegmentChar c)) = true) <| by
    simp only [List.all_eq_true, decide_eq_true_eq]
    exact ⟨fun ⟨h₁, h₂, h₃⟩ => ⟨h₁, h₂, h₃⟩, fun ⟨h₁, h₂, h₃⟩ => ⟨h₁, h₂, h₃⟩⟩

end Lexeme

namespace Expr

open Lexeme

/-- Splitting the text of a path undoes joining its segments. -/
theorem segmentsOf_pathText {segments : List String} (hne : segments ≠ [])
    (plain : ∀ s ∈ segments, IsSegment s.toList) : segmentsOf (pathText segments) = segments := by
  have hslash : ∀ cs ∈ segments.map String.toList, '/' ∉ cs := by
    intro cs hcs hmem
    obtain ⟨s, hs, rfl⟩ := List.mem_map.mp hcs
    exact ((plain s hs).plain '/' hmem).not_slash rfl
  unfold segmentsOf pathText
  rw [Text.splitAt_joinWith (by simpa using hne) hslash]
  simp [Function.comp_def]

/-- A constant with a text of its own. -/
inductive WritableConstant : Value → Prop where
  | null : WritableConstant .null
  | boolean (b : Bool) : WritableConstant (.boolean b)
  | long (n : Int64) : WritableConstant (.long n)
  | text {s : String} (plain : '\\' ∉ s.toList) : WritableConstant (.text s)

/-- What an expression is written as. -/
inductive Role where
  | condition
  | operand
deriving DecidableEq, Repr, Inhabited

/-- Expressions that can be written down as conditions or as operands. -/
inductive Writable : Role → Expr → Prop where
  | join {role : Role} {c : Connective} {es : List Expr} (joins : c ≠ .not)
    (several : 2 ≤ es.length) (conditions : ∀ e ∈ es, Writable .condition e)
    (apart : ∀ e ∈ es, ∀ ds, e ≠ .logic c ds) : Writable role (.logic c es)
  | deny {role : Role} {e : Expr} (condition : Writable .condition e) :
    Writable role (.logic .not [e])
  | comparison {op : Operator} {left right : Expr} (hl : Writable .operand left)
    (hr : Writable .operand right)
    (apart : op = .containsAny ∨ op = .notContainsAny → ∀ c es, right ≠ .logic c es) :
    Writable .condition (.comparison op left right)
  | path {segments : List String} (ne_nil : segments ≠ [])
    (plain : ∀ s ∈ segments, IsSegment s.toList) : Writable .operand (.path segments)
  | parameter {name : String} (named : IsName name.toList) : Writable .operand (.parameter name)
  | call {name : String} {args : List Expr} (named : IsName name.toList)
    (free : ¬IsReserved name.toList) (operands : ∀ e ∈ args, Writable .operand e) :
    Writable .operand (.call name args)
  | literal {v : Value} (constant : WritableConstant v) : Writable .operand (.literal v)

end Expr

end TreeSift
