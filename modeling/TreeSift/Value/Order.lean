import TreeSift.Value.Basic

/-!
# TreeSift.Value.Order

Which of two values comes first, if either does.

1. Nothing and lists compare with no value, not even with themselves.
2. A date on either side makes it a comparison of dates.
3. Two whole numbers compare exactly; otherwise a number on either side makes it a comparison of
   doubles.
4. A truth value on either side makes it a comparison of truth values, false first.
5. Two texts compare character by character.

A side that cannot be read as the kind compared leaves the two incomparable.
-/

namespace TreeSift

namespace Value

/-- The order of two results, if both are there. -/
def orderOf {α : Type} (order : α → α → Option Ordering) (a b : Option α) : Option Ordering :=
  match a, b with
  | some x, some y => order x y
  | _, _ => none

/-- The order of texts: by code points, a text before its continuations. -/
def textOrder : List Char → List Char → Ordering
  | [], [] => .eq
  | [], _ :: _ => .lt
  | _ :: _, [] => .gt
  | a :: as, b :: bs => if a = b then textOrder as bs else if a < b then .lt else .gt

/-- The order of two values that are neither nothing nor lists. -/
def scalarOrder? (a b : Value) : Option Ordering :=
  match a, b with
  | date _, _ => orderOf (fun x y => some (Moment.compare x y)) a.asDate? b.asDate?
  | _, date _ => orderOf (fun x y => some (Moment.compare x y)) a.asDate? b.asDate?
  | long x, long y => some (compare x.toInt y.toInt)
  | long _, _ => orderOf Binary64.compare? a.asNumber? b.asNumber?
  | double _, _ => orderOf Binary64.compare? a.asNumber? b.asNumber?
  | _, long _ => orderOf Binary64.compare? a.asNumber? b.asNumber?
  | _, double _ => orderOf Binary64.compare? a.asNumber? b.asNumber?
  | boolean _, _ => orderOf (fun x y => some (compare x y)) a.asBoolean? b.asBoolean?
  | _, boolean _ => orderOf (fun x y => some (compare x y)) a.asBoolean? b.asBoolean?
  | text x, text y => some (textOrder x.toList y.toList)
  | _, _ => none

/-- The order of two values. -/
def compare? (a b : Value) : Option Ordering :=
  match a, b with
  | null, _ => none
  | _, null => none
  | list _, _ => none
  | _, list _ => none
  | a, b => scalarOrder? a b

/-- Whether two values denote the same after coercion. -/
def looselyEquals (a b : Value) : Bool := compare? a b == some .eq

end Value

end TreeSift
