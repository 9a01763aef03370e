import TreeSift.Value.Order

/-!
# TreeSift.Proofs.Value.Order

Which place two values have in the order.

1. A value by itself asks to be compared as a date, a number, a truth value or a text, and nothing
   and lists ask for no comparison (`Value.reading?`).  Of two values the one that asks for more
   decides how both are read (`Value.compare?_eq`).
2. So it does not matter which of the two stands first.  Exchanged they compare the other way round
   (`Value.compare?_swap`), and loose equality is symmetric (`Value.looselyEquals_comm`).
3. The values of one kind lie on one line (`Kind.line`).  Any two of them compare, each is equal to
   itself, and the order is transitive (`Value.compare?_trans`).
-/

namespace TreeSift

/-! ## exchanging the two sides -/

theorem orderOf_swap {α : Type} {order order' : α → α → Option Ordering}
    (h : ∀ x y, order' y x = (order x y).map .swap) (a b : Option α) :
    Value.orderOf order' b a = (Value.orderOf order a b).map .swap := by
  cases a with
  | none => cases b <;> rfl
  | some x =>
      cases b with
      | none => rfl
      | some y => exact h x y

/-- A total order makes one of readings that turns round. -/
theorem orderOf_cmp_swap {α : Type} (cmp : α → α → Ordering) [Std.OrientedCmp cmp]
    (a b : Option α) :
    Value.orderOf (fun x y => some (cmp x y)) b a =
      (Value.orderOf (fun x y => some (cmp x y)) a b).map .swap :=
  orderOf_swap (fun _ _ => congrArg some Std.OrientedCmp.eq_swap) a b

theorem Value.textOrder_eq : textOrder = List.compareLex compare := by
  funext s t
  induction s generalizing t with
  | nil => cases t <;> rfl
  | cons c s ih =>
      cases t with
      | nil => rfl
      | cons d t =>
          rw [textOrder, List.compareLex_cons_cons, ih,
            show compare c d = compareOfLessAndEq c d from rfl, compareOfLessAndEq]
          by_cases heq : c = d
          · subst heq
            simp
          · by_cases hlt : c < d <;> simp [heq, hlt]

instance : Std.TransCmp Value.textOrder := Value.textOrder_eq ▸ inferInstance

instance : Std.TransCmp Moment.compare :=
  inferInstanceAs (Std.TransCmp (compareOn Moment.nanos))

theorem Binary64.compare?_eq (x y : Binary64) :
    x.compare? y = Value.orderOf (fun i j => some (compare i j)) x.key? y.key? := by
  cases x <;> cases y <;> rfl

theorem Binary64.compare?_swap (x y : Binary64) : y.compare? x = (x.compare? y).map .swap := by
  rw [compare?_eq, compare?_eq]
  exact orderOf_cmp_swap compare _ _

/-! ## what two values are compared as -/

/-- What values can be compared as. -/
inductive Reading where
  | text
  | boolean
  | number
  | date
deriving DecidableEq, Repr

namespace Reading

/-- What two values are compared as that ask for one thing each.  Dates win over numbers, numbers
over truth values, and those over texts. -/
def join : Reading → Reading → Reading
  | date, _ => date
  | _, date => date
  | number, _ => number
  | _, number => number
  | boolean, _ => boolean
  | _, boolean => boolean
  | text, text => text

theorem join_comm (r s : Reading) : r.join s = s.join r := by
  cases r <;> cases s <;> rfl

/-- The order of two values as numbers: exact for two whole numbers. -/
def numberOrder? : Value → Value → Option Ordering
  | .long x, .long y => some (compare x.toInt y.toInt)
  | a, b => Value.orderOf Binary64.compare? a.asNumber? b.asNumber?

/-- The order of two values that are both read in one way. -/
def order? : Reading → Value → Value → Option Ordering
  | date, a, b => Value.orderOf (fun x y => some (Moment.compare x y)) a.asDate? b.asDate?
  | number, a, b => numberOrder? a b
  | boolean, a, b => Value.orderOf (fun x y => some (compare x y)) a.asBoolean? b.asBoolean?
  | text, a, b =>
    Value.orderOf (fun x y => some (Value.textOrder x y)) (a.asText?.map String.toList)
      (b.asText?.map String.toList)

theorem numberOrder?_swap (a b : Value) : numberOrder? b a = (numberOrder? a b).map .swap := by
  have hread : Value.orderOf Binary64.compare? b.asNumber? a.asNumber? =
      (Value.orderOf Binary64.compare? a.asNumber? b.asNumber?).map .swap :=
    orderOf_swap Binary64.compare?_swap _ _
  -- only two whole numbers are not rounded to doubles
  cases a with
  | long x =>
      cases b with
      | long y => exact congrArg some Std.OrientedCmp.eq_swap
      | _ => exact hread
  | _ => cases b <;> exact hread

theorem order?_swap (r : Reading) (a b : Value) : r.order? b a = (r.order? a b).map .swap := by
  cases r with
  | date => exact orderOf_cmp_swap Moment.compare _ _
  | number => exact numberOrder?_swap a b
  | boolean => exact orderOf_cmp_swap compare _ _
  | text => exact orderOf_cmp_swap Value.textOrder _ _

end Reading

namespace Value

/-- What a value by itself asks to be compared as. -/
def reading? : Value → Option Reading
  | null => none
  | boolean _ => some .boolean
  | long _ => some .number
  | double _ => some .number
  | text _ => some .text
  | date _ => some .date
  | list _ => none

/-- Two values are read in the way that wins, and then compared. -/
theorem compare?_eq (a b : Value) :
    a.compare? b = orderOf (fun r s => (r.join s).order? a b) a.reading? b.reading? := by
  cases a <;> cases b <;> rfl

/-- Exchanged, two values compare the other way round, or again not at all. -/
theorem compare?_swap (a b : Value) : b.compare? a = (a.compare? b).map .swap := by
  rw [compare?_eq, compare?_eq]
  refine orderOf_swap (fun r s => ?_) _ _
  -- the same reading wins on either side
  rw [Reading.join_comm]
  exact Reading.order?_swap _ a b

theorem looselyEquals_comm (a b : Value) : a.looselyEquals b = b.looselyEquals a := by
  unfold looselyEquals
  rw [compare?_swap a b]
  cases a.compare? b with
  | none => rfl
  | some o => cases o <;> rfl

end Value

/-! ## values of one kind -/

/-- The kinds of values that have an order of their own. -/
inductive Kind where
  | boolean
  | long
  | double
  | text
  | date
deriving DecidableEq, Repr

/-- The values of a kind.  Nothing and lists are of no kind, nor is the double that is no number. -/
inductive Value.OfKind : Kind → Value → Prop where
  | boolean (b : Bool) : OfKind .boolean (.boolean b)
  | long (n : Int64) : OfKind .long (.long n)
  | double {x : Binary64} (h : x ≠ .nan) : OfKind .double (.double x)
  | text (s : String) : OfKind .text (.text s)
  | date (m : Moment) : OfKind .date (.date m)

/-- A line on which values have places. -/
structure Line where
  /-- The places. -/
  Place : Type
  /-- The order of places. -/
  order : Place → Place → Ordering
  /-- Places are ordered totally and transitively. -/
  transitive : Std.TransCmp order
  /-- Where a value is; values that are not on the line are anywhere. -/
  place : Value → Place

/-- The line of a kind. -/
def Kind.line : Kind → Line
  | boolean =>
    { Place := Bool
      order := compare
      transitive := inferInstance
      place := fun | .boolean b => b | _ => false }
  | long =>
    { Place := Int
      order := compare
      transitive := inferInstance
      place := fun | .long n => n.toInt | _ => 0 }
  | double =>
    { Place := Int
      order := compare
      transitive := inferInstance
      place := fun | .double x => x.key?.getD 0 | _ => 0 }
  | text =>
    { Place := List Char
      order := Value.textOrder
      transitive := inferInstance
      place := fun | .text s => s.toList | _ => [] }
  | date =>
    { Place := Moment
      order := Moment.compare
      transitive := inferInstance
      place := fun | .date m => m | _ => ⟨0, 0⟩ }

/-- A step that goes on in the direction of the one before it, or has a step without a direction
beside it, is one step. -/
theorem then_trans {α : Type} {cmp : α → α → Ordering} [Std.TransCmp cmp] {x y z : α}
    {o o' : Ordering} (h : cmp x y = o) (h' : cmp y z = o') (hsame : o = o' ∨ o = .eq ∨ o' = .eq) :
    cmp x z = o.then o' := by
  obtain rfl | rfl | rfl := hsame
  · cases o with
    | lt => exact Std.TransCmp.lt_trans h h'
    | eq => exact (Std.TransCmp.congr_left h).trans h'
    | gt => exact Std.TransCmp.gt_trans h h'
  · exact (Std.TransCmp.congr_left h).trans h'
  · rw [Ordering.then_eq]
    exact (Std.TransCmp.congr_right h').symm.trans h

namespace Value

variable {k : Kind} {a b c : Value}

/-- Two values of one kind compare as their places do. -/
theorem compare?_of_kind (ha : OfKind k a) (hb : OfKind k b) :
    a.compare? b = some (k.line.order (k.line.place a) (k.line.place b)) := by
  cases ha with
  | boolean x =>
      cases hb with
      | boolean y => rfl
  | long x =>
      cases hb with
      | long y => rfl
  | double hx =>
      cases hb with
      | double hy =>
          rename_i x y
          cases x with
          | nan => contradiction
          | number s m =>
              cases y with
              | nan => contradiction
              | number t n => rfl
  | text x =>
      cases hb with
      | text y => rfl
  | date x =>
      cases hb with
      | date y => rfl

theorem compare?_self (ha : OfKind k a) : a.compare? a = some .eq := by
  have := k.line.transitive
  rw [compare?_of_kind ha ha]
  exact congrArg some Std.ReflCmp.compare_self

/-- Every value is of a kind that is something, one thing, and no undefined number. -/
theorem exists_ofKind (hnull : a ≠ .null) (hlist : ∀ items, a ≠ .list items)
    (hnan : a ≠ .double .nan) : ∃ k, OfKind k a := by
  cases a with
  | null => contradiction
  | boolean b => exact ⟨_, .boolean b⟩
  | long n => exact ⟨_, .long n⟩
  | double x => exact ⟨_, .double fun h => hnan (congrArg Value.double h)⟩
  | text s => exact ⟨_, .text s⟩
  | date m => exact ⟨_, .date m⟩
  | list items => exact absurd rfl (hlist items)

theorem compare?_trans (ha : OfKind k a) (hb : OfKind k b) (hc : OfKind k c) {o o' : Ordering}
    (hab : a.compare? b = some o) (hbc : b.compare? c = some o')
    (hsame : o = o' ∨ o = .eq ∨ o' = .eq) : a.compare? c = some (o.then o') := by
  have := k.line.transitive
  rw [compare?_of_kind ha hb, Option.some_inj] at hab
  rw [compare?_of_kind hb hc, Option.some_inj] at hbc
  rw [compare?_of_kind ha hc]
  exact congrArg some (then_trans hab hbc hsame)

end Value

end TreeSift
