import TreeSift.Number.Read
import TreeSift.Time.Reading

/-!
# TreeSift.Value.Basic

The values that properties hold and expressions speak of.

1. A value is nothing, a truth value, a whole number of 64 bits, a double, a text, a date, or a list
   of values.
2. Coercions are partial: a value that cannot be read as what is asked for gives `none`.
3. `isTruthy` is total: it decides an operand that stands without a comparison.
-/

namespace TreeSift

/-- A value of a property, a parameter, or an expression. -/
inductive Value where
  | null
  | boolean (b : Bool)
  | long (n : Int64)
  | double (x : Binary64)
  | text (s : String)
  | date (m : Moment)
  | list (items : List Value)
deriving Repr, Inhabited

namespace Value

/-! ## Coercions -/

/-- Whether this is a whole number or a double. -/
def isNumber : Value → Bool
  | long _ => true
  | double _ => true
  | _ => false

/-- The number a value denotes; a text denotes one if it reads as one. -/
def asNumber? : Value → Option Binary64
  | long n => some (Binary64.ofInt n.toInt)
  | double x => some x
  | text s => Number.read? (Text.trim s.toList)
  | _ => none

/-- The truth value a value denotes; the texts `true` and `false` in any case denote one. -/
def asBoolean? : Value → Option Bool
  | boolean b => some b
  | text s =>
    let t := Text.lowerAscii s.toList
    if t = "true".toList then some true else if t = "false".toList then some false else none
  | _ => none

/-- The date a value denotes; a whole number counts milliseconds since 1970. -/
def asDate? : Value → Option Moment
  | date m => some m
  | text s => Moment.ofText? s.toList
  | long n => Moment.ofMillis? n.toInt
  | _ => none

/-- The characters of a text. -/
def asText? : Value → Option String
  | text s => some s
  | _ => none

/-- The items of a list; any other value is its own only item. -/
def elements : Value → List Value
  | list items => items
  | v => [v]

/-- Whether the value counts as true where a condition is wanted. -/
def isTruthy : Value → Bool
  | null => false
  | boolean b => b
  | long n => n != 0
  | double x => !x.isZero && !x.isNaN
  | text s => !s.isEmpty
  | date _ => true
  | list items => !items.isEmpty

/-! ## Identity

Two values are the same if they have the same kind and content.  A number that is not a number
differs from itself, the two zeros are the same, and so are dates of one instant. -/

mutual

/-- Whether two values are the same. -/
def same : Value → Value → Bool
  | null, null => true
  | boolean a, boolean b => a == b
  | long a, long b => a == b
  | double a, double b => a.compare? b == some .eq
  | text a, text b => a == b
  | date a, date b => a.nanos == b.nanos
  | list a, list b => sameItems a b
  | _, _ => false

/-- Whether two lists hold the same values. -/
def sameItems : List Value → List Value → Bool
  | [], [] => true
  | a :: as, b :: bs => same a b && sameItems as bs
  | _, _ => false

end

end Value

end TreeSift
