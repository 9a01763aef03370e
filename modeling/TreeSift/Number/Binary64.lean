/-!
# TreeSift.Number.Binary64

Double precision numbers in exact arithmetic.

1. A number that is not `nan` is a sign and a *magnitude*: the biased exponent and the fraction read
   as one natural number.  Magnitudes grow with the absolute value, the last one is infinity.
2. `key` puts sign and magnitude on one line; comparing keys is comparing numbers, and the two zeros
   have the same key.
3. `ofRatio` is the only place where anything is rounded: to the nearest magnitude, a half to the
   even one.  Every conversion and operation below goes through it.
-/

namespace TreeSift

/-- A double precision number; all undefined results are the one `nan`. -/
inductive Binary64 where
  /-- Not a number. -/
  | nan
  /-- A sign and a magnitude from zero up to infinity. -/
  | number (negative : Bool) (magnitude : Fin (0x7FF0000000000000 + 1))
deriving DecidableEq, Repr, Inhabited

namespace Binary64

/-- The magnitude of infinity: the exponent field full, the fraction zero. -/
def infiniteMagnitude : Nat := 0x7FF0000000000000

/-- The number of values of the fraction field. -/
def fractionRange : Nat := 0x10000000000000

/-- The magnitude as a bounded number; anything past infinity is infinity. -/
def clamp (m : Nat) : Fin (0x7FF0000000000000 + 1) :=
  if h : m < 0x7FF0000000000000 + 1 then ⟨m, h⟩ else ⟨0x7FF0000000000000, by decide⟩

/-- Positive zero. -/
def zero : Binary64 := number false ⟨0, by decide⟩

/-- Infinity with a sign. -/
def infinity (negative : Bool) : Binary64 := number negative (clamp infiniteMagnitude)

/-! ## Order -/

/-- The place of a number on the line of all numbers. -/
def signedKey (negative : Bool) (m : Nat) : Int := if negative then -(m : Int) else m

/-- The place of a number on the line; `nan` has none. -/
def key? : Binary64 → Option Int
  | nan => none
  | number neg m => some (signedKey neg m.val)

/-- How two numbers compare; `nan` compares with nothing. -/
def compare? (a b : Binary64) : Option Ordering :=
  match a.key?, b.key? with
  | some x, some y => some (compare x y)
  | _, _ => none

/-- Whether this is not a number. -/
def isNaN : Binary64 → Bool
  | nan => true
  | number _ _ => false

/-- Whether this is neither infinite nor undefined. -/
def isFinite : Binary64 → Bool
  | nan => false
  | number _ m => decide (m.val < infiniteMagnitude)

/-- Whether this is one of the two zeros. -/
def isZero : Binary64 → Bool
  | nan => false
  | number _ m => decide (m.val = 0)

/-- The number with the opposite sign. -/
def negate : Binary64 → Binary64
  | nan => nan
  | number neg m => number (!neg) m

/-! ## Exact value -/

/-- Significand and exponent of a finite magnitude: its value is `significand * 2 ^ exponent`. -/
def split (m : Nat) : Nat × Int :=
  if m / fractionRange = 0 then (m, -1074)
  else (fractionRange + m % fractionRange, (m / fractionRange : Nat) - 1075)

/-- The value of a finite magnitude as a fraction. -/
def ratio (m : Nat) : Nat × Nat :=
  let (s, e) := split m
  if e < 0 then (s, 1 <<< (-e).toNat) else (s <<< e.toNat, 1)

/-- The quotient rounded to the nearest natural number, a half to the even one. -/
def roundHalfEven (num den : Nat) : Nat :=
  let q := num / den
  let r := 2 * (num % den)
  if r < den then q else if r > den then q + 1 else q + q % 2

/-- The exponent of the last binary place kept for the quotient `num / den`. -/
def lastPlace (num den : Nat) : Int :=
  let e : Int := (num.log2 : Int) - (den.log2 : Int)
  let below := if 0 ≤ e then decide (num < den <<< e.toNat) else decide (num <<< (-e).toNat < den)
  max ((if below then e - 1 else e) - 52) (-1074)

/-- The magnitude nearest to the quotient `num / den`. -/
def nearest (num den : Nat) : Nat :=
  if num = 0 then 0
  else
    let q := lastPlace num den
    let s := if 0 ≤ q then roundHalfEven num (den <<< q.toNat)
      else roundHalfEven (num <<< (-q).toNat) den
    (q + 1074).toNat * fractionRange + s

/-- The number nearest to a signed quotient. -/
def ofRatio (negative : Bool) (num den : Nat) : Binary64 :=
  number negative (clamp (nearest num den))

/-- The number nearest to an integer. -/
def ofInt (i : Int) : Binary64 := ofRatio (decide (i < 0)) i.natAbs 1

/-- The number nearest to `digits * 10 ^ exponent`. -/
def ofDecimal (negative : Bool) (digits : Nat) (exponent : Int) : Binary64 :=
  if digits = 0 then number negative (clamp 0)
  else if exponent > 400 then infinity negative
  else if exponent < -400 - (digits.log2 : Int) then number negative (clamp 0)
  else if 0 ≤ exponent then ofRatio negative (digits * Nat.pow 10 exponent.toNat) 1
  else ofRatio negative digits (Nat.pow 10 (-exponent).toNat)

/-! ## Arithmetic -/

/-- The product of two finite numbers, rounded once. -/
def mul (a b : Binary64) : Binary64 :=
  match a, b with
  | number s m, number t n =>
    let (p, q) := ratio m.val
    let (u, v) := ratio n.val
    ofRatio (s != t) (p * u) (q * v)
  | _, _ => nan

/-- The quotient of two finite numbers, rounded once; the divisor is not zero. -/
def div (a b : Binary64) : Binary64 :=
  match a, b with
  | number s m, number t n =>
    let (p, q) := ratio m.val
    let (u, v) := ratio n.val
    ofRatio (s != t) (p * v) (q * u)
  | _, _ => nan

/-- The nearest integer, a half away from zero; infinities and `nan` have none. -/
def round? (a : Binary64) : Option Int :=
  match a with
  | nan => none
  | number neg m =>
    if m.val < infiniteMagnitude then
      let (p, q) := ratio m.val
      let n : Nat := (2 * p + q) / (2 * q)
      some (if neg then -(n : Int) else n)
    else none

end Binary64

end TreeSift
