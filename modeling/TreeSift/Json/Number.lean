import TreeSift.Json.Basic

/-!
# TreeSift.Json.Number

Reading the numbers of JSON text.

1. An integer that fits 64 bits, with or without sign, is read exactly; `-0` is the double.
2. Any other number is approximate.  Its digits form a significand of 64 bits: digits that no longer
   fit are dropped, those before the point counting into the exponent.  The significand becomes a
   double, which is multiplied or divided once by the double nearest to a power of ten; a negative
   exponent beyond 308 is taken in steps of 308.
3. A result too large for a double is an error.
-/

namespace TreeSift

namespace Json

/-- The largest significand. -/
def maxSignificand : Nat := UInt64.size - 1

/-- The double nearest to a power of ten. -/
def powerOfTen (k : Nat) : Binary64 := Binary64.ofDecimal false 1 k

/-- Divides by powers of ten, 308 at a time. -/
def scaleDown : Nat → Binary64 → Nat → Binary64
  | 0, f, k => f.div (powerOfTen k)
  | fuel + 1, f, k =>
    if k ≤ 308 then f.div (powerOfTen k)
    else if f.isZero then f
    else scaleDown fuel (f.div (powerOfTen 308)) (k - 308)

/-- The double for a significand and a decimal exponent. -/
def ofParts? (negative : Bool) (significand : Nat) (exponent : Int) : Option Binary64 :=
  let f := Binary64.ofInt significand
  let signed := fun (x : Binary64) => if negative then x.negate else x
  if exponent < 0 then
    some (signed (scaleDown 4 f (min (-exponent).toNat 1540)))
  else if exponent ≤ 308 then
    let x := f.mul (powerOfTen exponent.toNat)
    if x.isFinite then some (signed x) else none
  else if f.isZero then some (signed f)
  else none

/-- Digits taken into a significand until one does not fit: the significand, how many were taken,
and the digits left. -/
def takeDigits (significand taken : Nat) : List Char → Nat × Nat × List Char
  | [] => (significand, taken, [])
  | c :: cs =>
    if c.isDigit then
      let next := significand * 10 + (c.toNat - '0'.toNat)
      if maxSignificand < next then (significand, taken, c :: cs)
      else takeDigits next (taken + 1) cs
    else (significand, taken, c :: cs)

/-- The exponent after its `e`, added to what the digits already count. -/
def readExponent? (negative : Bool) (significand : Nat) (exponent : Int) (cs : List Char) :
    Option (Binary64 × List Char) :=
  let (down, ds) := match cs with
    | '+' :: r => (false, r)
    | '-' :: r => (true, r)
    | r => (false, r)
  let digits := ds.takeWhile Char.isDigit
  let rest := ds.drop digits.length
  let value : Nat := digits.foldl (fun n c => n * 10 + (c.toNat - '0'.toNat)) 0
  if digits.isEmpty then none
  else if 2147483647 < value then
    if !down && significand != 0 then none
    else some (if negative then Binary64.zero.negate else Binary64.zero, rest)
  else
    (ofParts? negative significand (if down then exponent - value else exponent + value)).map
      fun x => (x, rest)

/-- What may follow the digits before the point: nothing, or an exponent. -/
def readEnd? (negative : Bool) (significand : Nat) (exponent : Int) (cs : List Char) :
    Option (Binary64 × List Char) :=
  match cs with
  | 'e' :: r => readExponent? negative significand exponent r
  | 'E' :: r => readExponent? negative significand exponent r
  | r => (ofParts? negative significand exponent).map fun x => (x, r)

/-- The digits after the point, at least one. -/
def readFraction? (negative : Bool) (significand : Nat) (exponent : Int) (cs : List Char) :
    Option (Binary64 × List Char) :=
  let (s, taken, rest) := takeDigits significand 0 cs
  match rest with
  | c :: _ =>
    if c.isDigit then readEnd? negative s (exponent - taken) (rest.dropWhile Char.isDigit)
    else if taken = 0 then none
    else readEnd? negative s (exponent - taken) rest
  | [] => if taken = 0 then none else readEnd? negative s (exponent - taken) rest

/-- A number without its sign. -/
def readUnsigned? (negative : Bool) (cs : List Char) : Option (Json × List Char) :=
  let float := fun (r : Option (Binary64 × List Char)) => r.map fun p => (Json.float p.1, p.2)
  let (s, _, rest) := takeDigits 0 0 cs
  match cs with
  | [] => none
  | first :: more =>
    if !first.isDigit then none
    else if first = '0' ∧ (more.head?.map Char.isDigit).getD false then none
    else
      match rest with
      | '.' :: r => float (readFraction? negative s 0 r)
      | 'e' :: r => float (readExponent? negative s 0 r)
      | 'E' :: r => float (readExponent? negative s 0 r)
      | c :: _ =>
        if c.isDigit then
          let dropped := (rest.takeWhile Char.isDigit).length
          match rest.drop dropped with
          | '.' :: r => float (readFraction? negative s dropped r)
          | r => float (readEnd? negative s dropped r)
        else some (integer s, rest)
      | [] => some (integer s, rest)
where
  /-- An integer with its sign; one that does not fit, and minus zero, is a double. -/
  integer (s : Nat) : Json :=
    if negative then
      if s = 0 ∨ 0x8000000000000000 < s then .float (Binary64.ofInt s).negate else .integer (-(s : Int))
    else .integer s

/-- A number at the start of the text. -/
def readNumber? (cs : List Char) : Option (Json × List Char) :=
  match cs with
  | '-' :: r => readUnsigned? true r
  | r => readUnsigned? false r

end Json

end TreeSift
