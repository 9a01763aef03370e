import TreeSift.Number.Shortest

/-!
# TreeSift.Number.Layout

How a double is written, given its shortest digits.

One record says what a format decides: which decimal exponents are written in full, whether a whole
number ends in `.0`, whether a positive exponent carries a sign, and which way a tie between two
shortest decimals goes.  The three formats of this library are `display`, `json` and `debug`.
-/

namespace TreeSift

/-- What a text format for doubles decides. -/
structure NumberLayout where
  /-- The least and greatest exponent of the first digit that is written without an exponent;
  `none` writes every number in full. -/
  plain : Option (Int × Int)
  /-- Whether a whole number ends in `.0` when written in full. -/
  pointZero : Bool
  /-- Whether a positive exponent has a `+`. -/
  plusSign : Bool
  /-- Whether the upper of two equally near shortest decimals is taken. -/
  tieUp : Bool
deriving Repr

namespace NumberLayout

/-- Values on their own: always in full, a whole number without a point. -/
def display : NumberLayout := ⟨none, false, false, true⟩

/-- Numbers in JSON text: in full from `0.00001` up to sixteen digits before the point. -/
def json : NumberLayout := ⟨some (-5, 15), true, true, false⟩

/-- Numbers in the developer's view of a value. -/
def debug : NumberLayout := ⟨some (-4, 15), true, false, true⟩

/-- The decimal digits of a number, most significant first. -/
def digitChars (n : Nat) : List Char := Nat.toDigits 10 n

/-- Digits and point without an exponent. -/
def writePlain (pointZero : Bool) (d : Decimal) : List Char :=
  let ds := digitChars d.digits
  if 0 ≤ d.exponent then
    ds ++ List.replicate d.exponent.toNat '0' ++ (if pointZero then ['.', '0'] else [])
  else
    let places := (-d.exponent).toNat
    if places < ds.length then
      ds.take (ds.length - places) ++ '.' :: ds.drop (ds.length - places)
    else
      '0' :: '.' :: (List.replicate (places - ds.length) '0' ++ ds)

/-- First digit, point, other digits, exponent. -/
def writeScientific (plusSign : Bool) (d : Decimal) (e : Int) : List Char :=
  let mantissa := match digitChars d.digits with
    | [] => []
    | [x] => [x]
    | x :: xs => x :: '.' :: xs
  let sign := if e < 0 then ['-'] else if plusSign then ['+'] else []
  mantissa ++ 'e' :: (sign ++ digitChars e.natAbs)

/-- A positive finite magnitude. -/
def writePositive (l : NumberLayout) (m : Nat) : List Char :=
  let d := shortestDecimal l.tieUp m
  let e : Int := d.exponent + (digitChars d.digits).length - 1
  match l.plain with
  | none => writePlain l.pointZero d
  | some (lo, hi) =>
    if lo ≤ e ∧ e ≤ hi then writePlain l.pointZero d else writeScientific l.plusSign d e

/-- The text of a double. -/
def write (l : NumberLayout) : Binary64 → List Char
  | .nan => ['N', 'a', 'N']
  | .number neg m =>
    let body :=
      if m.val = Binary64.infiniteMagnitude then ['i', 'n', 'f']
      else if m.val = 0 then (if l.pointZero then ['0', '.', '0'] else ['0'])
      else l.writePositive m.val
    if neg then '-' :: body else body

end NumberLayout

end TreeSift
