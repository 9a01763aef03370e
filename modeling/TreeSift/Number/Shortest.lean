import TreeSift.Number.Binary64

/-!
# TreeSift.Number.Shortest

The fewest decimal digits that read back as a given double.

1. The reals that round to a double are an interval around it; its ends belong to it when the
   significand is even.
2. A *grid* is the set of multiples of a power of ten.  The coarsest grid with a point in the
   interval gives the number of digits, and of its points the nearest is taken.
3. When two points are equally near, `tieUp` decides: the upper one, or the one with the even digit.
-/

namespace TreeSift

/-- A positive decimal number: `digits * 10 ^ exponent`. -/
structure Decimal where
  /-- The digits as a number. -/
  digits : Nat
  /-- The power of ten the last digit counts. -/
  exponent : Int
deriving Repr, DecidableEq, Inhabited

namespace Shortest

/-- The interval of reals that round to one magnitude, in units of `1 / den`.  The middle stands on
its own: at the start of a binade the lower half is only half as long as the upper one. -/
structure Interval where
  /-- The lower end. -/
  low : Nat
  /-- The double itself. -/
  middle : Nat
  /-- The upper end. -/
  high : Nat
  /-- The common denominator. -/
  den : Nat
  /-- Whether the ends belong to the interval. -/
  closed : Bool
deriving Repr

/-- The interval around a positive finite magnitude. -/
def interval (m : Nat) : Interval :=
  let (s, e) := Binary64.split m
  let down := if s = Binary64.fractionRange ∧ 2 * Binary64.fractionRange ≤ m then 1 else 2
  let scale := if e < 2 then 1 else 1 <<< (e - 2).toNat
  let den := if e < 2 then 1 <<< (2 - e).toNat else 1
  ⟨(4 * s - down) * scale, 4 * s * scale, (4 * s + 2) * scale, den, s % 2 == 0⟩

/-- Whether `n` steps of the grid lie in the interval, a step being `up / down` units. -/
def Interval.holds (i : Interval) (up down n : Nat) : Bool :=
  let x := n * up
  if i.closed then decide (i.low * down ≤ x) && decide (x ≤ i.high * down)
  else decide (i.low * down < x) && decide (x < i.high * down)

/-- The point of one grid to write, if the grid has a point in the interval. -/
def onGrid? (tieUp : Bool) (i : Interval) (k : Int) : Option Nat :=
  let up := if 0 ≤ k then i.den * Nat.pow 10 k.toNat else i.den
  let down := if 0 ≤ k then 1 else Nat.pow 10 (-k).toNat
  let n := i.middle * down / up
  let below := i.holds up down n
  let above := i.holds up down (n + 1)
  if below && above then
    let twice := 2 * (i.middle * down - n * up)
    if twice < up then some n
    else if twice > up then some (n + 1)
    else if tieUp || n % 2 == 1 then some (n + 1) else some n
  else if below then some n
  else if above then some (n + 1)
  else none

/-- The first grid with a point in the interval, from coarse to fine. -/
def search (tieUp : Bool) (i : Interval) : Nat → Int → Decimal
  | 0, k => ⟨i.middle * Nat.pow 10 (-k).toNat / i.den, k⟩
  | fuel + 1, k =>
    match onGrid? tieUp i k with
    | some n => if n = 0 then search tieUp i fuel (k - 1) else ⟨n, k⟩
    | none => search tieUp i fuel (k - 1)

/-- The exponent of a grid too coarse to have a positive point below the interval's upper end. -/
def start (i : Interval) : Int :=
  let bits : Int := (i.high.log2 : Int) - (i.den.log2 : Int) + 2
  (bits * 30103) / 100000 + 2

/-- Drops zeros at the end of the digits. -/
def strip : Nat → Decimal → Decimal
  | 0, d => d
  | fuel + 1, d =>
    if d.digits % 10 = 0 ∧ d.digits ≠ 0 then strip fuel ⟨d.digits / 10, d.exponent + 1⟩ else d

end Shortest

/-- The decimal with the fewest digits that rounds to the positive finite magnitude. -/
def shortestDecimal (tieUp : Bool) (m : Nat) : Decimal :=
  let i := Shortest.interval m
  Shortest.strip 400 (Shortest.search tieUp i 24 (Shortest.start i))

end TreeSift
