import TreeSift.Pattern.Basic

/-!
# TreeSift.Pattern.Match

Matching by sets of places.

1. The places of a text of `n` characters are `0 .. n`.  A set of places is a natural number whose
   bit `i` says whether place `i` is in it.
2. `image p S` holds every place that a match of `p` can end at when it starts at a place in `S`.
   It is put together from the images of the parts, so no way of matching is ever tried twice.
3. A repetition without bound is cut off after as many rounds as the text has places: a round that
   takes nothing adds nothing.
-/

namespace TreeSift

namespace Pattern

/-- The set of the places whose index in a list of marks is marked. -/
def placesOf : List Bool → Nat
  | [] => 0
  | b :: bs => (if b then 1 else 0) + 2 * placesOf bs

/-- The places before a character of the set. -/
def placesBefore (set : CharSet) (text : List Char) : Nat := placesOf (text.map set.has)

/-- For every place whether the condition holds there; `before` is the character before the text. -/
def lookMarks (l : Look) (before : Option Char) : List Char → List Bool
  | [] => [l.holds before none]
  | c :: cs => l.holds before (some c) :: lookMarks l (some c) cs

/-- A step taken a number of times, or until it changes nothing. -/
def times (step : Nat → Nat) : Nat → Nat → Nat
  | 0, s => s
  | n + 1, s => if step s = s then s else times step n (step s)

/-- A step taken at most a number of times: the union of all results. -/
def upTo (step : Nat → Nat) (n s : Nat) : Nat := times (fun t => t ||| step t) n s

/-- The places where a match can end that starts at a place in `s`. -/
def image (text : List Char) : Pattern → Nat → Nat
  | empty, s => s
  | chars set, s => (s &&& placesBefore set text) <<< 1
  | look l, s => s &&& placesOf (lookMarks l none text)
  | seq p q, s => image text q (image text p s)
  | alt p q, s => image text p s ||| image text q s
  | rounds least greatest p, s =>
    let most := match greatest with
      | some g => g - least
      | none => text.length + 1
    upTo (image text p) most (times (image text p) least s)

/-- Every place of a text. -/
def allPlaces (text : List Char) : Nat := (1 <<< (text.length + 1)) - 1

/-- Whether the pattern matches some part of the text. -/
def occursIn (p : Pattern) (text : List Char) : Bool := image text p (allPlaces text) != 0

end Pattern

end TreeSift
