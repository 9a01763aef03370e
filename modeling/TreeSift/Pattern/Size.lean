import TreeSift.Pattern.Basic

/-!
# TreeSift.Pattern.Size

How much room a pattern takes when every repetition is written out.

1. The unit is the byte of a machine that reads UTF-8: a state takes 32 bytes, an edge out of a
   branching state 4 or 8.
2. A set of characters beyond ASCII is read byte by byte.  Its intervals are cut into runs of byte
   ranges, and runs that start alike share states.
3. A pattern that needs more than `maxSize` is refused.
4. The room is an approximation, since a `Pattern` is not the program it is compiled to.  A group
   leaves no trace in a `Pattern` and costs nothing, where the program remembers both its ends; a
   choice between single characters is charged as branches, where the program reads one set; and
   no start is shared between the branches of a choice.  Only patterns whose repetitions write out
   to about `maxSize` can be judged differently for that.
-/

namespace TreeSift

namespace Pattern

/-- The most room a pattern may take. -/
def maxSize : Nat := 10 * 1024 * 1024

/-- The room of one state. -/
def stateSize : Nat := 32

/-- The bytes of a code point in UTF-8. -/
def utf8Bytes (n : Nat) : List Nat :=
  if n < 0x80 then [n]
  else if n < 0x800 then [0xC0 + n / 0x40, 0x80 + n % 0x40]
  else if n < 0x10000 then [0xE0 + n / 0x1000, 0x80 + n / 0x40 % 0x40, 0x80 + n % 0x40]
  else [0xF0 + n / 0x40000, 0x80 + n / 0x1000 % 0x40, 0x80 + n / 0x40 % 0x40, 0x80 + n % 0x40]

/-- The first place at which an interval has to be cut, so that each part is a product of byte
ranges: the start of the second part. -/
def cut? (lo hi : Nat) : Option Nat :=
  if lo ≤ 0x7F ∧ 0x7F < hi then some 0x80
  else if lo ≤ 0x7FF ∧ 0x7FF < hi then some 0x800
  else if lo ≤ 0xFFFF ∧ 0xFFFF < hi then some 0x10000
  else if hi ≤ 0x7F then none
  else
    [0x40, 0x1000, 0x40000].findSome? fun m =>
      if lo / m = hi / m then none
      else if lo % m ≠ 0 then some ((lo / m + 1) * m)
      else if hi % m ≠ m - 1 then some (hi / m * m)
      else none

/-- An interval as runs of byte ranges. -/
def byteRuns : Nat → Nat → Nat → List (List (Nat × Nat))
  | 0, _, _ => []
  | fuel + 1, lo, hi =>
    if hi < lo then []
    else
      match cut? lo hi with
      | some k => byteRuns fuel lo (k - 1) ++ byteRuns fuel k hi
      | none => [(utf8Bytes lo).zip (utf8Bytes hi)]

/-- The intervals of a set without the surrogates. -/
def scalarRanges (set : CharSet) : List (Nat × Nat) :=
  (set.diff (CharSet.range 0xD800 0xDFFF)).ranges

/-- How many items two lists start with in common. -/
def sharedLength {α : Type} [DecidableEq α] : List α → List α → Nat
  | a :: as, b :: bs => if a = b then sharedLength as bs + 1 else 0
  | _, _ => 0

/-- The states of runs in order, those shared with the run before not counted again. -/
def runStates (before : List (Nat × Nat)) : List (List (Nat × Nat)) → Nat
  | [] => 0
  | r :: rs => (r.length - sharedLength before r) + runStates r rs

/-- The room of a set of characters. -/
def setSize (set : CharSet) : Nat :=
  match set.ranges with
  | [] => stateSize
  | [(lo, hi)] =>
    if lo = hi then stateSize * (utf8Bytes lo).length
    else if hi ≤ 0x7F then 2 * stateSize
    else largeSize
  | _ => if set.isAscii then 2 * stateSize + 8 * set.ranges.length else largeSize
where
  /-- The room of a set that is read byte by byte. -/
  largeSize : Nat :=
    let runs := (scalarRanges set).flatMap fun r => byteRuns 64 r.1 r.2
    stateSize * (runStates [] runs + 2) + 4 * runs.length

/-- The room of a pattern, nearly: groups are free and branches share nothing. -/
def size : Pattern → Nat
  | empty => stateSize
  | chars set => setSize set
  | look _ => stateSize
  | seq p q => size p + size q
  | alt p q => size p + size q + stateSize + 8
  | rounds least greatest p =>
    match greatest with
    | some g =>
      if g = 0 then stateSize
      else size p * least + (g - least) * (size p + stateSize + 8) + stateSize
    | none => size p * max least 1 + 2 * stateSize + 16

end Pattern

end TreeSift
