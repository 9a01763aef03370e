/-!
# TreeSift.Text.CharSet

Sets of code points as sorted lists of inclusive intervals.

1. `contains` is the view: every operation below is described by what it does to `contains`.
2. `ofRanges` is the only way in: it sorts the intervals and joins those that touch, so a set has
   one written form and the complement can be read off the gaps.
3. The universe is `0 .. 0x10FFFF`.  Surrogates belong to it; no `Char` ever asks about one.

`CharSet.read` takes the text form the property tables use: hexadecimal code points or
`first-last` pairs, separated by blanks.
-/

namespace TreeSift

/-- A set of code points: inclusive intervals, in rising order, none touching the next. -/
structure CharSet where
  /-- The intervals, first and last code point of each. -/
  ranges : List (Nat × Nat)
deriving Repr, DecidableEq, Inhabited

namespace CharSet

/-- The largest code point. -/
def maxCodePoint : Nat := 0x10FFFF

/-- Whether the code point lies in one of the intervals. -/
def contains (s : CharSet) (n : Nat) : Bool :=
  s.ranges.any fun r => decide (r.1 ≤ n) && decide (n ≤ r.2)

/-- Whether the character is in the set. -/
def has (s : CharSet) (c : Char) : Bool := s.contains c.toNat

/-- The set with no member. -/
def empty : CharSet := ⟨[]⟩

/-- Every code point. -/
def full : CharSet := ⟨[(0, maxCodePoint)]⟩

/-- Joins neighbours in a list sorted by first code point. -/
def coalesce : List (Nat × Nat) → List (Nat × Nat)
  | [] => []
  | [r] => [r]
  | r :: t :: ts =>
    if t.1 ≤ r.2 + 1 then coalesce ((r.1, max r.2 t.2) :: ts) else r :: coalesce (t :: ts)
termination_by rs => rs.length

/-- The union of any intervals; one whose ends are crossed is empty. -/
def ofRanges (rs : List (Nat × Nat)) : CharSet :=
  ⟨coalesce ((rs.filter fun r => decide (r.1 ≤ r.2)).mergeSort fun a b => decide (a.1 ≤ b.1))⟩

/-- The code points from `lo` to `hi`. -/
def range (lo hi : Nat) : CharSet := ofRanges [(lo, hi)]

/-- The set of one character. -/
def singleton (c : Char) : CharSet := ⟨[(c.toNat, c.toNat)]⟩

/-- The members of either set. -/
def union (a b : CharSet) : CharSet := ofRanges (a.ranges ++ b.ranges)

/-- The union of many sets. -/
def unions (ss : List CharSet) : CharSet := ofRanges (ss.flatMap CharSet.ranges)

/-- The gaps of a canonical list from `next` on. -/
def gaps (next : Nat) : List (Nat × Nat) → List (Nat × Nat)
  | [] => if next ≤ maxCodePoint then [(next, maxCodePoint)] else []
  | r :: rs => if next < r.1 then (next, r.1 - 1) :: gaps (r.2 + 1) rs else gaps (r.2 + 1) rs

/-- The code points that are not in the set. -/
def compl (s : CharSet) : CharSet := ⟨gaps 0 s.ranges⟩

/-- The members of both sets. -/
def inter (a b : CharSet) : CharSet := (a.compl.union b.compl).compl

/-- The members of the first set that are not in the second. -/
def diff (a b : CharSet) : CharSet := a.inter b.compl

/-- The members of exactly one of the two sets. -/
def symmDiff (a b : CharSet) : CharSet := (a.union b).diff (a.inter b)

/-- Whether every member is an ASCII character. -/
def isAscii (s : CharSet) : Bool := s.ranges.all fun r => decide (r.2 ≤ 0x7F)

/-! ## Reading the written form -/

/-- The character with a code point; surrogates have none. -/
def scalar? (n : Nat) : Option Char := if n.isValidChar then some (Char.ofNat n) else none

/-- The value of a hexadecimal digit in either case. -/
def hexDigit? (c : Char) : Option Nat :=
  if '0' ≤ c ∧ c ≤ '9' then some (c.toNat - '0'.toNat)
  else if 'A' ≤ c ∧ c ≤ 'F' then some (c.toNat - 'A'.toNat + 10)
  else if 'a' ≤ c ∧ c ≤ 'f' then some (c.toNat - 'a'.toNat + 10)
  else none

/-- The number a run of hexadecimal digits denotes; other characters are skipped. -/
def hexNumber (cs : List Char) : Nat :=
  cs.foldl (fun n c => match hexDigit? c with
    | some d => n * 16 + d
    | none => n) 0

/-- One written interval: `first-last`, or one code point alone. -/
def readRange (cs : List Char) : Nat × Nat :=
  let lo := hexNumber (cs.takeWhile (· ≠ '-'))
  match cs.dropWhile (· ≠ '-') with
  | [] => (lo, lo)
  | _ :: hi => (lo, hexNumber hi)

/-- The words of a text: its longest pieces without a blank or a line feed. -/
def words (cs : List Char) : List (List Char) :=
  (cs.splitBy fun a b => !isGap a && !isGap b).filter fun w => !w.any isGap
where
  /-- Whether the character separates words. -/
  isGap (c : Char) : Bool := c == ' ' || c == '\n'

/-- Reads a set from its written form. -/
def read (text : String) : CharSet := ofRanges ((words text.toList).map readRange)

end CharSet

end TreeSift
