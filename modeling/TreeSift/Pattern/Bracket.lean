import TreeSift.Pattern.Escape

/-!
# TreeSift.Pattern.Bracket

Sets of characters in brackets.

1. The members are characters, ranges, escapes, named ASCII classes and sets in inner brackets.
   `^` directly after the opening bracket takes the complement.
2. Dashes at the start stand for themselves, and so does a dash before the closing bracket; a
   closing bracket that comes first stands for itself.
3. `&&`, `--` and `~~` take what both sides share, what only the left has, and what just one side
   has.  They group to the left and bind weaker than listing members.
4. Nesting is counted, because patterns that nest too deep are refused.
-/

namespace TreeSift

namespace Pattern

/-- How the two sides of an operator in brackets are combined. -/
inductive SetOperator where
  | intersection
  | difference
  | symmetricDifference
deriving DecidableEq, Repr

/-- The operator of a sign that is written twice. -/
def SetOperator.ofSign? (sign : Char) : Option SetOperator :=
  match sign with
  | '&' => some .intersection
  | '-' => some .difference
  | '~' => some .symmetricDifference
  | _ => none

/-- The members read so far. -/
structure Members where
  /-- What stands left of the last operator, with its nesting. -/
  left : Option (SetOperator × CharSet × Nat) := none
  /-- The members after it. -/
  set : CharSet := CharSet.empty
  /-- How many were listed. -/
  count : Nat := 0
  /-- The deepest nesting among them. -/
  depth : Nat := 0

namespace Members

/-- One more member. -/
def add (m : Members) (s : CharSet) (depth : Nat) : Members :=
  { m with set := m.set.union s, count := m.count + 1, depth := max m.depth depth }

/-- The whole set, and its nesting. -/
def total (f : Flags) (m : Members) : CharSet × Nat :=
  let depth := if m.count ≤ 1 then m.depth else m.depth + 1
  match m.left with
  | none => (m.set, depth)
  | some (op, s, d) =>
    let a := f.fold s
    let b := f.fold m.set
    let c := match op with
      | .intersection => a.inter b
      | .difference => a.diff b
      | .symmetricDifference => a.symmDiff b
    (c, max d depth + 1)

/-- The members after an operator. -/
def operator (f : Flags) (m : Members) (op : SetOperator) : Members :=
  let (s, d) := m.total f
  { left := some (op, s, d) }

end Members

namespace Bracket

/-- The first character after a dash, skipped text not counted, when the dash comes next. -/
def afterDash? (f : Flags) (cs : List Char) : Option Char :=
  if f.extended then
    match cs.dropWhile CharClass.isBlank with
    | '#' :: r => (r.dropWhile CharClass.isBlank).head?
    | r => r.head?
  else cs.head?

/-- One character or escape. -/
def readItem? (f : Flags) (cs : List Char) : Option (Escape × List Char) :=
  match cs with
  | [] => none
  | '\\' :: r => Escape.read? f r
  | c :: r => some (.char c false, r)

/-- A character that may be a member by itself. -/
def member? (f : Flags) (c : Char) (octet : Bool) : Option Nat :=
  if f.unicode || decide (c.toNat < 128) then some c.toNat
  else if octet then none
  else none

/-- What one item stands for by itself. -/
def itemSet? (f : Flags) : Escape → Option CharSet
  | .char c octet => (member? f c octet).map fun n => CharSet.range n n
  | .set s => some s
  | .look _ => none

/-- What two items with a dash between them stand for. -/
def rangeSet? (f : Flags) : Escape → Escape → Option CharSet
  | .char a o, .char b p => do
    let a ← member? f a o
    let b ← member? f b p
    if a ≤ b then some (CharSet.range a b) else none
  | _, _ => none

/-- A member that starts with the given item: its set, or a range up to the item after a dash. -/
def rangeFrom? (f : Flags) (first : Escape) (cs : List Char) : Option (CharSet × List Char) :=
  match f.skip cs with
  | [] => none
  | '-' :: r =>
    if afterDash? f r = some ']' ∨ afterDash? f r = some '-' then
      (itemSet? f first).map fun s => (s, '-' :: r)
    else
      (readItem? f (f.skip r)).bind fun (second, rest) =>
        (rangeSet? f first second).map fun s => (s, rest)
  | r => (itemSet? f first).map fun s => (s, r)

/-- A member: one character, an escape's set, or a range. -/
def readRange? (f : Flags) (cs : List Char) : Option (CharSet × List Char) :=
  (readItem? f cs).bind fun (first, r) => rangeFrom? f first r

/-- A caret, if one comes next, and what follows it. -/
def readCaret (cs : List Char) : Bool × List Char :=
  match cs with
  | '^' :: r => (true, r)
  | r => (false, r)

/-- A named ASCII class, after the opening bracket; none if this is no such class. -/
def namedClass? (cs : List Char) : Option ((Bool × CharSet) × List Char) :=
  match cs with
  | ':' :: r =>
    let (negated, r) := readCaret r
    match r.dropWhile (· != ':') with
    | ':' :: ']' :: rest =>
      (Flags.asciiClass? (String.ofList (r.takeWhile (· != ':')))).map fun s => ((negated, s), rest)
    | _ => none
  | _ => none

/-- The dashes that a set starts with. -/
def leadingDashes (f : Flags) : Nat → Members → List Char → Members × List Char
  | 0, m, cs => (m, cs)
  | fuel + 1, m, cs =>
    match cs with
    | '-' :: r => leadingDashes f fuel (m.add (CharSet.singleton '-') 0) (f.skip r)
    | cs => (m, cs)

/-- A closing bracket before any other member, which is a member too. -/
def leadingBracket (f : Flags) (m : Members) (cs : List Char) : Members × List Char :=
  match cs with
  | ']' :: r => if m.count = 0 then (m.add (CharSet.singleton ']') 0, f.skip r) else (m, ']' :: r)
  | r => (m, r)

/-- The start of a set: whether it is negated, the members that come first, and the rest. -/
def readStart? (f : Flags) (cs : List Char) : Option ((Bool × Members) × List Char) :=
  let (negated, r) := readCaret (f.skip cs)
  let r := if negated then f.skip r else r
  let (m, r) := leadingDashes f (r.length + 1) {} r
  let (m, r) := leadingBracket f m r
  if r.isEmpty then none else some ((negated, m), r)

/-- The operator that comes next, a sign written twice, and what follows it. -/
def setOperator? (cs : List Char) : Option (SetOperator × List Char) :=
  match cs with
  | c :: d :: r => if c = d then (SetOperator.ofSign? c).map fun op => (op, r) else none
  | _ => none

mutual

/-- A set after its opening bracket: its members, its nesting, and what follows. -/
def read? (f : Flags) : Nat → List Char → Option ((CharSet × Nat) × List Char)
  | 0, _ => none
  | fuel + 1, cs =>
    match readStart? f cs with
    | none => none
    | some ((negated, m), r) =>
      match readMembers? f fuel m r with
      | none => none
      | some (m, rest) =>
        let (s, d) := m.total f
        (f.close? negated s).map fun s => ((s, d + 1), rest)

/-- Members up to the closing bracket. -/
def readMembers? (f : Flags) : Nat → Members → List Char → Option (Members × List Char)
  | 0, _, _ => none
  | fuel + 1, m, cs =>
    match f.skip cs with
    | [] => none
    | ']' :: r => some (m, r)
    | '[' :: r =>
      match namedClass? r with
      | some ((negated, s), rest) =>
        match f.close? negated s with
        | none => none
        | some s => readMembers? f fuel (m.add s 0) rest
      | none =>
        match read? f fuel r with
        | none => none
        | some ((s, d), rest) => readMembers? f fuel (m.add s d) rest
    | c :: r =>
      match setOperator? (c :: r) with
      | some (op, rest) => readMembers? f fuel (m.operator f op) rest
      | none =>
        match readRange? f (c :: r) with
        | none => none
        | some (s, rest) => readMembers? f fuel (m.add s 0) rest

end

end Bracket

end Pattern

end TreeSift
