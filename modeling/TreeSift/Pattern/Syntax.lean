import TreeSift.Pattern.Bracket
import TreeSift.Pattern.Match
import TreeSift.Pattern.Size

/-!
# TreeSift.Pattern.Syntax

Pattern text.

1. Text is read from left to right with the open groups on a stack.  A group holds alternatives,
   an alternative holds pieces, and a repetition sign changes the piece before it.
2. Switches hold from where they are set to the end of the group, through its later alternatives.
3. References back, looking ahead or behind, names used twice and repetitions of nothing are
   refused, and so are patterns that nest too deep or take too much room.
4. `whole?` wraps a pattern's text so that it has to match from start to end.
-/

namespace TreeSift

namespace Pattern

/-- One piece of an alternative. -/
structure Piece where
  /-- What it matches. -/
  pattern : Pattern
  /-- How deep it nests. -/
  depth : Nat
  /-- Whether it can be repeated; a change of switches cannot. -/
  repeatable : Bool

/-- A group being read, innermost parts last read first. -/
structure Group where
  /-- The alternatives before the one being read, each with its nesting. -/
  alternatives : List (Pattern × Nat) := []
  /-- The pieces of the alternative being read. -/
  pieces : List Piece := []
  /-- The switches that hold again after the group. -/
  outer : Flags := {}

/-- How far a pattern text has been read. -/
structure Progress where
  /-- The switches that hold now. -/
  flags : Flags := {}
  /-- The names of groups so far. -/
  names : List String := []
  /-- The group being read. -/
  group : Group := {}
  /-- The groups around it, from the inside. -/
  around : List Group := []

namespace Group

/-- The alternative being read, with its nesting. -/
def alternative (g : Group) : Pattern × Nat :=
  let deepest := g.pieces.foldl (fun d p => max d p.depth) 0
  let depth := if g.pieces.length ≤ 1 then deepest else deepest + 1
  (sequence (g.pieces.reverse.map Piece.pattern), depth)

/-- Everything in the group, with its nesting. -/
def content (g : Group) : Pattern × Nat :=
  if g.alternatives.isEmpty then g.alternative
  else
    let all := (g.alternative :: g.alternatives).reverse
    (choice (all.map Prod.fst), all.foldl (fun d a => max d a.2) 0 + 1)

/-- One more piece. -/
def push (g : Group) (p : Piece) : Group := { g with pieces := p :: g.pieces }

end Group

/-! ## Counts, switches and names -/

/-- A number of at most 32 bits, blanks around it skipped. -/
def readCount? (f : Flags) (cs : List Char) : Option (Nat × List Char) :=
  let (digits, rest) := digitsOf (cs.length + 1) (cs.dropWhile CharClass.isBlank)
  let n := Number.digitsValue digits
  if digits.isEmpty || decide (UInt32.size ≤ n) then none
  else some (n, f.skip (rest.dropWhile CharClass.isBlank))
where
  /-- Digits, ignored text between them skipped. -/
  digitsOf : Nat → List Char → List Char × List Char
    | 0, cs => ([], cs)
    | fuel + 1, cs =>
      match cs with
      | [] => ([], [])
      | c :: r =>
        if c.isDigit then
          let (ds, rest) := digitsOf fuel (f.skip r)
          (c :: ds, rest)
        else ([], cs)

/-- The bounds of a repetition after its opening brace, and what follows the closing one. -/
def readBounds? (f : Flags) (cs : List Char) : Option ((Nat × Option Nat) × List Char) := do
  let (least, r) ← readCount? f (f.skip cs)
  match r with
  | '\x7d' :: rest => some ((least, some least), rest)
  | ',' :: r =>
    match f.skip r with
    | '\x7d' :: rest => some ((least, none), rest)
    | r =>
      let (greatest, r) ← readCount? f r
      match r with
      | '\x7d' :: rest => if least ≤ greatest then some ((least, some greatest), rest) else none
      | _ => none
  | _ => none

/-- Switches up to `:` or `)`: the new ones, whether any was named, which mark ended them, and the
rest. -/
def readFlags? (seen : List Char) (on dangling : Bool) (f : Flags) :
    List Char → Option (Flags × Bool × Char × List Char)
  | [] => none
  | c :: r =>
    if c = ':' ∨ c = ')' then (if dangling then none else some (f, !seen.isEmpty, c, r))
    else if seen.contains c then none
    else if c = '-' then readFlags? (c :: seen) false true f r
    else
      match f.set? c on with
      | none => none
      | some f => readFlags? (c :: seen) on false f r

/-- Whether a character may stand in the name of a group. -/
def isNameChar (first : Bool) (c : Char) : Bool :=
  c == '_' ||
    if first then CharClass.isAlphabetic c
    else c == '.' || c == '[' || c == ']' || CharClass.isAlphanumeric c

/-- The name of a group up to `>`. -/
def readName? (cs : List Char) : Option (String × List Char) :=
  let name := cs.takeWhile (· != '>')
  match name, cs.dropWhile (· != '>') with
  | c :: r, _ :: rest =>
    if isNameChar true c && r.all (isNameChar false) then some (String.ofList name, rest) else none
  | _, _ => none

/-! ## Parts of the text -/

/-- A part of the text, which one step takes. -/
inductive Part where
  /-- The start of a group: its name, if it has one, and the switches in it. -/
  | opens (name : Option String) (inside : Flags)
  /-- The end of a group. -/
  | closes
  /-- The end of an alternative. -/
  | bar
  /-- Switches for the rest of the group. -/
  | switches (flags : Flags)
  /-- A piece of the alternative being read. -/
  | piece (piece : Piece)
  /-- A repetition of the piece before. -/
  | again (least : Nat) (greatest : Option Nat)

namespace Part

/-- A piece that is one simple pattern. -/
def simple (pattern : Pattern) : Part := .piece ⟨pattern, 0, true⟩

/-- Whether what follows `(?` or `(?<` would look ahead or behind. -/
def looksAround (cs : List Char) : Bool :=
  match cs with
  | '<' :: r => signed r
  | r => signed r
where
  /-- Whether one of the two signs for it comes next. -/
  signed (cs : List Char) : Bool := cs.head? == some '=' || cs.head? == some '!'

/-- What follows an opening angle bracket. -/
def afterAngle? (cs : List Char) : Option (List Char) :=
  match cs with
  | '<' :: r => some r
  | _ => none

/-- The name that a group starts with, and what follows it; none if it starts with no name. -/
def nameStart? (cs : List Char) : Option (List Char) :=
  match cs with
  | 'P' :: r => afterAngle? r
  | r => afterAngle? r

/-- Switches after `(?`, for the group that starts with them or for the rest of the one around. -/
def readSwitches? (f : Flags) (cs : List Char) : Option (Part × List Char) :=
  match readFlags? [] true false f cs with
  | none => none
  | some (flags, named, mark, rest) =>
    if mark = ':' then some (.opens none flags, rest)
    else if named then some (.switches flags, rest)
    else none

/-- An opening parenthesis and what belongs to it. -/
def readOpen? (f : Flags) (cs : List Char) : Option (Part × List Char) :=
  match f.skip cs with
  | '?' :: r =>
    if looksAround r then none
    else
      match nameStart? r with
      | some r => (readName? r).map fun (name, rest) => (.opens (some name) f, rest)
      | none => readSwitches? f r
  | r => some (.opens none f, r)

/-- The piece that an escape stands for. -/
def ofEscape? (f : Flags) : Escape → Option Part
  | .char c octet => if Escape.isAllowed f c octet then some (simple (f.literal c)) else none
  | .set s => some (simple (.chars s))
  | .look l => some (simple (.look l))

/-- What follows a repetition sign without a mark that makes it reluctant. -/
def afterReluctant (cs : List Char) : List Char :=
  match cs with
  | '?' :: r => r
  | r => r

/-- The part that starts with the given character, and the rest. -/
def read? (f : Flags) (c : Char) (r : List Char) : Option (Part × List Char) :=
  match c with
  | '(' => readOpen? f r
  | ')' => some (.closes, r)
  | '|' => some (.bar, r)
  | '[' =>
    (Bracket.read? f (2 * r.length + 2) r).map fun ((s, d), rest) =>
      (.piece ⟨.chars s, d, true⟩, rest)
  | '?' => some (.again 0 (some 1), afterReluctant r)
  | '*' => some (.again 0 none, afterReluctant r)
  | '+' => some (.again 1 none, afterReluctant r)
  | '\x7b' =>
    (readBounds? f r).map fun ((least, greatest), rest) =>
      (.again least greatest, afterReluctant (f.skip rest))
  | '\\' => (Escape.read? f r).bind fun (e, rest) => (ofEscape? f e).map fun part => (part, rest)
  | '.' => f.dot?.map fun s => (simple (.chars s), r)
  | '^' => some (simple (.look (if f.multiLine then .lineStart f.crlf else .start)), r)
  | '$' => some (simple (.look (if f.multiLine then .lineEnd f.crlf else .stop)), r)
  | c => some (simple (f.literal c), r)

end Part

/-! ## Steps -/

namespace Progress

/-- One more piece of the alternative being read. -/
def push (p : Progress) (piece : Piece) : Progress := { p with group := p.group.push piece }

/-- Starts a group whose content is read under the given switches. -/
def openGroup (p : Progress) (flags : Flags) : Progress :=
  { p with flags, group := { outer := p.flags }, around := p.group :: p.around }

/-- Goes on in the given groups around, with the group being read as a piece. -/
def leave (p : Progress) (g : Group) (gs : List Group) : Progress :=
  let (pattern, depth) := p.group.content
  { p with flags := p.group.outer, group := g.push ⟨pattern, depth + 1, true⟩, around := gs }

/-- Ends the group being read. -/
def closeGroup? (p : Progress) : Option Progress :=
  match p.around with
  | [] => none
  | g :: gs => some (p.leave g gs)

/-- Ends an alternative. -/
def nextAlternative (p : Progress) : Progress :=
  { p with group := { p.group with
      alternatives := p.group.alternative :: p.group.alternatives, pieces := [] } }

/-- Repeats the piece before. -/
def repeatLast? (p : Progress) (least : Nat) (greatest : Option Nat) : Option Progress :=
  match p.group.pieces with
  | [] => none
  | piece :: others =>
    if piece.repeatable then
      let again : Piece := ⟨repeated least greatest piece.pattern, piece.depth + 1, true⟩
      some { p with group := { p.group with pieces := again :: others } }
    else none

/-- The progress after a part; a name may not be given twice. -/
def take? (p : Progress) (part : Part) : Option Progress :=
  match part with
  | .opens none inside => some (p.openGroup inside)
  | .opens (some name) inside =>
    if p.names.contains name then none
    else some ({ p with names := name :: p.names }.openGroup inside)
  | .closes => p.closeGroup?
  | .bar => some p.nextAlternative
  | .switches flags => some ({ p with flags }.push ⟨.empty, 0, false⟩)
  | .piece piece => some (p.push piece)
  | .again least greatest => p.repeatLast? least greatest

/-- One step: the progress after the next part of the text, and the rest. -/
def step? (p : Progress) (c : Char) (r : List Char) : Option (Progress × List Char) :=
  match Part.read? p.flags c r with
  | none => none
  | some (part, rest) => (p.take? part).map fun p => (p, rest)

/-- What has been read, with its nesting, if every group is closed. -/
def content? (p : Progress) : Option (Pattern × Nat) :=
  if p.around.isEmpty then some p.group.content else none

/-- Every step to the end of the text. -/
def run? : Nat → Progress → List Char → Option Progress
  | 0, _, _ => none
  | fuel + 1, p, cs =>
    match p.flags.skip cs with
    | [] => some p
    | c :: r =>
      match p.step? c r with
      | none => none
      | some (p, rest) => run? fuel p rest

end Progress

/-- How deep a pattern may nest. -/
def maxDepth : Nat := 250

/-- What a text reads as, with its nesting. -/
def content? (text : List Char) : Option (Pattern × Nat) :=
  (Progress.run? (text.length + 1) {} text).bind Progress.content?

/-- Whether a pattern of the given nesting is within the limits. -/
def fits (p : Pattern) (depth : Nat) : Bool :=
  decide (depth ≤ maxDepth) && decide (p.size ≤ maxSize)

/-- The pattern a text denotes. -/
def ofText? (text : List Char) : Option Pattern :=
  (content? text).bind fun (p, depth) => if p.fits depth then some p else none

/-- The text of a pattern that matches from the start to the end of a text what the given one
matches. -/
def wholeText (text : List Char) : List Char :=
  ['^', '(', '?', ':'] ++ text ++ [')', '$']

/-- The pattern of a text, to be matched from start to end. -/
def whole? (text : List Char) : Option Pattern := ofText? (wholeText text)

end Pattern

end TreeSift
