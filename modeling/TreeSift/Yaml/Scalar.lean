import TreeSift.Json.Read
import TreeSift.Yaml.Place

/-!
# TreeSift.Yaml.Scalar

The texts of YAML scalars.

1. A plain scalar ends before a colon that a gap follows, before a comment, before a document mark,
   in a flow collection before `, [ ] { }`, and otherwise before a line that is not indented more
   than the block it stands in.
2. A single quote is written twice in single quotes; in double quotes a backslash escapes.  Breaks
   in plain and quoted scalars are folded.
3. The indentation of a block scalar is given in its head or found at its first line that is not
   empty.  A literal one keeps its breaks, a folded one folds those between lines that do not start
   with a blank.  Breaks at its end are kept, cut to one, or dropped, as its head says.
-/

namespace TreeSift

namespace Yaml

/-! ## Plain scalars -/

/-- A sign that parts the items of a flow collection. -/
def isFlowSign (c : Char) : Bool := c == ',' || c == '[' || c == ']' || c == '{' || c == '}'

/-- The characters of a plain scalar up to a gap or its end, last first, and the text after them.
A colon directly before a sign of a flow collection is refused inside one. -/
def plainRun? (inFlow : Bool) (seen : List Char) : List Char → Option (List Char × List Char)
  | [] => some (seen, [])
  | c :: r =>
    if isBlank c || isBreak c then some (seen, c :: r)
    else if c = ':' ∧ inFlow ∧ ((r.head?.map fun d => isFlowSign d || d == '?').getD false) then none
    else if (c = ':' ∧ atGap r) ∨ (inFlow ∧ isFlowSign c) then some (seen, c :: r)
    else plainRun? inFlow (c :: seen) r

/-- A scalar that was read: its text, and the place after it. -/
structure ReadScalar where
  /-- The text. -/
  text : List Char
  /-- The place after the scalar. -/
  place : Place
  /-- Whether a new line was begun after its last character. -/
  freshLine : Bool

/-- Reads on over a plain scalar; `seen` holds its text so far, last first, and `gap` what stands
between it and the place. -/
def plainOn? (inFlow : Bool) (margin : Nat) :
    Nat → List Char → Gap → Place → Option ReadScalar
  | 0, seen, gap, p => some ⟨seen.reverse, p, gap.breaks⟩
  | fuel + 1, seen, gap, p =>
    if p.atDocumentMark ∨ p.rest.head? = some '#' then some ⟨seen.reverse, p, gap.breaks⟩
    else
      match plainRun? inFlow [] p.rest with
      | none => none
      | some (run, r) =>
        let q := p.advance run.length
        let seen' := if run.isEmpty then seen else run ++ (gap.fold.reverse ++ seen)
        let gap' := if run.isEmpty then gap else .blanks []
        match r with
        | [] => some ⟨seen'.reverse, q, gap'.breaks⟩
        | c :: _ =>
          if !(isBlank c || isBreak c) then some ⟨seen'.reverse, q, gap'.breaks⟩
          else
            match Gap.read? margin q with
            | none => none
            | some (g, q') =>
              if !inFlow && q'.column < margin then some ⟨seen'.reverse, q', g.breaks⟩
              else plainOn? inFlow margin fuel seen' g q'

/-- The plain scalar at a place.  `margin` is the least column of its further lines. -/
def readPlain? (inFlow : Bool) (margin : Nat) (p : Place) : Option ReadScalar :=
  plainOn? inFlow margin (p.rest.length + 1) [] (.blanks []) p

/-! ## Quoted scalars -/

/-- The character an escape of one letter stands for. -/
def letterEscape? (c : Char) : Option Char :=
  match c with
  | '0' => some '\x00'
  | 'a' => some '\x07'
  | 'b' => some '\x08'
  | 't' => some '\t'
  | '\t' => some '\t'
  | 'n' => some '\n'
  | 'v' => some '\x0b'
  | 'f' => some '\x0c'
  | 'r' => some '\r'
  | 'e' => some '\x1b'
  | ' ' => some ' '
  | '"' => some '"'
  | '/' => some '/'
  | '\\' => some '\\'
  | 'N' => some '\u0085'
  | '_' => some '\u00a0'
  | 'L' => some '\u2028'
  | 'P' => some '\u2029'
  | _ => none

/-- How many hexadecimal digits follow the letter of an escape. -/
def escapeWidth? (c : Char) : Option Nat :=
  match c with
  | 'x' => some 2
  | 'u' => some 4
  | 'U' => some 8
  | _ => none

/-- The number of so many hexadecimal digits. -/
def hexDigits? : Nat → Nat → List Char → Option Nat
  | 0, n, _ => some n
  | _ + 1, _, [] => none
  | k + 1, n, c :: r =>
    match CharSet.hexDigit? c with
    | some d => hexDigits? k (n * 16 + d) r
    | none => none

/-- The escape after its backslash: the character, and how many characters it takes. -/
def readEscape? : List Char → Option (Char × Nat)
  | [] => none
  | c :: r =>
    match letterEscape? c with
    | some d => some (d, 1)
    | none =>
      match escapeWidth? c with
      | none => none
      | some k => ((hexDigits? k 0 r).bind CharSet.scalar?).map fun d => (d, k + 1)

/-- What ends a run of characters inside quotes. -/
inductive QuotedEnd where
  /-- The closing quote. -/
  | closed
  /-- A gap. -/
  | gap
  /-- A break after a backslash, which leaves no trace. -/
  | escapedBreak

/-- The characters inside quotes up to a gap or the closing quote, last first. -/
def quotedRun? (single : Bool) : Nat → List Char → Place → Option (List Char × Place × QuotedEnd)
  | 0, _, _ => none
  | fuel + 1, seen, p =>
    match p.rest with
    | [] => some (seen, p, .gap)
    | c :: r =>
      if isBlank c || isBreak c then some (seen, p, .gap)
      else if single then
        match c, r with
        | '\'', '\'' :: _ => quotedRun? single fuel ('\'' :: seen) (p.advance 2)
        | '\'', _ => some (seen, p, .closed)
        | c, _ => quotedRun? single fuel (c :: seen) (p.advance 1)
      else
        match c with
        | '"' => some (seen, p, .closed)
        | '\\' =>
          if !r.isEmpty && atLineEnd r then some (seen, ((p.advance 1).takeBreak).2, .escapedBreak)
          else
            match readEscape? r with
            | none => none
            | some (d, n) => quotedRun? single fuel (d :: seen) (p.advance (n + 1))
        | c => quotedRun? single fuel (c :: seen) (p.advance 1)

/-- Whether the closing quote comes first. -/
def atQuote (single : Bool) (p : Place) : Bool :=
  p.rest.head? == some (if single then '\'' else '"')

/-- Reads on inside quotes; `seen` holds the text so far, last first. -/
def quotedOn? (single : Bool) : Nat → List Char → Place → Option ReadScalar
  | 0, _, _ => none
  | fuel + 1, seen, p =>
    if p.atDocumentMark ∨ p.rest.isEmpty then none
    else
      match quotedRun? single (p.rest.length + 1) seen p with
      | none => none
      | some (seen, q, stop) =>
        if atQuote single q then some ⟨seen.reverse, q.advance 1, false⟩
        else
          let gap := match stop with
            | .escapedBreak => Gap.lines [] []
            | _ => Gap.blanks []
          match gap.readOn? 0 q.rest.length q with
          | none => none
          | some (g, q) => quotedOn? single fuel (g.fold.reverse ++ seen) q

/-- The quoted scalar at a place. -/
def readQuoted? (single : Bool) (p : Place) : Option ReadScalar :=
  quotedOn? single (p.rest.length + 1) [] (p.advance 1)

/-! ## Block scalars -/

/-- What becomes of the breaks at the end of a block scalar. -/
inductive Chomping where
  | strip
  | clip
  | keep
deriving DecidableEq

/-- The head of a block scalar: how its end is treated, how much it is indented if that is given,
and the place after it. -/
def readBlockHead? (p : Place) : Option (Chomping × Option Nat × Place) :=
  let chomping? := fun (c : Char) =>
    if c = '+' then some Chomping.keep else if c = '-' then some Chomping.strip else none
  let increment? := fun (c : Char) => if c.isDigit then some (c.toNat - '0'.toNat) else none
  let checked := fun (chomping : Chomping) (increment : Option Nat) (p : Place) =>
    if increment = some 0 then none else some (chomping, increment, p)
  match p.rest with
  | c :: r =>
    match chomping? c with
    | some chomping =>
      match r.head?.bind increment? with
      | some n => checked chomping (some n) (p.advance 2)
      | none => checked chomping none (p.advance 1)
    | none =>
      match increment? c with
      | some n =>
        match r.head?.bind chomping? with
        | some chomping => checked chomping (some n) (p.advance 2)
        | none => checked .clip (some n) (p.advance 1)
      | none => checked .clip none p
  | [] => checked .clip none p

/-- The breaks of empty lines, the place of the first line that is not empty, and the greatest
column reached.  Without a given indentation all spaces are taken. -/
def blockBreaks? (indentation : Option Nat) :
    Nat → List Char → Nat → Place → Option (List Char × Nat × Place)
  | 0, seen, widest, p => some (seen, widest, p)
  | fuel + 1, seen, widest, p =>
    let spaces := (p.rest.takeWhile (· == ' ')).length
    let n := match indentation with
      | none => spaces
      | some k => min spaces (k - p.column)
    let q := p.advance n
    let widest := max widest q.column
    let short := match indentation with
      | none => true
      | some k => decide (q.column < k)
    match q.rest with
    | [] => some (seen, widest, q)
    | c :: _ =>
      if short && c == '\t' then none
      else if isBreak c then
        let (b, q) := q.takeBreak
        blockBreaks? indentation fuel (seen ++ b) widest q
      else some (seen, widest, q)

/-- Reads on over the lines of a block scalar.  `last` is the break after the line before, `more`
the breaks of empty lines after it, and `blankBefore` whether that line started with a blank. -/
def blockOn? (literal : Bool) (indentation : Nat) :
    Nat → List Char → List Char → List Char → Bool → Place →
      Option (List Char × List Char × List Char × Place)
  | 0, seen, last, more, _, p => some (seen, last, more, p)
  | fuel + 1, seen, last, more, blankBefore, p =>
    if p.column ≠ indentation ∨ p.rest.isEmpty then some (seen, last, more, p)
    else
      let blank := (p.rest.head?.map isBlank).getD false
      let joined :=
        if !literal && last.head? == some '\n' && !blankBefore && !blank then
          if more.isEmpty then [' '] else more
        else last ++ more
      let (text, q) := p.takeWhile fun c => !isBreak c
      let (last, q) := q.takeBreak
      match blockBreaks? (some indentation) (q.rest.length + 1) [] 0 q with
      | none => none
      | some (more, _, q) =>
        blockOn? literal indentation fuel (text.reverse ++ (joined.reverse ++ seen)) last more
          blank q

/-- The block scalar at a place, in a block of the given indentation; outside every block that is
minus one. -/
def readBlock? (literal : Bool) (block : Int) (p : Place) : Option ReadScalar :=
  match readBlockHead? (p.advance 1) with
  | none => none
  | some (chomping, increment, p) =>
    let p := (p.skipWhile isBlank).skipComment
    if !atLineEnd p.rest then none
    else
      let p := p.takeBreak.2
      let given := increment.map fun n => (if 0 ≤ block then block.toNat + n else n)
      match blockBreaks? given (p.rest.length + 1) [] 0 p with
      | none => none
      | some (breaks, widest, p) =>
        let indentation := given.getD (max widest (max (block + 1).toNat 1))
        match blockOn? literal indentation (p.rest.length + 1) [] [] breaks false p with
        | none => none
        | some (seen, last, more, p) =>
          let ending := match chomping with
            | .strip => []
            | .clip => last
            | .keep => last ++ more
          some ⟨seen.reverse ++ ending, p, true⟩

end Yaml

end TreeSift
