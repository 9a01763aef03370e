import TreeSift.Number.Read
import TreeSift.Yaml.Scalar

/-!
# TreeSift.Yaml.Token

The tokens of YAML text.

1. Indentation is made visible: where a block is indented more than the one around it a token opens
   it, and where the text falls back one token closes each block that is left.
2. A key is found only at its colon.  So every place where a key may start is remembered, for each
   flow collection around it; a colon on the same line, at most 1024 characters on, makes the
   latest of them a key.  In a block a place at the block's own column has to become one.
3. A document mark and the end of the text close every block.
-/

namespace TreeSift

namespace Yaml

/-- A token. -/
inductive Token where
  /-- The version a document asks for. -/
  | version (major minor : Nat)
  /-- A handle and what it is short for. -/
  | shorthand (handle expansion : String)
  | documentStart
  | documentEnd
  /-- A block of items, or of keys and values, begins. -/
  | openItems
  | openPairs
  | closeBlock
  /-- The brackets and braces of flow collections. -/
  | openSequence
  | closeSequence
  | openMapping
  | closeMapping
  /-- The dash before an item of a block. -/
  | item
  | comma
  | key
  | value
  | reference (name : String)
  | anchor (name : String)
  | tag (handle suffix : String)
  /-- A scalar, and whether it was written without quotes or a block. -/
  | scalar (plain : Bool) (text : String)
deriving DecidableEq, Repr, Inhabited

/-- A place where a key may have started. -/
structure Candidate where
  /-- How many tokens came before. -/
  before : Nat
  /-- Where it is. -/
  place : Place
  /-- Whether a key has to start there. -/
  required : Bool

/-- A scan that has come to a place. -/
structure Scan where
  /-- Where it is. -/
  place : Place
  /-- The tokens so far, last first. -/
  tokens : List Token := []
  /-- The column of the innermost block; minus one outside every block. -/
  block : Int := -1
  /-- The columns of the blocks around it. -/
  outer : List Int := []
  /-- Whether a key may start here. -/
  mayStart : Bool := true
  /-- Where a key may have started: in the innermost flow collection, or in the block. -/
  candidate : Option Candidate := none
  /-- The same for each collection around that one; as many as flow collections are open. -/
  candidates : List (Option Candidate) := []

namespace Scan

/-- Whether a flow collection is open. -/
def inFlow (s : Scan) : Bool := !s.candidates.isEmpty

/-- The scan with one more token. -/
def emit (s : Scan) (t : Token) : Scan := { s with tokens := t :: s.tokens }

/-- The scan so many characters on. -/
def advance (s : Scan) (n : Nat) : Scan := { s with place := s.place.advance n }

/-- Tokens, last first, with one put in after the first `before` of them. -/
def insertAfter (before : Nat) (t : Token) (tokens : List Token) : List Token :=
  let later := tokens.length - before
  tokens.take later ++ t :: tokens.drop later

/-! ## Candidates -/

/-- Whether a candidate is too far back. -/
def isStale (p : Place) (c : Candidate) : Bool :=
  decide (c.place.line < p.line) || decide (c.place.index + 1024 < p.index)

/-- A candidate if it is still near; one that is required may not be lost. -/
def refresh? (p : Place) : Option Candidate → Option (Option Candidate)
  | none => some none
  | some c => if isStale p c then (if c.required then none else some none) else some (some c)

/-- The scan without candidates that are too far back. -/
def dropStale? (s : Scan) : Option Scan := do
  let candidate ← refresh? s.place s.candidate
  let candidates ← s.candidates.mapM (refresh? s.place)
  return { s with candidate, candidates }

/-- The scan without its innermost candidate. -/
def forget? (s : Scan) : Option Scan :=
  match s.candidate with
  | some c => if c.required then none else some { s with candidate := none }
  | none => some s

/-- The scan with a candidate here, if a key may start here. -/
def remember? (s : Scan) : Option Scan :=
  if s.mayStart then do
    let s ← s.forget?
    let required := !s.inFlow && s.block == (s.place.column : Int)
    return { s with candidate := some ⟨s.tokens.length, s.place, required⟩ }
  else some s

/-! ## Blocks -/

/-- Opens a block at a column, unless the innermost one is there already. -/
def openBlock (s : Scan) (column : Nat) (before : Nat) (t : Token) : Scan :=
  if s.inFlow || (column : Int) ≤ s.block then s
  else
    { s with
      block := column
      outer := s.block :: s.outer
      tokens := insertAfter before t s.tokens }

/-- Closes the blocks that are indented more than a column. -/
def closeBlocks (column : Int) : Int → List Int → List Token → Int × List Int × List Token
  | block, [], tokens => (block, [], tokens)
  | block, b :: outer, tokens =>
    if column < block then closeBlocks column b outer (.closeBlock :: tokens)
    else (block, b :: outer, tokens)

/-- The scan with those blocks closed. -/
def fallBack (s : Scan) (column : Int) : Scan :=
  if s.inFlow then s
  else
    let (block, outer, tokens) := closeBlocks column s.block s.outer s.tokens
    { s with block, outer, tokens }

/-! ## What stands between tokens -/

/-- Skips blanks, comments and breaks.  A tab only counts as a blank where no key may start. -/
def skipGap : Nat → Scan → Scan
  | 0, s => s
  | fuel + 1, s =>
    let p := if s.place.column = 0 ∧ s.place.rest.head? = some byteOrderMark then
      s.place.advance 1 else s.place
    let p := p.skipWhile fun c => c == ' ' || ((s.inFlow || !s.mayStart) && c == '\t')
    let p := p.skipComment
    match p.rest with
    | c :: _ =>
      if isBreak c then
        skipGap fuel { s with place := p.takeBreak.2, mayStart := s.mayStart || !s.inFlow }
      else { s with place := p }
    | [] => { s with place := p }

/-! ## Tokens -/

/-- A token of one character, after which a key may or may not start. -/
def sign (s : Scan) (t : Token) (mayStart : Bool) : Scan :=
  { (s.emit t).advance 1 with mayStart }

/-- Opens a flow collection. -/
def openFlow? (s : Scan) (t : Token) : Option Scan := do
  let s ← s.remember?
  return { (s.sign t true) with candidate := none, candidates := s.candidate :: s.candidates }

/-- Closes a flow collection. -/
def closeFlow? (s : Scan) (t : Token) : Option Scan := do
  let s ← s.forget?
  let s := s.sign t false
  return match s.candidates with
    | [] => s
    | c :: cs => { s with candidate := c, candidates := cs }

/-- The dash of an item. -/
def readItem? (s : Scan) : Option Scan := do
  if !s.inFlow && !s.mayStart then none
  let s ← (s.openBlock s.place.column s.tokens.length .openItems).forget?
  return s.sign .item true

/-- The question mark before a key. -/
def readKey? (s : Scan) : Option Scan := do
  if !s.inFlow && !s.mayStart then none
  let s ← (s.openBlock s.place.column s.tokens.length .openPairs).forget?
  return s.sign .key !s.inFlow

/-- The colon after a key. -/
def readValue? (s : Scan) : Option Scan :=
  match s.candidate with
  | some c =>
    let keyed := { s with candidate := none, tokens := insertAfter c.before .key s.tokens }
    some ((keyed.openBlock c.place.column c.before .openPairs).sign .value false)
  | none =>
    if !s.inFlow && !s.mayStart then none
    else
      some ((s.openBlock s.place.column s.tokens.length .openPairs).sign .value !s.inFlow)

/-- The name of an anchor or alias after its sign. -/
def readName? (p : Place) : Option (String × Place) :=
  let (name, q) := p.takeWhile isNameChar
  let ended := atGap q.rest || (q.rest.head?.map fun c => "?:,]\x7d%@`".toList.contains c).getD false
  if name.isEmpty || !ended then none else some (String.ofList name, q)

/-- An anchor or alias. -/
def readAnchor? (s : Scan) (t : String → Token) : Option Scan := do
  let s ← s.remember?
  let (name, place) ← readName? (s.place.advance 1)
  return { s.emit (t name) with place, mayStart := false }

/-! ## Tags -/

/-- A character of a tag; in angle brackets there may be some more. -/
def isTagChar (verbatim : Bool) (c : Char) : Bool :=
  isNameChar c || ";/?:@&=+$.%!~*'()".toList.contains c ||
    (verbatim && ",[]".toList.contains c)

/-- A byte written as `%` and two hexadecimal digits. -/
def readOctet? : List Char → Option (Nat × List Char)
  | '%' :: a :: b :: r => do
    let x ← CharSet.hexDigit? a
    let y ← CharSet.hexDigit? b
    some (x * 16 + y, r)
  | _ => none

/-- Bytes that go on a character, written in the same way. -/
def readOctets? : Nat → Nat → List Char → Option (Nat × List Char)
  | 0, n, cs => some (n, cs)
  | k + 1, n, cs =>
    match readOctet? cs with
    | some (b, r) => if b / 64 = 2 then readOctets? k (n * 64 + b % 64) r else none
    | none => none

/-- The character that escaped bytes stand for in UTF-8, and how many characters it takes. -/
def readTagEscape? (cs : List Char) : Option (Char × Nat) :=
  match readOctet? cs with
  | none => none
  | some (b, r) =>
    let width := if b < 0x80 then some (0, b)
      else if b / 32 = 6 then some (1, b % 32)
      else if b / 16 = 14 then some (2, b % 16)
      else if b / 8 = 30 then some (3, b % 8)
      else none
    match width with
    | none => none
    | some (k, first) =>
      match readOctets? k first r with
      | none => none
      | some (n, _) => (CharSet.scalar? n).map fun c => (c, 3 * (k + 1))

/-- The characters of a tag. -/
def tagRun? (verbatim : Bool) : Nat → List Char → Place → Option (List Char × Place)
  | 0, seen, p => some (seen.reverse, p)
  | fuel + 1, seen, p =>
    match p.rest with
    | [] => some (seen.reverse, p)
    | c :: _ =>
      if !isTagChar verbatim c then some (seen.reverse, p)
      else if c = '%' then
        match readTagEscape? p.rest with
        | some (d, n) => tagRun? verbatim fuel (d :: seen) (p.advance n)
        | none => none
      else tagRun? verbatim fuel (c :: seen) (p.advance 1)

/-- The characters of a tag after a head that was read already. -/
def readTagText? (verbatim : Bool) (head : List Char) (p : Place) :
    Option (List Char × Place) := do
  let (text, q) ← tagRun? verbatim (p.rest.length + 1) [] p
  if head.isEmpty && text.isEmpty then none else some (head.drop 1 ++ text, q)

/-- The handle of a tag: an exclamation mark, and a name and another mark if they follow. -/
def readHandle? (p : Place) : Option (List Char × Place) :=
  match p.rest with
  | '!' :: _ =>
    let (name, q) := (p.advance 1).takeWhile isNameChar
    match q.rest with
    | '!' :: _ => some ('!' :: (name ++ ['!']), q.advance 1)
    | _ => some ('!' :: name, q)
  | _ => none

/-- The handle and the suffix of a tag. -/
def readTagParts? (p : Place) : Option (List Char × List Char × Place) :=
  match p.rest with
  | '!' :: '<' :: _ => do
    let (text, q) ← readTagText? true [] (p.advance 2)
    match q.rest with
    | '>' :: _ => some ([], text, q.advance 1)
    | _ => none
  | _ => do
    let (handle, q) ← readHandle? p
    if 2 ≤ handle.length && handle.getLast? == some '!' then
      let (text, q) ← readTagText? false [] q
      some (handle, text, q)
    else
      let (text, q) ← readTagText? false handle q
      if text.isEmpty then some ([], ['!'], q) else some (['!'], text, q)

/-- A tag. -/
def readTag? (s : Scan) : Option Scan := do
  let s ← s.remember?
  let (handle, suffix, place) ← readTagParts? s.place
  let ended := atGap place.rest || (s.inFlow && place.rest.head? == some ',')
  if !ended then none
  return { s.emit (.tag (String.ofList handle) (String.ofList suffix)) with
    place, mayStart := false }

/-! ## Directives -/

/-- A number of at most nine digits. -/
def readShortNumber? (p : Place) : Option (Nat × Place) :=
  let (digits, q) := p.takeWhile Char.isDigit
  if digits.isEmpty || 9 < digits.length then none else some (Number.digitsValue digits, q)

/-- The directive after its percent sign, up to the end of its line. -/
def readDirective? (p : Place) : Option (Token × Place) := do
  let (name, p) := p.takeWhile isNameChar
  if !atGap p.rest then none
  let p := p.skipWhile isBlank
  if name == "YAML".toList then
    let (major, p) ← readShortNumber? p
    match p.rest with
    | '.' :: _ =>
      let (minor, p) ← readShortNumber? (p.advance 1)
      return (.version major minor, p)
    | _ => none
  else if name == "TAG".toList then
    let (handle, p) ← readHandle? p
    if handle != ['!'] && !(2 ≤ handle.length && handle.getLast? == some '!') then none
    if !(p.rest.head?.map isBlank).getD false then none
    let (expansion, p) ← readTagText? true [] (p.skipWhile isBlank)
    if !atGap p.rest then none
    return (.shorthand (String.ofList handle) (String.ofList expansion), p)
  else none

/-- A directive with what follows it on its line: blanks and a comment. -/
def directive? (s : Scan) : Option Scan := do
  let s ← (s.fallBack (-1)).forget?
  let (t, p) ← readDirective? (s.place.advance 1)
  let p := (p.skipWhile isBlank).skipComment
  if !atLineEnd p.rest then none
  return { s.emit t with place := p.takeBreak.2, mayStart := false }

/-- A document mark. -/
def documentMark? (s : Scan) (t : Token) : Option Scan := do
  let s ← (s.fallBack (-1)).forget?
  return { (s.emit t).advance 3 with mayStart := false }

/-! ## Scalars -/

/-- The scan after a scalar. -/
def scalar (s : Scan) (plain mayStart : Bool) (r : ReadScalar) : Scan :=
  { s.emit (.scalar plain (String.ofList r.text)) with place := r.place, mayStart }

/-- A plain scalar. -/
def plain? (s : Scan) : Option Scan := do
  let s ← s.remember?
  let r ← readPlain? s.inFlow (s.block + 1).toNat s.place
  return s.scalar true r.freshLine r

/-- A quoted scalar. -/
def quoted? (s : Scan) (single : Bool) : Option Scan := do
  let s ← s.remember?
  return s.scalar false false (← readQuoted? single s.place)

/-- A block scalar. -/
def blockScalar? (s : Scan) (literal : Bool) : Option Scan := do
  let s ← s.forget?
  return s.scalar false true (← readBlock? literal s.block s.place)

/-- Whether a plain scalar may start with a character that other characters follow. -/
def startsPlain (inFlow : Bool) (c : Char) (r : List Char) : Bool :=
  if isBlank c then false
  else if c == '-' then !(r.head?.map isBlank).getD false
  else if c == '?' || c == ':' then !inFlow && !atGap r
  else !(",[]\x7b\x7d#&*!|>'\"%@`".toList.contains c)

/-! ## The whole text -/

/-- The token at a place that is neither a gap nor the end. -/
def token? (s : Scan) (c : Char) (r : List Char) : Option Scan :=
  if s.place.column = 0 ∧ c = '%' then s.directive?
  else if s.place.atMarker '-' then s.documentMark? .documentStart
  else if s.place.atMarker '.' then s.documentMark? .documentEnd
  else if c = '[' then s.openFlow? .openSequence
  else if c = '{' then s.openFlow? .openMapping
  else if c = ']' then s.closeFlow? .closeSequence
  else if c = '}' then s.closeFlow? .closeMapping
  else if c = ',' then s.forget?.map fun s => s.sign .comma true
  else if c = '-' ∧ atGap r then s.readItem?
  else if c = '?' ∧ (s.inFlow ∨ atGap r) then s.readKey?
  else if c = ':' ∧ (s.inFlow ∨ atGap r) then s.readValue?
  else if c = '*' then s.readAnchor? .reference
  else if c = '&' then s.readAnchor? .anchor
  else if c = '!' then s.readTag?
  else if c = '|' ∧ !s.inFlow then s.blockScalar? true
  else if c = '>' ∧ !s.inFlow then s.blockScalar? false
  else if c = '\'' then s.quoted? true
  else if c = '"' then s.quoted? false
  else if startsPlain s.inFlow c r then s.plain?
  else none

/-- Scans to the end of the text. -/
def run? : Nat → Scan → Option (List Token)
  | 0, _ => none
  | fuel + 1, s =>
    match (skipGap (s.place.rest.length + 1) s).dropStale? with
    | none => none
    | some s =>
      let s := s.fallBack s.place.column
      match s.place.rest with
      | [] => (s.fallBack (-1)).forget?.map fun s => s.tokens.reverse
      | c :: r =>
        match s.token? c r with
        | none => none
        | some s => run? fuel s

end Scan

/-- The tokens of a text, if it has any reading as tokens. -/
def Token.ofText? (text : List Char) : Option (List Token) :=
  Scan.run? (text.length + 1) { place := .start text }

end Yaml

end TreeSift
