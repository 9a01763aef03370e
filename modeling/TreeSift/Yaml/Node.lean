import TreeSift.Yaml.Token

/-!
# TreeSift.Yaml.Node

YAML documents as trees of nodes.

1. A node is a scalar, a sequence, a mapping, or an alias; scalars keep whether they were written
   plain, since only then their text says of what type they are.
2. Tags are expanded: a handle becomes what the document, or the language, says it is short for.  A
   scalar tagged `!` counts as one without a tag.
3. An anchor gets a number when its node begins, namely how many names were known before.  An alias
   stands for the last node with the number its name had last.
4. A document ends at a mark; after the first one every document has to begin with a mark.
-/

namespace TreeSift

namespace Yaml

/-- A node of a document. -/
inductive Node where
  | scalar (tag : Option String) (plain : Bool) (text : String)
  | sequence (tag : Option String) (items : List Node)
  | mapping (tag : Option String) (entries : List (Node × Node))
  /-- Another place of the node with that number. -/
  | reference (target : Nat)
deriving Inhabited, Repr

/-- A document. -/
structure Document where
  /-- The node it consists of. -/
  root : Node
  /-- The nodes with an anchor and their numbers, the last one first. -/
  anchored : List (Nat × Node)
deriving Inhabited, Repr

/-- The node with a number. -/
def Document.target? (d : Document) (n : Nat) : Option Node :=
  (d.anchored.find? fun e => e.1 == n).map Prod.snd

namespace Node

/-- A node that is not written. -/
def empty : Node := scalar none true ""

mutual

/-- How many signs it takes to tell a node: one for a scalar or an alias, and two around what a
collection holds. -/
def extent (n : Node) : Nat :=
  match n with
  | scalar _ _ _ => 1
  | reference _ => 1
  | sequence _ items => 2 + extents items
  | mapping _ entries => 2 + entryExtents entries

/-- The extent of several nodes. -/
def extents : List Node → Nat
  | [] => 0
  | n :: ns => extent n + extents ns

/-- The extent of keys and values. -/
def entryExtents : List (Node × Node) → Nat
  | [] => 0
  | (k, v) :: es => extent k + extent v + entryExtents es

end

end Node

/-! ## Reading tokens -/

/-- What is left to read, and what is known. -/
structure Reading where
  /-- The tokens to come. -/
  tokens : List Token
  /-- Handles and what they are short for. -/
  shorthands : List (String × String) := []
  /-- Names of anchors and their numbers, without repetition. -/
  names : List (String × Nat) := []
  /-- The nodes with an anchor, the last one first. -/
  anchored : List (Nat × Node) := []

/-- A reader of tokens. -/
abbrev Reader := StateT Reading Option

namespace Reader

/-- The next token. -/
def peek : Reader (Option Token) := do return (← get).tokens.head?

/-- Goes on to the token after the next. -/
def skip : Reader Unit := modify fun r => { r with tokens := r.tokens.drop 1 }

/-- Whether the next token is the given one; if so, goes on. -/
def skipIf (t : Token) : Reader Bool := do
  if (← peek) == some t then
    skip
    return true
  else return false

/-- Requires the next token to be the given one. -/
def expect (t : Token) : Reader Unit := do if !(← skipIf t) then failure

/-- The number of an anchor that begins. -/
def number (name : String) : Reader Nat := do
  let r ← get
  let n := r.names.length
  let kept := r.names.filter fun e => e.1 != name
  set { r with names := (name, n) :: kept }
  return n

/-- Keeps the node of an anchor. -/
def keep (number : Option Nat) (node : Node) : Reader Node := do
  match number with
  | none => return node
  | some n =>
    modify fun r => { r with anchored := (n, node) :: r.anchored }
    return node

/-- The alias of a name, which has to be known. -/
def aliasOf (name : String) : Reader Node := do
  match (← get).names.find? fun e => e.1 == name with
  | some (_, n) => return .reference n
  | none => failure

/-- The tag that a handle and a suffix make. -/
def expand (handle suffix : String) : Reader String := do
  if handle.isEmpty then return suffix
  match (← get).shorthands.find? fun e => e.1 == handle with
  | some (_, expansion) => return expansion ++ suffix
  | none => failure

/-- The anchor and the tag of a node, in either order. -/
def properties : Reader (Option String × Option String) := do
  let anchor? : Reader (Option String) := do
    match ← peek with
    | some (.anchor name) =>
      skip
      return some name
    | _ => return none
  let tag? : Reader (Option (String × String)) := do
    match ← peek with
    | some (.tag handle suffix) =>
      skip
      return some (handle, suffix)
    | _ => return none
  let before ← anchor?
  let parts ← tag?
  let anchor ← match before with
    | some name => pure (some name)
    | none => if parts.isSome then anchor? else pure none
  match parts with
  | none => return (anchor, none)
  | some (handle, suffix) => return (anchor, some (← expand handle suffix))

/-- Whether one of some tokens comes next, or none at all. -/
def atAny (ts : List Token) : Reader Bool := do
  match ← peek with
  | none => return false
  | some t => return ts.contains t

mutual

/-- A node.  In a flow collection there are no blocks; the items of a block may stand without a
block of their own where a key or value is wanted. -/
def node : Nat → Bool → Bool → Reader Node
  | 0, _, _ => failure
  | fuel + 1, inBlock, bareItems => do
    match ← peek with
    | some (.reference name) =>
      skip
      aliasOf name
    | _ =>
      let (anchor, tag) ← properties
      let known ← anchor.mapM number
      let content ← match ← peek with
        | some .item =>
          if bareItems then .sequence tag <$> looseItems fuel
          else unwritten anchor tag
        | some (.scalar plain text) =>
          skip
          pure (.scalar (if tag == some "!" then none else tag) plain text)
        | some .openSequence =>
          skip
          .sequence tag <$> flowItems fuel true
        | some .openMapping =>
          skip
          .mapping tag <$> flowPairs fuel true
        | some .openItems =>
          if inBlock then
            skip
            .sequence tag <$> items fuel
          else unwritten anchor tag
        | some .openPairs =>
          if inBlock then
            skip
            .mapping tag <$> pairs fuel
          else unwritten anchor tag
        | _ => unwritten anchor tag
      keep known content
where
  /-- A node of which only an anchor or a tag is written. -/
  unwritten (anchor tag : Option String) : Reader Node :=
    if anchor.isSome || tag.isSome then pure (.scalar tag true "") else failure

/-- The items of a block, up to its end. -/
def items : Nat → Reader (List Node)
  | 0 => failure
  | fuel + 1 => do
    if ← skipIf .item then
      let n ← if ← atAny [.item, .closeBlock] then pure Node.empty else node fuel true false
      return n :: (← items fuel)
    else
      expect .closeBlock
      return []

/-- Items that stand where a block of keys and values goes on. -/
def looseItems : Nat → Reader (List Node)
  | 0 => failure
  | fuel + 1 => do
    if ← skipIf .item then
      let n ← if ← atAny [.item, .key, .value, .closeBlock] then pure Node.empty
        else node fuel true false
      return n :: (← looseItems fuel)
    else return []

/-- The keys and values of a block, up to its end. -/
def pairs : Nat → Reader (List (Node × Node))
  | 0 => failure
  | fuel + 1 => do
    if ← skipIf .key then
      let k ← if ← atAny [.key, .value, .closeBlock] then pure Node.empty else node fuel true true
      let v ←
        if ← skipIf .value then
          if ← atAny [.key, .value, .closeBlock] then pure Node.empty else node fuel true true
        else pure Node.empty
      return (k, v) :: (← pairs fuel)
    else
      expect .closeBlock
      return []

/-- The items of a flow sequence, up to its end. -/
def flowItems : Nat → Bool → Reader (List Node)
  | 0, _ => failure
  | fuel + 1, first => do
    if ← skipIf .closeSequence then return []
    if !first then expect .comma
    if ← skipIf .key then
      let k ←
        if ← atAny [.value, .comma, .closeSequence] then
          skip
          pure Node.empty
        else node fuel false false
      let v ←
        if ← skipIf .value then
          if ← atAny [.comma, .closeSequence] then pure Node.empty else node fuel false false
        else pure Node.empty
      return .mapping none [(k, v)] :: (← flowItems fuel false)
    else if ← skipIf .closeSequence then return []
    else
      let n ← node fuel false false
      return n :: (← flowItems fuel false)

/-- The keys and values of a flow mapping, up to its end. -/
def flowPairs : Nat → Bool → Reader (List (Node × Node))
  | 0, _ => failure
  | fuel + 1, first => do
    if ← skipIf .closeMapping then return []
    if !first then expect .comma
    if ← skipIf .key then
      let k ← if ← atAny [.value, .comma, .closeMapping] then pure Node.empty
        else node fuel false false
      let v ←
        if ← skipIf .value then
          if ← atAny [.comma, .closeMapping] then pure Node.empty else node fuel false false
        else pure Node.empty
      return (k, v) :: (← flowPairs fuel false)
    else if ← skipIf .closeMapping then return []
    else
      let k ← node fuel false false
      return (k, .empty) :: (← flowPairs fuel false)

end

/-! ## Documents -/

/-- The handles every document knows. -/
def commonShorthands : List (String × String) := [("!", "!"), ("!!", "tag:yaml.org,2002:")]

/-- The directives before a document; each may be there once. -/
def directives : Nat → Bool → List (String × String) → Reader (List (String × String))
  | 0, _, _ => failure
  | fuel + 1, versioned, known => do
    match ← peek with
    | some (.version major minor) =>
      skip
      if versioned || major != 1 || (minor != 1 && minor != 2) then failure
      directives fuel true known
    | some (.shorthand handle expansion) =>
      skip
      if known.any fun e => e.1 == handle then failure
      directives fuel versioned ((handle, expansion) :: known)
    | _ => return known

/-- Whether the next token ends a document or begins one, or there is none. -/
def atDocumentEdge : Reader Bool := do
  match ← peek with
  | none => return true
  | some (.version _ _) => return true
  | some (.shorthand _ _) => return true
  | some .documentStart => return true
  | some .documentEnd => return true
  | _ => return false

/-- The documents of a text; `bare` says that the next one needs no mark. -/
def documents : Nat → Bool → Reader (List Document)
  | 0, _ => failure
  | fuel + 1, bare => do
    if !bare && (← skipIf .documentEnd) then documents fuel bare
    else
      let r ← get
      if r.tokens.isEmpty then return []
      let marked ← atDocumentEdge
      let root ←
        if bare && (!marked || r.tokens.head? == some .documentEnd) then
          set { r with shorthands := commonShorthands, names := [], anchored := [] }
          node (4 * r.tokens.length + 4) true false
        else
          let known ← directives (r.tokens.length + 1) false []
          expect .documentStart
          modify fun r =>
            { r with shorthands := known ++ commonShorthands, names := [], anchored := [] }
          if ← atDocumentEdge then pure .empty
          else node (4 * r.tokens.length + 4) true false
      discard (skipIf .documentEnd)
      let d : Document := ⟨root, (← get).anchored⟩
      return d :: (← documents fuel false)

end Reader

/-- The documents of a text, if it has any reading as YAML. -/
def documents? (text : List Char) : Option (List Document) := do
  let tokens ← Token.ofText? text
  let (documents, _) ← (Reader.documents (2 * tokens.length + 2) true).run { tokens }
  return documents

end Yaml

end TreeSift
