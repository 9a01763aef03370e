import TreeSift.Number.Range
import TreeSift.Json.Basic
import TreeSift.Yaml.Node

/-!
# TreeSift.Yaml.Content

YAML text as a document of the kind that JSON text is.

1. A plain scalar is nothing, a truth value or a number if it reads as one, and otherwise text.
   Whole numbers may have a sign and a base; digits after a leading zero are text.
2. Tags of the language force a type; any other tag that starts with an exclamation mark is refused.
3. Keys are the texts of scalars, whatever they would denote.  Of equal keys the last value counts.
4. There is at most one document, and none at all is nothing.  Collections nest at most 128 deep, and
   aliases are followed at most a hundred times for every sign of the document.
-/

namespace TreeSift

namespace Yaml

/-! ## Plain scalars -/

/-- A sign or nothing, and what follows it. -/
def afterPlus (cs : List Char) : List Char :=
  match cs with
  | '+' :: r => r
  | r => r

/-- The texts for nothing. -/
def isNullWord (s : String) : Bool := s == "null" || s == "Null" || s == "NULL" || s == "~"

/-- The truth value a text is. -/
def boolWord? (s : String) : Option Bool :=
  if s == "true" || s == "True" || s == "TRUE" then some true
  else if s == "false" || s == "False" || s == "FALSE" then some false
  else none

/-- Whether the digits, with or without a sign, only look like a number. -/
def isZeroLed (cs : List Char) : Bool :=
  let digits := match cs with
    | '+' :: r => r
    | '-' :: r => r
    | r => r
  match digits with
  | '0' :: d :: r => (d :: r).all Char.isDigit
  | _ => false

/-- The number of digits in a base that a letter stands for. -/
def inBase? : List Char → Option Nat
  | '0' :: 'x' :: r => Number.readBase? 16 r
  | '0' :: 'o' :: r => Number.readBase? 8 r
  | '0' :: 'b' :: r => Number.readBase? 2 r
  | _ => none

/-- The digits of a whole number in a base or in decimal. -/
def digits? (cs : List Char) : Option Nat :=
  match inBase? cs with
  | some n => some n
  | none => if isZeroLed cs then none else Number.readBase? 10 cs

/-- What a text is as a whole number. -/
inductive WholeNumber where
  /-- It is none. -/
  | no
  /-- It is one, but of more bits than a document can hold. -/
  | tooLarge
  | number (n : Int)

/-- The least number of 128 bits with a sign. -/
def least128 : Int := -0x80000000000000000000000000000000

/-- The greatest number of 128 bits without a sign. -/
def greatest128 : Int := 0xFFFFFFFFFFFFFFFFFFFFFFFFFFFFFFFF

/-- A whole number that may be too large; one of more than 128 bits is none. -/
def WholeNumber.ofInt (n : Int) : WholeNumber :=
  if Number.IsEither64 n then number n
  else if least128 ≤ n ∧ n ≤ greatest128 then tooLarge
  else no

/-- What a text is as a whole number. -/
def wholeNumber (cs : List Char) : WholeNumber :=
  match cs with
  | '-' :: r =>
    match digits? r with
    | some n => .ofInt (-(n : Int))
    | none => .no
  | cs =>
    match digits? (afterPlus cs) with
    | some n => .ofInt n
    | none => .no

/-- The double a text is. -/
def double? (cs : List Char) : Option Binary64 :=
  let unsigned := afterPlus cs
  if cs != unsigned && (unsigned.head? == some '+' || unsigned.head? == some '-') then none
  else
    let word := String.ofList unsigned
    let whole := String.ofList cs
    if word == ".inf" || word == ".Inf" || word == ".INF" then some (Binary64.infinity false)
    else if whole == "-.inf" || whole == "-.Inf" || whole == "-.INF" then
      some (Binary64.infinity true)
    else if whole == ".nan" || whole == ".NaN" || whole == ".NAN" then some .nan
    else
      match Number.read? unsigned with
      | some x => if x.isFinite then some x else none
      | none => none

/-- A double of a document; one that is not finite is nothing. -/
def ofDouble (x : Binary64) : Json := if x.isFinite then .float x else .null

/-- What a plain scalar denotes; `none` if it is a number that no document can hold. -/
def ofPlain? (s : String) : Option Json :=
  let cs := s.toList
  if s.isEmpty || isNullWord s then some .null
  else
    match boolWord? s with
    | some b => some (.boolean b)
    | none =>
      match wholeNumber cs with
      | .number n => some (.integer n)
      | .tooLarge => none
      | .no =>
        if isZeroLed cs then some (.string s)
        else
          match double? cs with
          | some x => some (ofDouble x)
          | none => some (.string s)

/-! ## Nodes -/

/-- Where the tags of the language begin. -/
def languageTag (name : String) : String := "tag:yaml.org,2002:" ++ name

/-- What a scalar denotes. -/
def ofScalar? (tag : Option String) (plain : Bool) (s : String) : Option Json :=
  match tag with
  | none => if plain then ofPlain? s else some (.string s)
  | some t =>
    if t.toList.head? == some '!' then none
    else if t == languageTag "bool" then (boolWord? s).map .boolean
    else if t == languageTag "int" then
      match wholeNumber s.toList with
      | .number n => some (.integer n)
      | _ => none
    else if t == languageTag "float" then (double? s.toList).map ofDouble
    else if t == languageTag "null" then (if isNullWord s then some .null else none)
    else some (.string s)

/-- Whether a collection may have a tag. -/
def allowsTag (tag : Option String) : Bool :=
  match tag with
  | some t => t.toList.head? != some '!'
  | none => true

/-- A computation that counts the aliases it follows. -/
abbrev Counted := StateT Nat Option

namespace Document

/-- The node that is meant, an alias being followed; it may be followed only so often. -/
def follow (d : Document) (limit : Nat) (n : Node) : Counted Node :=
  match n with
  | .reference target => do
    modify (· + 1)
    if limit < (← get) then failure
    match d.target? target with
    | some n => return n
    | none => failure
  | n => pure n

/-- The text of a key. -/
def keyOf (d : Document) (limit : Nat) (n : Node) : Counted String := do
  match ← d.follow limit n with
  | .scalar _ _ text => return text
  | _ => failure

/-- What a node denotes, if its collections nest no deeper than the given depth. -/
def valueOf (d : Document) (limit : Nat) : Nat → Node → Counted Json
  | depth, n => do
    match ← d.follow limit n with
    | .scalar tag plain text =>
      match ofScalar? tag plain text with
      | some j => return j
      | none => failure
    | .sequence tag items =>
      match depth with
      | 0 => failure
      | depth + 1 =>
        if !allowsTag tag then failure
        return .array (← items.mapM (valueOf d limit depth))
    | .mapping tag entries =>
      match depth with
      | 0 => failure
      | depth + 1 =>
        if !allowsTag tag then failure
        let members ← entries.mapM fun e => do
          let k ← d.keyOf limit e.1
          return (k, ← valueOf d limit depth e.2)
        return .object (Json.ofMembers members)
    | .reference _ => failure

/-- The deepest nesting of collections. -/
def maxDepth : Nat := 128

/-- What a document denotes. -/
def toJson? (d : Document) : Option Json :=
  ((d.valueOf (100 * d.root.extent) maxDepth d.root).run 0).map Prod.fst

end Document

/-- The document a text denotes. -/
def read? (text : List Char) : Option Json :=
  if !text.all isAllowed then none
  else
    match documents? text with
    | some [] => some .null
    | some [d] => d.toJson?
    | _ => none

end Yaml

end TreeSift
