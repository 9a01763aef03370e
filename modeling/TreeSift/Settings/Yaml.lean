import TreeSift.Number.Range
import TreeSift.Settings.Basic
import TreeSift.Yaml.Node

/-!
# TreeSift.Settings.Yaml

Settings written in YAML.

1. A plain scalar is nothing if it is empty, `~` or `null`, a truth value if it is `true` or `false`,
   and a number if it reads as one of 64 bits.  Numbers without end and what is no number are
   refused.
2. A key is a scalar, though not nothing; a whole number counts as its decimal digits.  A key that
   comes twice is refused.
3. A tag of the language forces the type of a plain scalar; a text that does not fit is nothing.
   Any other tag makes it text.
4. There is at most one document, and none at all is a table without entries.
-/

namespace TreeSift

namespace Setting

/-- A scalar of YAML settings. -/
inductive YamlScalar where
  | nothing
  | boolean (b : Bool)
  | integer (n : Int)
  /-- A number that is not whole, as it is written. -/
  | decimal (written : String)
  | text (s : String)
deriving DecidableEq

namespace YamlScalar

/-- A whole number of 64 bits. -/
def fits (n : Int) : Bool := decide (Number.IsSigned64 n)

/-- Digits of a base with an optional sign. -/
def inBase? (base : Nat) (cs : List Char) : Option Int :=
  let signed? := match cs with
    | '-' :: r => (Number.readBase? base r).map fun n => -(n : Int)
    | '+' :: r => (Number.readBase? base r).map fun n => (n : Int)
    | r => (Number.readBase? base r).map fun n => (n : Int)
  signed?.filter fits

/-- The whole number that a text with a start of its own is. -/
def marked? (cs : List Char) : Option Int :=
  match cs with
  | '0' :: 'x' :: r => inBase? 16 r
  | '0' :: 'o' :: r => inBase? 8 r
  | '+' :: r => inBase? 10 r
  | _ => none

/-- The words for numbers without end and for what is no number. -/
def isSpecial (s : String) : Bool :=
  [".inf", ".Inf", ".INF", "+.inf", "+.Inf", "+.INF", "-.inf", "-.Inf", "-.INF", ".nan", ".NaN",
    ".NAN"].contains s

/-- Whether a text is a number that need not be whole. -/
def isDecimal (s : String) : Bool :=
  isSpecial s || (s.toList.any Char.isDigit && (Number.read? s.toList).isSome)

/-- What a plain scalar is. -/
def ofPlain (s : String) : YamlScalar :=
  match marked? s.toList with
  | some n => integer n
  | none =>
    if s == "" || s == "~" || s == "null" then nothing
    else if s == "true" then boolean true
    else if s == "false" then boolean false
    else
      match inBase? 10 s.toList with
      | some n => integer n
      | none => if isDecimal s then decimal s else text s

/-- What a plain scalar with a tag of the language is. -/
def ofTagged (name s : String) : YamlScalar :=
  if name == "bool" then
    if s == "true" then boolean true else if s == "false" then boolean false else nothing
  else if name == "int" then
    match inBase? 10 s.toList with
    | some n => integer n
    | none => nothing
  else if name == "float" then (if isDecimal s then decimal s else nothing)
  else if name == "null" then nothing
  else text s

/-- What a scalar is. -/
def ofScalar (tag : Option String) (plain : Bool) (s : String) : YamlScalar :=
  if !plain then text s
  else
    match tag with
    | none => ofPlain s
    | some t =>
      match Text.dropPrefix? "tag:yaml.org,2002:".toList t.toList with
      | some name => ofTagged (String.ofList name) s
      | none => text s

/-- The scalar as a setting. -/
def toSetting? : YamlScalar → Option Setting
  | nothing => some .nothing
  | boolean b => some (.boolean b)
  | integer n => some (.integer n)
  | decimal written => (Number.read? written.toList).map .double
  | text s => some (.text s)

/-- The scalar as a key. -/
def toKey? : YamlScalar → Option String
  | nothing => none
  | boolean b => some (if b then "true" else "false")
  | integer n => some (String.ofList (Json.writeInt n))
  | decimal written => some written
  | text s => some s

end YamlScalar

/-- The node that is meant, an alias being followed. -/
def yamlTarget? (d : Yaml.Document) : Yaml.Node → Option Yaml.Node
  | .reference target => d.target? target
  | n => some n

/-- The scalar that a key is. -/
def yamlKey? (d : Yaml.Document) (n : Yaml.Node) : Option YamlScalar :=
  match yamlTarget? d n with
  | some (.scalar tag plain s) => some (.ofScalar tag plain s)
  | _ => none

/-- The setting that a node denotes, if its collections nest no deeper than the given depth. -/
def ofYamlNode? (d : Yaml.Document) : Nat → Yaml.Node → Option Setting
  | 0, _ => none
  | depth + 1, n =>
    match yamlTarget? d n with
    | some (.scalar tag plain s) => (YamlScalar.ofScalar tag plain s).toSetting?
    | some (.sequence _ items) => (items.mapM (ofYamlNode? d depth)).map .list
    | some (.mapping _ pairs) => do
      let keys ← pairs.mapM fun p => yamlKey? d p.1
      if !decide keys.Nodup then none
      let names ← keys.mapM YamlScalar.toKey?
      let values ← pairs.mapM fun p => ofYamlNode? d depth p.2
      return ofEntries (names.zip values)
    | _ => none

/-- The settings of a YAML text. -/
def ofYaml? (text : List Char) : Option Setting :=
  match Yaml.documents? text with
  | some [] => some (table [])
  | some [d] => ofYamlNode? d (d.root.extent + 1) d.root
  | _ => none

end Setting

end TreeSift
