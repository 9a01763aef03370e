import TreeSift.Unicode.GeneralCategory
import TreeSift.Unicode.Script
import TreeSift.Unicode.ScriptExtensions
import TreeSift.Unicode.BinaryProperty
import TreeSift.Unicode.Age
import TreeSift.Unicode.BreakClass

/-!
# TreeSift.Unicode.Property

Sets of code points by the name of a property.

1. Names are matched loosely: case, blanks, `_`, `-` and a leading `is` do not count, and characters
   outside ASCII are dropped.
2. A name alone is first a yes-or-no property, then a general category, then a script.  The names
   `cf`, `sc` and `lc` are categories although properties bear them too.
3. A name with a value asks for a category, a script, a script extension, an age or a break class.
-/

namespace TreeSift

namespace Unicode

/-- The form of a property name or value that is compared. -/
def looseName (name : List Char) : List Char :=
  let ignored := fun c => c == ' ' || c == '_' || c == '-' || decide (127 < c.toNat)
  let lower := fun (cs : List Char) => (cs.filter fun c => !ignored c).map Char.toLower
  match name with
  | a :: b :: rest =>
    if a.toLower == 'i' && b.toLower == 's' then
      let r := lower rest
      if r == ['c'] then ['i', 's', 'c'] else r
    else lower name
  | _ => lower name

/-- Whether one of the blank-separated names is the given one, in compared form. -/
def isNamed (names : String) (loose : List Char) : Bool :=
  (CharSet.words names.toList).any fun w => looseName w == loose

/-- The written members of the row with that name. -/
def row? (rows : List (String × String)) (loose : List Char) : Option CharSet :=
  (rows.find? fun r => isNamed r.1 loose).map fun r => CharSet.read r.2

/-- The members of several rows, asked for by their first names. -/
def rowUnion (rows : List (String × String)) (names : List String) : CharSet :=
  CharSet.unions (names.filterMap fun n => row? rows (looseName n.toList))

/-- The categories that are unions of others: their names and the short names of their parts. -/
def groupedCategories : List (String × List String) := [
  ("C Other", ["Cc", "Cf", "Cn", "Co"]),
  ("L Letter", ["Ll", "Lm", "Lo", "Lt", "Lu"]),
  ("LC Cased_Letter", ["Ll", "Lt", "Lu"]),
  ("M Mark Combining_Mark", ["Mc", "Me", "Mn"]),
  ("N Number", ["Nd", "Nl", "No"]),
  ("P Punctuation punct", ["Pc", "Pd", "Pe", "Pf", "Pi", "Po", "Ps"]),
  ("S Symbol", ["Sc", "Sk", "Sm", "So"]),
  ("Z Separator", ["Zl", "Zp", "Zs"])]

/-- A general category, or one of the names `any`, `assigned` and `ascii`. -/
def category? (loose : List Char) : Option CharSet :=
  if loose == "any".toList then some CharSet.full
  else if loose == "ascii".toList then some (CharSet.range 0 0x7F)
  else if loose == "assigned".toList then
    (row? GeneralCategory.rows ['c', 'n']).map CharSet.compl
  else
    match groupedCategories.find? fun g => isNamed g.1 loose with
    | some g => some (rowUnion GeneralCategory.rows g.2)
    | none => row? GeneralCategory.rows loose

/-- The code points assigned in some version or before it. -/
def assignedBy? (loose : List Char) : Option CharSet :=
  let later := Age.rows.dropWhile fun r => !isNamed r.1 loose
  match later with
  | [] => none
  | r :: _ =>
    let earlier := Age.rows.takeWhile fun r => !isNamed r.1 loose
    some (CharSet.unions ((earlier ++ [r]).map fun r => CharSet.read r.2))

/-- The set a name alone stands for. -/
def named? (name : List Char) : Option CharSet :=
  let loose := looseName name
  let isCategory := loose == ['c', 'f'] || loose == ['s', 'c'] || loose == ['l', 'c']
  match if isCategory then none else row? BinaryProperty.rows loose with
  | some s => some s
  | none =>
    match category? loose with
    | some s => some s
    | none => row? Script.rows loose

/-- The set a property with a value stands for. -/
def valued? (property value : List Char) : Option CharSet :=
  let p := looseName property
  let v := looseName value
  let is := fun names => isNamed names p
  if is "gc General_Category" then category? v
  else if is "sc Script" then row? Script.rows v
  else if is "scx Script_Extensions" then row? ScriptExtensions.rows v
  else if is "age" then assignedBy? v
  else if is "GCB Grapheme_Cluster_Break" then row? BreakClass.graphemeRows v
  else if is "WB Word_Break" then row? BreakClass.wordRows v
  else if is "SB Sentence_Break" then row? BreakClass.sentenceRows v
  else none

/-- Decimal digits. -/
def digits : CharSet := rowUnion GeneralCategory.rows ["Nd"]

/-- Blank characters. -/
def blanks : CharSet := rowUnion BinaryProperty.rows ["White_Space"]

/-- The characters words are made of: letters, marks, digits, connectors and joiners. -/
def wordChars : CharSet :=
  CharSet.unions [rowUnion BinaryProperty.rows ["Alphabetic", "Join_Control"],
    rowUnion GeneralCategory.rows ["Mc", "Me", "Mn", "Nd", "Pc"]]

/-- Alphabetic characters. -/
def alphabetic : CharSet := rowUnion BinaryProperty.rows ["Alphabetic"]

/-- Characters of a numeric category. -/
def numeric : CharSet := rowUnion GeneralCategory.rows ["Nd", "Nl", "No"]

/-- Characters that show as something by themselves: not a control, a format character, a private or
unassigned code point, nor a separator other than the ordinary space. -/
def printable : CharSet :=
  (rowUnion GeneralCategory.rows ["Cc", "Cf", "Co", "Cn", "Zl", "Zp", "Zs"]).compl.union
    (CharSet.singleton ' ')

/-- Characters that extend the one before them. -/
def graphemeExtend : CharSet := rowUnion BinaryProperty.rows ["Grapheme_Extend"]

end Unicode

end TreeSift
