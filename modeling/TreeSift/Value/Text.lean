import TreeSift.Number.Range
import TreeSift.Json.Basic
import TreeSift.Text.Quoted
import TreeSift.Value.Basic

/-!
# TreeSift.Value.Text

Values as text and as JSON.

1. `display` is the text that patterns and substring tests look at: texts as they are, lists in
   brackets.
2. `toJson` keeps kinds where JSON has them; dates become their text, and a double that is not
   finite becomes nothing.
3. `ofJson` is the typed reading of a document: whole numbers beyond 64 bits become doubles, and an
   object is kept as its compact text.
4. `debug` shows the kind of every value; it is meant for logs.
-/

namespace TreeSift

namespace Value

/-- The text of a truth value. -/
def boolText (b : Bool) : List Char := if b then "true".toList else "false".toList

mutual

/-- The text of a value. -/
def display : Value → List Char
  | null => "null".toList
  | boolean b => boolText b
  | long n => Json.writeInt n.toInt
  | double x => NumberLayout.display.write x
  | text s => s.toList
  | date m => m.display
  | list items => '[' :: (displayItems items ++ [']'])

/-- Items separated by commas and blanks. -/
def displayItems : List Value → List Char
  | [] => []
  | [v] => display v
  | v :: vs => display v ++ ',' :: ' ' :: displayItems vs

end

mutual

/-- The developer's view of a value. -/
def debug : Value → List Char
  | null => "Null".toList
  | boolean b => "Boolean(".toList ++ boolText b ++ [')']
  | long n => "Long(".toList ++ Json.writeInt n.toInt ++ [')']
  | double x => "Double(".toList ++ NumberLayout.debug.write x ++ [')']
  | text s => "String(".toList ++ Quoted.text s ++ [')']
  | date m => "Date(".toList ++ m.longForm ++ [')']
  | list items => "List([".toList ++ (debugItems items ++ [']', ')'])

/-- The developer's view of items, separated by commas and blanks. -/
def debugItems : List Value → List Char
  | [] => []
  | [v] => debug v
  | v :: vs => debug v ++ ',' :: ' ' :: debugItems vs

end

/-! ## JSON -/

/-- A whole number of a document: exact if it fits, otherwise the nearest double. -/
def ofInteger (n : Int) : Value :=
  if Number.IsSigned64 n then long (Int64.ofInt n) else double (Binary64.ofInt n)

mutual

/-- The value a document denotes. -/
def ofJson : Json → Value
  | .null => null
  | .boolean b => boolean b
  | .integer n => ofInteger n
  | .float x => double x
  | .string s => text s
  | .array items => list (ofJsonItems items)
  | .object members => text (Json.object members).compact

/-- The values of the items of an array. -/
def ofJsonItems : List Json → List Value
  | [] => []
  | j :: js => ofJson j :: ofJsonItems js

end

mutual

/-- The document a value is written as. -/
def toJson : Value → Json
  | null => .null
  | boolean b => .boolean b
  | long n => .integer n.toInt
  | double x => if x.isFinite then .float x else .null
  | text s => .string s
  | date m => .string (String.ofList m.display)
  | list items => .array (toJsonItems items)

/-- The documents of the items of a list. -/
def toJsonItems : List Value → List Json
  | [] => []
  | v :: vs => toJson v :: toJsonItems vs

end

end Value

end TreeSift
