import TreeSift.Json.Basic
import TreeSift.Number.Read
import TreeSift.Text.CharClass

/-!
# TreeSift.Settings.Basic

Settings, whatever format they were written in.

1. A setting is nothing, a truth value, a whole number, a double, a text, a list, or a table.
2. Settings are read leniently: a count may be written as a truth value, a double or a text, and a
   text may be any scalar but nothing.
-/

namespace TreeSift

/-- A setting. -/
inductive Setting where
  | nothing
  | boolean (b : Bool)
  | integer (n : Int)
  | double (x : Binary64)
  | text (s : String)
  | list (items : List Setting)
  | table (entries : List (String × Setting))
deriving Inhabited, Repr

namespace Setting

/-- The table with entries written one after the other; of equal keys the last one counts. -/
def ofEntries (entries : List (String × Setting)) : Setting := table (Json.ofMembers entries)

/-- The entry of a key. -/
def get? (s : Setting) (key : String) : Option Setting :=
  match s with
  | table es => (es.find? fun e => e.1 == key).map Prod.snd
  | _ => none

/-- The greatest count. -/
def maxCount : Nat := UInt64.size - 1

/-- A whole number as a count. -/
def countOfInt? (n : Int) : Option Nat :=
  if 0 ≤ n ∧ n ≤ maxCount then some n.toNat else none

/-- A double as the nearest count, a half being rounded up; whatever is out of range is the first or
the last count. -/
def countOfDouble (x : Binary64) : Nat :=
  match x with
  | .nan => 0
  | x =>
    match x.round? with
    | some n => min n.toNat maxCount
    | none => if x.compare? Binary64.zero == some .gt then maxCount else 0

/-- A text as a count: a word for yes or no, or digits. -/
def countOfText? (s : String) : Option Nat :=
  match String.ofList (Text.lowerAscii s.toList) with
  | "true" => some 1
  | "on" => some 1
  | "yes" => some 1
  | "false" => some 0
  | "off" => some 0
  | "no" => some 0
  | _ =>
    let digits := match s.toList with
      | '+' :: r => r
      | r => r
    (Number.readBase? 10 digits).bind fun n => countOfInt? n

/-- The count a setting denotes. -/
def asCount? : Setting → Option Nat
  | boolean b => some (if b then 1 else 0)
  | integer n => countOfInt? n
  | double x => some (countOfDouble x)
  | text s => countOfText? s
  | _ => none

/-- The text a setting denotes. -/
def asText? : Setting → Option String
  | boolean b => some (if b then "true" else "false")
  | integer n => some (String.ofList (Json.writeInt n))
  | double x => some (String.ofList (NumberLayout.display.write x))
  | text s => some s
  | _ => none

mutual

/-- The setting as a document. -/
def toJson : Setting → Json
  | nothing => .null
  | boolean b => .boolean b
  | integer n => .integer n
  | double x => if x.isFinite then .float x else .null
  | text s => .string s
  | list items => .array (toJsonItems items)
  | table entries => .object (toJsonEntries entries)

/-- Items as documents. -/
def toJsonItems : List Setting → List Json
  | [] => []
  | s :: ss => toJson s :: toJsonItems ss

/-- Entries as members. -/
def toJsonEntries : List (String × Setting) → List (String × Json)
  | [] => []
  | (k, s) :: es => (k, toJson s) :: toJsonEntries es

end

mutual

/-- A document as settings. -/
def ofJson : Json → Setting
  | .null => nothing
  | .boolean b => boolean b
  | .integer n => integer n
  | .float x => double x
  | .string s => text s
  | .array items => list (ofJsonItems items)
  | .object members => table (ofJsonMembers members)

/-- Items as settings. -/
def ofJsonItems : List Json → List Setting
  | [] => []
  | j :: js => ofJson j :: ofJsonItems js

/-- Members as entries. -/
def ofJsonMembers : List (String × Json) → List (String × Setting)
  | [] => []
  | (k, j) :: ms => (k, ofJson j) :: ofJsonMembers ms

end

end Setting

end TreeSift
