import TreeSift.Number.Range
import TreeSift.Settings.Basic

/-!
# TreeSift.Settings.KeyPath

Keys that lead into tables and lists.

1. A key of a settings file is a path: names parted by dots, and indices in brackets.  A key that
   cannot be read so is a name as it stands.
2. A setting is put where its path leads; what is missing on the way is made up, and what is of the
   wrong kind is replaced.  A negative index counts from the end of the list.
3. A table is merged into the one that is there, any other setting replaces it.
-/

namespace TreeSift

/-- A step on the way to a setting. -/
inductive KeyStep where
  | name (key : String)
  | index (i : Int)
deriving DecidableEq, Repr, Inhabited

namespace KeyPath

/-- A character of a name. -/
def isNameChar (c : Char) : Bool := c.isAlphanum || c == '_' || c == '-'

/-- An index with blanks around it, up to the closing bracket. -/
def readIndex? (cs : List Char) : Option (Int × List Char) :=
  let isGap := fun (c : Char) => c == ' ' || c == '\t'
  let cs := cs.dropWhile isGap
  let (negative, digits) := match cs with
    | '-' :: r => (true, r)
    | r => (false, r)
  let number := digits.takeWhile Char.isDigit
  match (digits.drop number.length).dropWhile isGap with
  | ']' :: r =>
    if number.isEmpty then none
    else
      let n := Number.digitsValue number
      if Number.IsSigned64 n then some (if negative then -(n : Int) else n, r) else none
  | _ => none

/-- The steps after the first. -/
def readSteps? : Nat → List Char → Option (List KeyStep)
  | 0, _ => none
  | fuel + 1, cs =>
    match cs with
    | [] => some []
    | '.' :: r =>
      let name := r.takeWhile isNameChar
      if name.isEmpty then none
      else (readSteps? fuel (r.drop name.length)).map (.name (String.ofList name) :: ·)
    | '[' :: r =>
      match readIndex? r with
      | some (i, r) => (readSteps? fuel r).map (.index i :: ·)
      | none => none
    | _ => none

/-- The first name of a path and the steps after it. -/
def ofKey (key : String) : String × List KeyStep :=
  let cs := key.toList
  let name := cs.takeWhile isNameChar
  if name.isEmpty then (key, [])
  else
    match readSteps? (cs.length + 1) (cs.drop name.length) with
    | some steps => (String.ofList name, steps)
    | none => (key, [])

end KeyPath

namespace Setting

/-- The entries of a table; any other setting has none. -/
def entries : Setting → List (String × Setting)
  | table es => es
  | _ => []

/-- The items of a list; any other setting has none. -/
def items : Setting → List Setting
  | list ss => ss
  | _ => []

/-- Entries with that of one key changed; a missing one counts as nothing. -/
def updateEntry (key : String) (f : Setting → Setting) :
    List (String × Setting) → List (String × Setting)
  | [] => [(key, f nothing)]
  | (k, s) :: es => if k == key then (k, f s) :: es else (k, s) :: updateEntry key f es

/-- Items with one changed; the list grows at either end until there is such an item. -/
def updateItem (i : Int) (f : Setting → Setting) (ss : List Setting) : List Setting :=
  let place := if i < 0 then i + ss.length else i
  let grown := if place < 0 then List.replicate place.natAbs nothing ++ ss
    else ss ++ List.replicate (place.toNat + 1 - ss.length) nothing
  grown.modify place.toNat f

/-- The setting with what some steps lead to changed. -/
def update (f : Setting → Setting) : List KeyStep → Setting → Setting
  | [], s => f s
  | .name key :: steps, s => table (updateEntry key (update f steps) s.entries)
  | .index i :: steps, s => list (updateItem i (update f steps) s.items)

mutual

/-- A setting put over another one. -/
def laidOver (new : Setting) (old : Setting) : Setting :=
  match new with
  | table es => table (entriesLaidOver es old.entries)
  | new => new

/-- Entries put over others, one after the other. -/
def entriesLaidOver : List (String × Setting) → List (String × Setting) → List (String × Setting)
  | [], old => old
  | (k, s) :: es, old => entriesLaidOver es (updateEntry k (laidOver s) old)

end

/-- The settings of a file: the keys of its table are paths. -/
def spread (s : Setting) : Setting :=
  s.entries.foldl (fun acc e =>
    let (name, steps) := KeyPath.ofKey e.1
    acc.update (laidOver e.2) (.name name :: steps)) (table [])

end Setting

end TreeSift
