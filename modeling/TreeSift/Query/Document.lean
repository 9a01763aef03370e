import TreeSift.Query.Basic
import TreeSift.Settings.Format

/-!
# TreeSift.Query.Document

Queries as documents and in settings files.

1. A document is read strictly: selectors and the encoding are strings or null, the limit is a whole
   number or null, and the parameters are an object.  Members that are not known are ignored.
   An array gives the members in their order.
2. A settings file is read leniently, as settings are.
-/

namespace TreeSift

namespace Query

/-! ## Documents -/

/-- The names of the members, in their order. -/
def memberNames : List String :=
  ["branch_selector", "child_selector", "params", "limit", "encoding"]

/-- The query as a document. -/
def toJson (q : Query) : Json :=
  let text := fun (s : Option String) => (s.map Json.string).getD .null
  let limit := (q.limit.map fun (n : Nat) => Json.integer n).getD .null
  .object (memberNames.zip [text q.branch, text q.child, .object q.parameters, limit,
    text q.encoding])

/-- A string, or nothing. -/
def textOf? : Option Json → Option (Option String)
  | none => some none
  | some .null => some none
  | some (.string s) => some (some s)
  | some _ => none

/-- A limit, or nothing. -/
def limitOf? : Option Json → Option (Option Nat)
  | none => some none
  | some .null => some none
  | some (.integer n) => if 0 ≤ n then some (some n.toNat) else none
  | some _ => none

/-- Parameters, sorted. -/
def parametersOf? : Option Json → Option (List (String × Json))
  | none => some []
  | some (.object members) => some (members.foldl (fun ps p => insertParameter p.1 p.2 ps) [])
  | some _ => none

/-- The query of members that are looked up by name. -/
def ofMembers? (member? : String → Option Json) : Option Query := do
  let branch ← textOf? (member? "branch_selector")
  let child ← textOf? (member? "child_selector")
  let parameters ← parametersOf? (member? "params")
  let limit ← limitOf? (member? "limit")
  let encoding ← textOf? (member? "encoding")
  return { branch, child, parameters, limit, encoding }

/-- The query a document is. -/
def ofJson? : Json → Option Query
  | .object members => ofMembers? (Json.field? (.object members))
  | .array items =>
    if items.length ≤ memberNames.length then
      ofMembers? (Json.field? (.object (memberNames.zip items)))
    else none
  | _ => none

/-! ## Settings -/

/-- A text setting, or nothing. -/
def textSetting? : Option Setting → Option (Option String)
  | none => some none
  | some .nothing => some none
  | some s => s.asText?.map some

/-- A count, or nothing. -/
def limitSetting? : Option Setting → Option (Option Nat)
  | none => some none
  | some .nothing => some none
  | some s => s.asCount?.map some

/-- The query of settings. -/
def ofSettings? (s : Setting) : Option Query := do
  let branch ← textSetting? (s.get? "branch_selector")
  let child ← textSetting? (s.get? "child_selector")
  let parameters ← parametersOf? ((s.get? "params").map Setting.toJson)
  let limit ← limitSetting? (s.get? "limit")
  let encoding ← textSetting? (s.get? "encoding")
  return { branch, child, parameters, limit, encoding }

/-- The query in the file that a path leads to. -/
def load? {m : Type → Type} [Monad m] (readFile : String → m (Option (List UInt8)))
    (path : String) : m (Option Query) := do
  return (← Setting.load? readFile path).bind ofSettings?

end Query

end TreeSift
