import TreeSift.Json.Read
import TreeSift.Text.CharClass

/-!
# TreeSift.Query.Parameter

Parameters written as `name=value`.

1. The first `=` parts name and value.  Blanks around the name do not count, and then neither do
   dollar signs in front of it; something has to be left.
2. A value that is JSON, but not an object, keeps its type.  Anything else is a text.
-/

namespace TreeSift

/-- Why a text is no parameter. -/
inductive ParameterError where
  /-- There is no `=`. -/
  | noValue (text : String)
  /-- Nothing is left of the name. -/
  | noName (text : String)
deriving DecidableEq, Repr, Inhabited

namespace ParameterError

/-- The error in words. -/
def message : ParameterError → String
  | noValue text => "expected name=value, got '" ++ text ++ "'"
  | noName text => "missing parameter name in '" ++ text ++ "'"

end ParameterError

namespace Parameter

/-- The name that is left of what stands before the `=`. -/
def nameOf (cs : List Char) : List Char := (Text.trim cs).dropWhile (· == '$')

/-- The document a value is. -/
def valueOf (cs : List Char) : Json :=
  match Json.read? cs with
  | none => .string (String.ofList cs)
  | some (.object _) => .string (String.ofList cs)
  | some j => j

/-- The name and the value of a written parameter. -/
def ofText (text : List Char) : Except ParameterError (String × Json) :=
  match text.dropWhile (· != '=') with
  | [] => .error (.noValue (String.ofList text))
  | _ :: value =>
    let name := nameOf (text.takeWhile (· != '='))
    if name.isEmpty then .error (.noName (String.ofList text))
    else .ok (String.ofList name, valueOf value)

end Parameter

end TreeSift
