import TreeSift.Charset.Decode
import TreeSift.Content.Tree
import TreeSift.Json.Read
import TreeSift.Text.FileName
import TreeSift.Yaml.Content

/-!
# TreeSift.Content.Document

Content trees from files.

1. A file is UTF-8 text, JSON or YAML by the extension of its name in any case.
2. A file that cannot be read is reported before an extension that says nothing, and that before
   what is wrong with the text.
3. The root of a document has to be an object.
-/

namespace TreeSift

/-- Why content cannot be had. -/
inductive ContentError where
  /-- The file is missing or no text. -/
  | unreadable (path : String)
  | notJson
  | notYaml
  | notAnObject (kind : Tree.RootKind)
  /-- The file's name has no extension that says what it is. -/
  | unknownFormat (path : String)
deriving DecidableEq, Repr, Inhabited

namespace ContentError

/-- The error in words. -/
def message : ContentError → String
  | unreadable path => "failed to read " ++ path
  | notJson => "invalid JSON content"
  | notYaml => "invalid YAML content"
  | notAnObject kind => "content root must be an object, found " ++ kind.describe
  | unknownFormat path =>
    "unknown content format for " ++ path ++ " (expected .json, .yaml or .yml)"

end ContentError

namespace Tree

/-- The tree of a document. -/
def ofDocument (mount : String) (j : Json) : Except ContentError Tree :=
  match ofJson mount j with
  | .ok t => .ok t
  | .error kind => .error (.notAnObject kind)

/-- The tree of JSON text. -/
def ofJsonText (mount : String) (text : List Char) : Except ContentError Tree :=
  match Json.read? text with
  | none => .error .notJson
  | some j => ofDocument mount j

/-- The tree of YAML text. -/
def ofYamlText (mount : String) (text : List Char) : Except ContentError Tree :=
  match Yaml.read? text with
  | none => .error .notYaml
  | some j => ofDocument mount j

/-- The tree of a file, of which only the name and the bytes matter; a file that cannot be opened
has no bytes. -/
def ofFile (mount path : String) (bytes : Option (List UInt8)) : Except ContentError Tree :=
  match bytes.bind Encoding.utf8.read? with
  | some text =>
    match (FileName.extension? path.toList).map fun e => String.ofList (Text.lowerAscii e) with
    | some "json" => ofJsonText mount text
    | some "yaml" => ofYamlText mount text
    | some "yml" => ofYamlText mount text
    | _ => .error (.unknownFormat path)
  | none => .error (.unreadable path)

end Tree

end TreeSift
