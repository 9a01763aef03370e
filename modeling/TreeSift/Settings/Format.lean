import TreeSift.Charset.Lossy
import TreeSift.Json.Read
import TreeSift.Settings.Ini
import TreeSift.Settings.Json5
import TreeSift.Settings.KeyPath
import TreeSift.Settings.Ron
import TreeSift.Settings.Toml
import TreeSift.Settings.Yaml
import TreeSift.Text.FileName

/-!
# TreeSift.Settings.Format

Settings files.

1. The extension of a file's name says in which format it is written; its case counts.
2. A path that leads to no file may lack its extension: then the extensions are tried in order.  One
   that leads to a file with another extension is refused.
3. The root of a file is a table, whose keys are paths.
-/

namespace TreeSift

namespace Setting

/-- A format that settings are written in. -/
inductive Format where
  | toml
  | json
  | yaml
  | ini
  | ron
  | json5
deriving DecidableEq, Repr

namespace Format

/-- Every extension with its format, in the order they are tried. -/
def extensions : List (String × Format) :=
  [("toml", toml), ("json", json), ("yaml", yaml), ("yml", yaml), ("ini", ini), ("ron", ron),
    ("json5", json5)]

/-- The format that the extension of a path says. -/
def ofPath? (path : String) : Option Format := do
  let extension ← FileName.extension? path.toList
  let found ← extensions.find? fun e => e.1.toList == extension
  return found.2

/-- The settings of a text, whatever their root is. -/
def read? (f : Format) (text : List Char) : Option Setting :=
  match f with
  | toml => ofToml? text
  | json => (Json.read? text).map ofJson
  | yaml => ofYaml? text
  | ini => ofIni? text
  | ron => ofRon? text
  | json5 => ofJson5? text

end Format

/-- The setting if it is a table. -/
def asTable? : Setting → Option Setting
  | table es => some (table es)
  | _ => none

/-- The settings of a file in a format. -/
def ofBytes? (f : Format) (bytes : List UInt8) : Option Setting :=
  ((f.read? (Charset.readLossy bytes)).bind asTable?).map spread

/-- The settings of the first file that is there. -/
def ofCandidates? {m : Type → Type} [Monad m] (readFile : String → m (Option (List UInt8)))
    (path : String) : List (String × Format) → m (Option Setting)
  | [] => pure none
  | (extension, format) :: others => do
    match ← readFile (path ++ "." ++ extension) with
    | some bytes => return ofBytes? format bytes
    | none => ofCandidates? readFile path others

/-- The settings that a path leads to. -/
def load? {m : Type → Type} [Monad m] (readFile : String → m (Option (List UInt8)))
    (path : String) : m (Option Setting) := do
  match ← readFile path with
  | some bytes => return (Format.ofPath? path).bind fun f => ofBytes? f bytes
  | none => ofCandidates? readFile path Format.extensions

end Setting

end TreeSift
