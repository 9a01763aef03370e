import TreeSift.Settings.Basic
import TreeSift.Text.CharSet

/-!
# TreeSift.Settings.Ini

Settings written as keys and values in sections.

1. A line that starts with `;` or `#` is a comment, and `[name]` begins a section.  Anything else up
   to `=` or `:` is a key, whose value is the rest of the line.
2. Blanks around keys and values do not count.  Values may be in quotes, and quoted parts may follow
   each other.  A backslash escapes.
3. All values are texts.  A section is a table; one that comes again replaces the first.
-/

namespace TreeSift

namespace Ini

/-- What is left of a text, and whether it starts at the start of a line. -/
structure Place where
  rest : List Char
  atLineStart : Bool

/-- The place after blanks and line breaks. -/
def skipBlanks : List Char → Bool → Place
  | [], start => ⟨[], start⟩
  | c :: r, start =>
    if c = '\n' then skipBlanks r true
    else if CharClass.isBlank c then skipBlanks r false
    else ⟨c :: r, start⟩

/-- The character of an escape of four hexadecimal digits. -/
def readCode? (cs : List Char) : Option (Char × List Char) :=
  let ds := cs.take 4
  if ds.length = 4 then
    ((Number.readBase? 16 ds).bind CharSet.scalar?).map fun c => (c, cs.drop 4)
  else none

/-- The characters up to one that ends them, which is not taken; `atEnd` says that the end of the
text ends them too. -/
def readUntil? (ends : Char → Bool) (atEnd : Bool) :
    Nat → List Char → List Char → Option (List Char × List Char)
  | 0, _, _ => none
  | fuel + 1, seen, cs =>
    match cs with
    | [] => if atEnd then some (seen.reverse, []) else none
    | c :: r =>
      if ends c then some (seen.reverse, c :: r)
      else if c = '\\' then
        match r with
        | [] => none
        | e :: r =>
          let go := fun (d : Char) => readUntil? ends atEnd fuel (d :: seen) r
          match e with
          | '0' => go '\x00'
          | 'a' => go '\x07'
          | 'b' => go '\x08'
          | 't' => go '\t'
          | 'r' => go '\r'
          | 'n' => go '\n'
          | '\n' => readUntil? ends atEnd fuel seen r
          | 'x' =>
            match readCode? r with
            | some (d, r) => readUntil? ends atEnd fuel (d :: seen) r
            | none => none
          | e => go e
      else readUntil? ends atEnd fuel (c :: seen) r

/-- A value, part by part; `seen` holds the parts so far. -/
def readParts? : Nat → Bool → List Char → List Char → Option (List Char × List Char)
  | 0, _, _, _ => none
  | fuel + 1, first, seen, cs =>
    let quoted := fun (quote : Char) (r : List Char) =>
      match readUntil? (· == quote) false (r.length + 1) [] r with
      | some (part, r) => readParts? fuel false (seen ++ part) (r.drop 1)
      | none => none
    match cs with
    | [] => some (seen, [])
    | '"' :: r => quoted '"' r
    | '\'' :: r => quoted '\'' r
    | cs =>
      match readUntil? (· == '\n') true (cs.length + 1) [] cs with
      | some (part, r) => some (seen ++ (if first then Text.trim part else Text.trimEnd part), r)
      | none => none

/-- A value after its sign. -/
def readValue? (cs : List Char) : Option (List Char × List Char) :=
  readParts? (cs.length + 1) true [] (cs.dropWhile fun c => c != '\n' && CharClass.isBlank c)

/-- Entries with one added to a section; without a name it is added to none. -/
def add (name : Option String) (key value : String) (es : List (String × Setting)) :
    List (String × Setting) :=
  match name with
  | none => Json.insert es key (.text value)
  | some name =>
    let inner := match (es.find? fun e => e.1 == name).map Prod.snd with
      | some (.table inner) => inner
      | _ => []
    Json.insert es name (.table (Json.insert inner key (.text value)))

/-- The entries of a text. -/
def readInto? : Nat → Option String → List (String × Setting) → Place →
    Option (List (String × Setting))
  | 0, _, _, _ => none
  | fuel + 1, name, es, p =>
    match p.rest with
    | [] => some es
    | c :: r =>
      if c = ';' ∨ c = '#' then
        if !p.atLineStart then none
        else readInto? fuel name es (skipBlanks (r.dropWhile (· != '\n')) false)
      else if c = '[' then
        match readUntil? (· == ']') false (r.length + 1) [] r with
        | some (title, r) =>
          let title := String.ofList (Text.trim title)
          readInto? fuel (some title) (Json.insert es title (.table [])) (skipBlanks (r.drop 1) false)
        | none => none
      else
        match readUntil? (fun c => c == '=' || c == ':') false (p.rest.length + 1) [] p.rest with
        | some (key, r) =>
          let key := Text.trim key
          if key.isEmpty then none
          else
            match readValue? (r.drop 1) with
            | some (value, r) =>
              readInto? fuel name (add name (String.ofList key) (String.ofList value) es)
                (skipBlanks r false)
            | none => none
        | none => none

end Ini

namespace Setting

/-- The settings of a text of keys and values. -/
def ofIni? (text : List Char) : Option Setting :=
  (Ini.readInto? (text.length + 1) none [] (Ini.skipBlanks text true)).map table

end Setting

end TreeSift
