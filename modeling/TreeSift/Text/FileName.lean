import TreeSift.Text.CharClass

/-!
# TreeSift.Text.FileName

The names that file paths end in.

1. Slashes part a path into segments; empty segments and `.` do not count.  The last segment is the
   file's name, unless it is `..`.
2. The extension of a name is what follows its last dot, if something precedes that dot.
-/

namespace TreeSift

namespace FileName

/-- The segments of a path that count. -/
def segments (path : List Char) : List (List Char) :=
  (Text.splitAt '/' path).filter fun s => !s.isEmpty && s != ['.']

/-- The file name a path ends in. -/
def ofPath? (path : List Char) : Option (List Char) :=
  match (segments path).getLast? with
  | some name => if name = ['.', '.'] then none else some name
  | none => none

/-- The extension of the file name a path ends in. -/
def extension? (path : List Char) : Option (List Char) :=
  match ofPath? path with
  | none => none
  | some name =>
    match name.reverse.dropWhile (· != '.') with
    | _ :: _ :: _ => some (name.reverse.takeWhile (· != '.')).reverse
    | _ => none

end FileName

end TreeSift
