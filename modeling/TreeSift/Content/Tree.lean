import TreeSift.Content.Node

/-!
# TreeSift.Content.Tree

Content trees mounted at an absolute path.

1. A mount text is normalised: blanks around it and slashes at its end do not count, and a leading
   slash is added.  The root takes the last segment as its name.
2. Every node's path is its parent's, a slash, and its name.
3. A node is found by its absolute path, normalised in the same way; below the root empty segments
   do not count.
-/

namespace TreeSift

/-- A content tree whose nodes all have their paths. -/
structure Tree where
  /-- The node at the mount path. -/
  root : Node
deriving Inhabited, Repr

namespace Tree

/-- An absolute path in the form that is compared. -/
def normalize (path : List Char) : List Char :=
  let trimmed := ((Text.trim path).reverse.dropWhile (· == '/')).reverse
  match trimmed with
  | [] => ['/']
  | '/' :: r => '/' :: r
  | r => '/' :: r

/-- What follows the last slash. -/
def lastSegment (path : List Char) : List Char := (path.reverse.takeWhile (· != '/')).reverse

/-- The tree with a node mounted at a path. -/
def mount (path : String) (root : Node) : Tree :=
  let at' := normalize path.toList
  ⟨Node.place (String.ofList at') { root with name := String.ofList (lastSegment at') }⟩

/-- Why a document is no tree: what stands in place of an object. -/
inductive RootKind where
  | null
  | boolean
  | number
  | string
  | array
deriving DecidableEq, Repr, Inhabited

/-- What stands there, in words. -/
def RootKind.describe : RootKind → String
  | null => "null"
  | boolean => "a boolean"
  | number => "a number"
  | string => "a string"
  | array => "an array"

/-- The tree of a document, mounted at a path. -/
def ofJson (path : String) : Json → Except RootKind Tree
  | .object members => .ok (mount path (Node.fill (Node.named "") members))
  | .null => .error .null
  | .boolean _ => .error .boolean
  | .integer _ => .error .number
  | .float _ => .error .number
  | .string _ => .error .string
  | .array _ => .error .array

/-- The part of a normalised path below the root's, if it is at or below the root. -/
def below? (root path : List Char) : Option (List Char) :=
  if path = root then some []
  else if root = ['/'] then some (path.drop 1)
  else (Text.dropPrefix? root path).bind (Text.dropPrefix? ['/'])

/-- The node at an absolute path. -/
def get? (t : Tree) (path : String) : Option Node :=
  (below? t.root.path.toList (normalize path.toList)).bind fun rest =>
    t.root.descend? ((Node.segments rest).map String.ofList)

end Tree

end TreeSift
