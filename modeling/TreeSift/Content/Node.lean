import TreeSift.Filter.Context
import TreeSift.Json.Basic
import TreeSift.Value.Order
import TreeSift.Value.Text

/-!
# TreeSift.Content.Node

Trees of named nodes with properties.

1. A node has a name, an absolute path, properties sorted by key, and children in order.  Two
   children may have the same name; looking one up by name finds the first.
2. A document becomes a tree: objects inside it are children, anything else is a property.  A text
   that is a date with its own offset becomes one, also inside lists.
3. A relative path leads from a node through children to a property.  Empty segments and `.` do not
   count.
-/

namespace TreeSift

/-- A node of a content tree. -/
structure Node where
  /-- The last segment of the path. -/
  name : String
  /-- The absolute path. -/
  path : String
  /-- The properties, sorted by key. -/
  properties : List (String × Value)
  /-- The children in order. -/
  children : List Node
deriving Inhabited, Repr

namespace Node

/-- A node without a place, properties or children. -/
def named (name : String) : Node := ⟨name, "", [], []⟩

/-! ## Properties -/

/-- Sorted properties with one key set. -/
def insertProperty (key : String) (value : Value) : List (String × Value) → List (String × Value)
  | [] => [(key, value)]
  | (k, v) :: ps =>
    match Value.textOrder key.toList k.toList with
    | .lt => (key, value) :: (k, v) :: ps
    | .eq => (key, value) :: ps
    | .gt => (k, v) :: insertProperty key value ps

/-- The node with a property set. -/
def setProperty (n : Node) (key : String) (value : Value) : Node :=
  { n with properties := insertProperty key value n.properties }

/-- The node with one more child at the end. -/
def addChild (n : Node) (child : Node) : Node := { n with children := n.children ++ [child] }

/-- The value of a property. -/
def property? (n : Node) (key : String) : Option Value :=
  (n.properties.find? fun p => p.1 == key).map Prod.snd

/-- The first child with a name. -/
def child? (n : Node) (name : String) : Option Node := n.children.find? fun c => c.name == name

/-! ## Paths -/

/-- The segments of a path that count. -/
def segments (path : List Char) : List (List Char) :=
  (Text.splitAt '/' path).filter fun s => !s.isEmpty

/-- The node that names lead to, one after the other. -/
def descend? (n : Node) : List String → Option Node
  | [] => some n
  | s :: ss => (n.child? s).bind fun c => descend? c ss

/-- The property that segments lead to: children first, the property last. -/
def resolveSegments (n : Node) : List String → Option Value
  | [] => none
  | [s] => n.property? s
  | s :: ss => (n.child? s).bind fun c => resolveSegments c ss

/-- The value a relative path leads to. -/
def resolve (n : Node) (path : String) : Option Value :=
  n.resolveSegments
    (((segments path.toList).filter fun s => s != ['.']).map String.ofList)

/-- What a filter sees of a node. -/
def attributes (n : Node) : Attributes := ⟨n.name, n.path, n.resolve⟩

/-- The path of a child, given its parent's. -/
def childPath (parent name : String) : String :=
  if parent = "/" then "/" ++ name else parent ++ "/" ++ name

mutual

/-- The node at a path, with the paths of everything below. -/
def place (path : String) (n : Node) : Node :=
  match n with
  | ⟨name, _, properties, children⟩ => ⟨name, path, properties, placeAll path children⟩

/-- Children placed below their parent's path. -/
def placeAll (parent : String) : List Node → List Node
  | [] => []
  | c :: cs => place (childPath parent c.name) c :: placeAll parent cs

end

/-! ## Size -/

mutual

/-- The number of nodes of a tree. -/
def size (n : Node) : Nat :=
  match n with
  | ⟨_, _, _, children⟩ => 1 + sizes children

/-- The number of nodes of several trees. -/
def sizes : List Node → Nat
  | [] => 0
  | n :: ns => size n + sizes ns

end

theorem size_eq (n : Node) : n.size = 1 + sizes n.children := by
  cases n
  simp [size]

@[simp]
theorem sizes_nil : sizes [] = 0 := by simp [sizes]

@[simp]
theorem sizes_cons (n : Node) (ns : List Node) : sizes (n :: ns) = n.size + sizes ns := by
  simp [sizes]

@[simp]
theorem sizes_append (as bs : List Node) : sizes (as ++ bs) = sizes as + sizes bs := by
  induction as with
  | nil => simp
  | cons a as ih => simp [ih, Nat.add_assoc]

/-! ## Identity -/

/-- Whether two lists of properties are the same. -/
def sameProperties : List (String × Value) → List (String × Value) → Bool
  | [], [] => true
  | (k, v) :: ps, (l, w) :: qs => k == l && v.same w && sameProperties ps qs
  | _, _ => false

mutual

/-- Whether two trees are the same, paths included. -/
def same (a b : Node) : Bool :=
  match a, b with
  | ⟨n, p, ps, cs⟩, ⟨m, q, qs, ds⟩ =>
    n == m && p == q && sameProperties ps qs && sameAll cs ds

/-- Whether two lists of trees are the same. -/
def sameAll : List Node → List Node → Bool
  | [], [] => true
  | a :: as, b :: bs => same a b && sameAll as bs
  | _, _ => false

end

/-! ## Documents -/

/-- The line that is written for a node: its name, path and properties. -/
def toJson (n : Node) : Json :=
  .object [("name", .string n.name), ("path", .string n.path),
    ("properties", .object (n.properties.map fun p => (p.1, p.2.toJson)))]

mutual

/-- The value of a property in a document. -/
def propertyOf : Json → Value
  | .string s =>
    match Moment.ofZonedText? s.toList with
    | some m => .date m
    | none => .text s
  | .array items => .list (propertiesOf items)
  | j => Value.ofJson j

/-- The values of the items of an array. -/
def propertiesOf : List Json → List Value
  | [] => []
  | j :: js => propertyOf j :: propertiesOf js

end

mutual

/-- The node that a member of a document becomes, if it is an object. -/
def ofMember? (name : String) : Json → Option Node
  | .object members => some (fill (named name) members)
  | _ => none

/-- A node with members of a document added. -/
def fill (n : Node) : List (String × Json) → Node
  | [] => n
  | (key, j) :: ms =>
    match ofMember? key j with
    | some child => fill (n.addChild child) ms
    | none => fill (n.setProperty key (propertyOf j)) ms

end

end Node

end TreeSift
