/-!
# The attribute tree

Every resource shows its attributes as a tree: a container has named children,
an attribute holds a text. A path is the list of names on the way down; a name
goes to the first child that has it. `find?` reads the node at a path and
`replace?` overwrites it; both succeed on the same paths.
-/

namespace DeviceBroker

/-- A node of the attribute tree. -/
inductive TreeNode where
  | attribute (value : String)
  | container (children : List (String × TreeNode))

namespace TreeNode

def child? (name : String) : List (String × TreeNode) → Option TreeNode
  | [] => none
  | (n, node) :: rest => if n = name then some node else child? name rest

/-- The children with the first one of a name changed, if the change succeeds. -/
def changeChild? (name : String) (change : TreeNode → Option TreeNode) :
    List (String × TreeNode) → Option (List (String × TreeNode))
  | [] => none
  | (n, node) :: rest =>
    if n = name then (change node).map fun node => (n, node) :: rest
    else (changeChild? name change rest).map ((n, node) :: ·)

def find? : List String → TreeNode → Option TreeNode
  | [], node => some node
  | name :: path, .container children => (child? name children).bind (find? path)
  | _ :: _, .attribute _ => none

def replace? (new : TreeNode) : List String → TreeNode → Option TreeNode
  | [], _ => some new
  | name :: path, .container children =>
    (changeChild? name (replace? new path) children).map .container
  | _ :: _, .attribute _ => none

@[simp] theorem find?_nil (node : TreeNode) : find? [] node = some node := rfl

theorem find?_container (name : String) (path : List String)
    (children : List (String × TreeNode)) :
    find? (name :: path) (.container children) =
      (child? name children).bind (find? path) := rfl

@[simp] theorem find?_attribute (name : String) (path : List String) (value : String) :
    find? (name :: path) (.attribute value) = none := rfl

@[simp] theorem replace?_nil (new node : TreeNode) : replace? new [] node = some new := rfl

theorem replace?_container (new : TreeNode) (name : String) (path : List String)
    (children : List (String × TreeNode)) :
    replace? new (name :: path) (.container children) =
      (changeChild? name (replace? new path) children).map .container := rfl

@[simp] theorem replace?_attribute (new : TreeNode) (name : String) (path : List String)
    (value : String) : replace? new (name :: path) (.attribute value) = none := rfl

/-- The names of the children, in order; an attribute has none. -/
def childNames : TreeNode → List String
  | .attribute _ => []
  | .container children => children.map Prod.fst

def childName? (node : TreeNode) (index : Nat) : Option String := node.childNames[index]?

end TreeNode

/-- The parts of a text between slashes, empty ones included. -/
def slashParts : List Char → List (List Char)
  | [] => [[]]
  | c :: rest =>
    if c = '/' then [] :: slashParts rest
    else
      match slashParts rest with
      | [] => [[c]]
      | part :: parts => (c :: part) :: parts

/-- The path that a text names: its nonempty parts between slashes. -/
def splitPath (text : String) : List String :=
  ((slashParts text.toList).filter fun part => !part.isEmpty).map String.ofList

end DeviceBroker
