import HtmlToLatex.Html.Dom

set_option autoImplicit false

/-! # Documents under construction

While a document is built, elements are moved and split, so its nodes are kept in a table and
refer to each other by number. The finished tree is read off the table. -/

namespace HtmlToLatex.Html

/-- The number of a node. -/
abbrev NodeId := Nat

/-- The vocabulary that an element belongs to. -/
inductive Vocabulary where
  | html
  | svg
  | mathMl
  deriving Repr, BEq, DecidableEq, Inhabited

/-- What a node is. -/
inductive NodeKind where
  | element (name : String) (attributes : List Attribute)
  | text (content : String)
  | comment
  /-- The holder of what is written inside a template. -/
  | contents
  deriving Repr, BEq, Inhabited

/-- A node with its place in the tree. -/
structure Cell where
  kind : NodeKind
  parent : Option NodeId := none
  /-- The children, last one first. -/
  children : List NodeId := []
  deriving Repr, BEq, Inhabited

/-- The nodes made so far. -/
structure Arena where
  cells : Array Cell := #[]
  deriving Inhabited

namespace Arena

/-- Adds a node that is not in the tree yet. -/
def create (a : Arena) (kind : NodeKind) : Arena × NodeId :=
  let id := a.cells.size
  (⟨a.cells.push { kind }⟩, id)

/-- The children of a node, last one first. -/
def childrenOf (a : Arena) (id : NodeId) : List NodeId :=
  (a.cells[id]?.map (·.children)).getD []

/-- The parent of a node. -/
def parentOf? (a : Arena) (id : NodeId) : Option NodeId :=
  a.cells[id]?.bind (·.parent)

/-- The content of a text. -/
def textOf? (a : Arena) (id : NodeId) : Option String :=
  a.cells[id]?.bind fun cell =>
    match cell.kind with
    | .text content => some content
    | _ => none

/-- Changes one node. -/
def modify (a : Arena) (id : NodeId) (f : Cell → Cell) : Arena :=
  ⟨a.cells.modify id f⟩

/-- Takes a node out of the tree. -/
def detach (a : Arena) (id : NodeId) : Arena :=
  match a.parentOf? id with
  | none => a
  | some parent =>
    (a.modify parent fun cell => { cell with children := cell.children.filter (· ≠ id) }).modify id
      fun cell => { cell with parent := none }

/-- Makes a node the last child of another. -/
def append (a : Arena) (parent id : NodeId) : Arena :=
  (a.modify parent fun cell => { cell with children := id :: cell.children }).modify id
    fun cell => { cell with parent := some parent }

/-- Puts an element into a list behind another one. -/
def insertBehind (id sibling : NodeId) : List NodeId → List NodeId
  | [] => [id]
  | x :: xs => if x = sibling then x :: id :: xs else x :: insertBehind id sibling xs

/-- Makes a node the child of a parent before one of its children. -/
def insertBefore (a : Arena) (parent sibling id : NodeId) : Arena :=
  (a.modify parent fun cell =>
      { cell with children := insertBehind id sibling cell.children }).modify id
    fun cell => { cell with parent := some parent }

/-- Moves all children of a node to the end of the children of another. -/
def moveChildren (a : Arena) (source target : NodeId) : Arena :=
  let moved := a.childrenOf source
  let a := a.modify source fun cell => { cell with children := [] }
  let a := a.modify target fun cell => { cell with children := moved ++ cell.children }
  moved.foldl (fun a id => a.modify id fun cell => { cell with parent := some target }) a

/-! ## The finished tree -/

/-- The tree below a node, at most `depth` levels of it. -/
def treeOf (a : Arena) : Nat → NodeId → Option DomNode
  | 0, _ => none
  | depth + 1, id =>
    match a.cells[id]? with
    | none => none
    | some cell =>
      match cell.kind with
      | .text content => some (.text content)
      | .element name attributes =>
        some (.element name attributes (cell.children.reverse.filterMap (treeOf a depth)))
      | .comment => some .comment
      | .contents => none

/-- The trees below the children of a node. No path in a tree is longer than the table. -/
def forestBelow (a : Arena) (id : NodeId) : List DomNode :=
  (a.childrenOf id).reverse.filterMap (a.treeOf a.cells.size)

end Arena
end HtmlToLatex.Html
