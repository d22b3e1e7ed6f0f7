import HtmlToLatex.Text.Blank

set_option autoImplicit false

/-! # Markup trees

A fragment is a list of sibling nodes; a node is a text or an element with a name, attributes and
children. Element names are kept in lower case. -/

namespace HtmlToLatex

/-- A name with a value, as written on an element. -/
structure Attribute where
  name : String
  value : String
  deriving Repr, BEq, DecidableEq, Inhabited

/-- A markup tree. -/
inductive Node where
  | text (content : String)
  | element (name : String) (attributes : List Attribute) (children : List Node)
  deriving Repr, BEq, Inhabited

/-- Lowers `A` to `Z` and keeps every other character. -/
def lowerAscii (s : String) : String :=
  String.ofList (s.toList.map Char.toLower)

/-- Equality of names up to the case of `A` to `Z`. -/
def sameName (a b : String) : Bool :=
  a.toList.map Char.toLower == b.toList.map Char.toLower

namespace Node

/-- An element with its name put in lower case. -/
def named (name : String) (attributes : List Attribute) (children : List Node) : Node :=
  .element (lowerAscii name) attributes children

/-- The content of a text node. -/
def text? : Node → Option String
  | .text content => some content
  | .element .. => none

/-- The name of an element. -/
def name? : Node → Option String
  | .text _ => none
  | .element name .. => some name

/-- The children of an element; a text has none. -/
def children : Node → List Node
  | .text _ => []
  | .element _ _ children => children

end Node

/-! ## Attributes -/

/-- The value of an attribute, looked up without regard to ASCII case. Of several attributes of
    one name the last one counts. -/
def attribute? (attributes : List Attribute) (name : String) : Option String :=
  (attributes.reverse.find? fun a => sameName a.name name).map (·.value)

theorem attribute?_nil (name : String) : attribute? [] name = none := rfl

/-- The last attribute is asked first. -/
theorem attribute?_concat (attributes : List Attribute) (a : Attribute) (name : String) :
    attribute? (attributes ++ [a]) name =
      if sameName a.name name then some a.value else attribute? attributes name := by
  unfold attribute?
  rw [List.reverse_append, List.reverse_singleton, List.singleton_append, List.find?_cons]
  cases sameName a.name name <;> rfl

/-! ## Children -/

/-- The elements among sibling nodes, in order. -/
def elementsOf (nodes : List Node) : List Node :=
  nodes.filter fun n => n.name?.isSome

end HtmlToLatex
