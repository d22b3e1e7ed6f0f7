import HtmlToLatex.Markup.Node

set_option autoImplicit false

/-! # Tags

The kinds of element that have a conversion rule of their own, and their classes: headings,
containers and blocks. -/

namespace HtmlToLatex

/-- The kind of an element. Every element without a rule of its own is `other`. -/
inductive Tag where
  | h1 | h2 | h3 | h4 | h5 | h6
  | ul | ol | li
  | img | hr
  | div | sect | body | html | header | footer | aside | main
  | p
  | table | thead | tbody | tfoot | tr | td | th
  | code
  | b | strong | i | em | u | s | sub | sup
  | a | br
  | other
  deriving Repr, BEq, DecidableEq, Inhabited

namespace Tag

/-- The element names with a rule of their own, in lower case. -/
def known : List (String × Tag) :=
  [("h1", h1), ("h2", h2), ("h3", h3), ("h4", h4), ("h5", h5), ("h6", h6),
   ("ul", ul), ("ol", ol), ("li", li), ("img", img), ("hr", hr),
   ("div", div), ("section", sect), ("body", body), ("html", html), ("header", header),
   ("footer", footer), ("aside", aside), ("main", main), ("p", p),
   ("table", table), ("thead", thead), ("tbody", tbody), ("tfoot", tfoot),
   ("tr", tr), ("td", td), ("th", th), ("code", code),
   ("b", b), ("strong", strong), ("i", i), ("em", em), ("u", u), ("s", s),
   ("sub", sub), ("sup", sup), ("a", a), ("br", br)]

/-- The kind of element that a name stands for, without regard to ASCII case. -/
def ofName (name : String) : Tag :=
  (known.lookup (lowerAscii name)).getD other

/-- The level of a heading. -/
def headingLevel? : Tag → Option Nat
  | h1 => some 1
  | h2 => some 2
  | h3 => some 3
  | h4 => some 4
  | h5 => some 5
  | h6 => some 6
  | _ => none

/-- Containers are seen through: their children are walked as blocks. -/
def isContainer : Tag → Bool
  | div | sect | body | html | header | footer | aside | main => true
  | _ => false

/-- Blocks stand apart from the text around them. -/
def isBlock (t : Tag) : Bool :=
  t.headingLevel?.isSome || t.isContainer ||
    match t with
    | ul | ol | img | hr | p | table | code => true
    | _ => false

/-- Containers are blocks. -/
theorem isBlock_of_isContainer {t : Tag} (h : t.isContainer = true) : t.isBlock = true := by
  simp [isBlock, h]

end Tag

/-! ## Tags of nodes -/

namespace Node

/-- The tag of an element; a text has none. -/
def tag? : Node → Option Tag
  | .text _ => none
  | .element name .. => some (Tag.ofName name)

/-- Whether a node is an element of block kind. -/
def isBlock : Node → Bool
  | .text _ => false
  | .element name .. => (Tag.ofName name).isBlock

end Node

/-- The elements among sibling nodes whose tag is one of `tags`, in order. -/
def tagged (tags : List Tag) (nodes : List Node) : List Node :=
  nodes.filter fun n => n.tag?.any tags.contains

end HtmlToLatex
