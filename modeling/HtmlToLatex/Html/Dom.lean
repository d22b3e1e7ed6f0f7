import HtmlToLatex.Markup.Node

set_option autoImplicit false

/-! # Document trees and fragments

A parsed document holds more than a fragment needs: comments, declarations and instructions, and
text that was split where markup stood in it. A fragment keeps the elements and the text, with
adjacent pieces of text put together. -/

namespace HtmlToLatex.Html

/-- A node of a parsed document. -/
inductive DomNode where
  | text (content : String)
  | element (name : String) (attributes : List Attribute) (children : List DomNode)
  | comment
  | doctype
  | instruction
  deriving Repr, BEq, Inhabited

/-- Puts a node before its siblings; a text joins the text that follows it. -/
def prependNode : Node → List Node → List Node
  | .text a, .text b :: rest => .text (a ++ b) :: rest
  | node, rest => node :: rest

mutual

/-- The node of a fragment that a document node becomes. Element names are put in lower case. -/
def DomNode.toNode? : DomNode → Option Node
  | .text content => some (.text content)
  | .element name attributes children =>
    some (.element (lowerAscii name) attributes (fragmentOf children))
  | .comment => none
  | .doctype => none
  | .instruction => none

/-- The fragment that sibling nodes of a document become. -/
def fragmentOf : List DomNode → List Node
  | [] => []
  | node :: rest =>
    match node.toNode? with
    | some kept => prependNode kept (fragmentOf rest)
    | none => fragmentOf rest

end

end HtmlToLatex.Html
