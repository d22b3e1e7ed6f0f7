import Mathlib.Data.List.Chain
import HtmlToLatex.Html.Fragment
import HtmlToLatex.Proofs.Forest

set_option autoImplicit false

/-! # Fragments of documents

A fragment drops what a document holds besides elements and text and puts the texts together that
this brings side by side, so the two trees differ in shape. To compare them, both are read from left
to right as one line of marks: where an element begins, where it ends, and the characters between.
The main statement is `fragmentOf_normalized`: the fragment of a document has the marks of the
document, and no two texts stand side by side in it. -/

namespace HtmlToLatex

/-! ## Marks -/

/-- What is met in a tree that is read from left to right. -/
inductive Mark where
  /-- An element begins. -/
  | opens (name : String) (attributes : List Attribute)
  /-- The element that has begun last ends. -/
  | closes
  /-- A character of a text. -/
  | char (c : Char)
  deriving Repr, BEq, DecidableEq

/-- The marks of a text. -/
def textMarks (content : String) : List Mark :=
  content.toList.map .char

@[simp] theorem textMarks_append (a b : String) :
    textMarks (a ++ b) = textMarks a ++ textMarks b := by
  simp [textMarks]

mutual

/-- The marks of a tree. -/
def Node.marks : Node → List Mark
  | .text content => textMarks content
  | .element name attributes children => .opens name attributes :: marksIn children ++ [.closes]

/-- The marks of sibling nodes. -/
def marksIn : List Node → List Mark
  | [] => []
  | node :: rest => node.marks ++ marksIn rest

end

/-! ## Sibling texts -/

/-- No two texts stand side by side. -/
def Separated (nodes : List Node) : Prop :=
  nodes.IsChain fun a b => a.text? = none ∨ b.text? = none

/-- No two texts stand side by side, at any depth. -/
structure Normalized (nodes : List Node) : Prop where
  siblings : Separated nodes
  below : ∀ n ∈ nodesIn nodes, Separated n.children

theorem Normalized.nil : Normalized [] :=
  ⟨List.isChain_nil, nofun⟩

/-- The first of some siblings is a tree that is normalized below its root, the others are
    normalized, and if both begin with a text, they do not stay apart. -/
theorem normalized_cons {node : Node} {rest : List Node} :
    Normalized (node :: rest) ↔
      (∀ next ∈ rest.head?, node.text? = none ∨ next.text? = none) ∧
        (∀ n ∈ node.nodes, Separated n.children) ∧ Normalized rest := by
  constructor
  · rintro ⟨hsiblings, hbelow⟩
    rw [forall_nodesIn_cons] at hbelow
    rw [Separated, List.isChain_cons] at hsiblings
    exact ⟨hsiblings.1, hbelow.1, hsiblings.2, hbelow.2⟩
  · rintro ⟨hfirst, hnode, hrest⟩
    exact ⟨List.isChain_cons.2 ⟨hfirst, hrest.siblings⟩,
      forall_nodesIn_cons.2 ⟨hnode, hrest.below⟩⟩

namespace Html

/-! ## Documents -/

mutual

/-- The marks of a document tree, with the names of elements in lower case. What is neither element
    nor text has none. -/
def DomNode.marks : DomNode → List Mark
  | .text content => textMarks content
  | .element name attributes children =>
    .opens (lowerAscii name) attributes :: domMarksIn children ++ [.closes]
  | .comment | .doctype | .instruction => []

/-- The marks of sibling nodes of a document. -/
def domMarksIn : List DomNode → List Mark
  | [] => []
  | node :: rest => node.marks ++ domMarksIn rest

end

/-! ## Putting a node in front -/

/-- A text that joins another one brings its characters along. -/
theorem marksIn_prependNode (node : Node) (rest : List Node) :
    marksIn (prependNode node rest) = node.marks ++ marksIn rest := by
  unfold prependNode
  split
  next a b rest => simp [marksIn, Node.marks]
  next => rfl

/-- Texts do not come to stand side by side. -/
theorem normalized_prependNode {node : Node} {rest : List Node}
    (hnode : ∀ n ∈ node.nodes, Separated n.children) (hrest : Normalized rest) :
    Normalized (prependNode node rest) := by
  unfold prependNode
  split
  next a b rest =>
    -- The joined text has the neighbour of the one that it joins.
    obtain ⟨hfirst, hbelow, hothers⟩ := normalized_cons.1 hrest
    refine normalized_cons.2 ⟨?_, ?_, hothers⟩
    · simpa [Node.text?] using hfirst
    · simpa [Node.nodes, Node.children] using hbelow
  next hapart =>
    refine normalized_cons.2 ⟨?_, hnode, hrest⟩
    intro next hnext
    obtain ⟨others, rfl⟩ := List.head?_eq_some_iff.1 hnext
    cases node with
    | element name attributes children => exact .inl rfl
    | text a =>
        cases next with
        | element name attributes children => exact .inr rfl
        | text b => exact absurd rfl (hapart a b others rfl)

/-! ## The fragment of a document -/

mutual

theorem marks_toNode? : ∀ node : DomNode, marksIn node.toNode?.toList = node.marks
  | .text content => by simp [DomNode.toNode?, marksIn, Node.marks, DomNode.marks]
  | .element name attributes children => by
      simp [DomNode.toNode?, marksIn, Node.marks, DomNode.marks, marksIn_fragmentOf children]
  | .comment => rfl
  | .doctype => rfl
  | .instruction => rfl

/-- Nothing of the elements and the text of a document is lost, moved or added. -/
theorem marksIn_fragmentOf : ∀ nodes : List DomNode, marksIn (fragmentOf nodes) = domMarksIn nodes
  | [] => rfl
  | node :: rest => by
      have hnode := marks_toNode? node
      have hrest := marksIn_fragmentOf rest
      unfold fragmentOf domMarksIn
      cases hkept : node.toNode? with
      | none =>
          rw [hkept] at hnode
          rw [← hnode, hrest]
          rfl
      | some kept =>
          rw [hkept] at hnode
          rw [marksIn_prependNode, hrest, ← hnode]
          simp [marksIn]

end

mutual

theorem separated_toNode? :
    ∀ node : DomNode, ∀ kept ∈ node.toNode?, ∀ n ∈ kept.nodes, Separated n.children
  | .text content => by
      simp [DomNode.toNode?, Node.nodes, Node.children, Separated]
  | .element name attributes children => by
      intro kept hkept
      obtain ⟨hsiblings, hbelow⟩ := normalized_fragmentOf children
      simp only [DomNode.toNode?, Option.mem_def, Option.some.injEq] at hkept
      subst hkept
      exact List.forall_mem_cons.2 ⟨hsiblings, hbelow⟩
  | .comment => by simp [DomNode.toNode?]
  | .doctype => by simp [DomNode.toNode?]
  | .instruction => by simp [DomNode.toNode?]

/-- In the fragment of a document no two texts stand side by side. -/
theorem normalized_fragmentOf : ∀ nodes : List DomNode, Normalized (fragmentOf nodes)
  | [] => .nil
  | node :: rest => by
      have hrest := normalized_fragmentOf rest
      unfold fragmentOf
      split
      next kept hkept => exact normalized_prependNode (separated_toNode? node kept hkept) hrest
      next => exact hrest

end

/-- **A fragment is normalized and loses nothing.** However a document is nested and its texts are
split, no two texts stand side by side in its fragment, at any depth. Read from left to right, the
elements of the fragment begin and end as those of the document, in the same order and with the same
attributes, only with their names in lower case; and the text between is that of the document,
character by character, whatever else stood there. -/
theorem fragmentOf_normalized (nodes : List DomNode) :
    Normalized (fragmentOf nodes) ∧ marksIn (fragmentOf nodes) = domMarksIn nodes :=
  ⟨normalized_fragmentOf nodes, marksIn_fragmentOf nodes⟩

end Html
end HtmlToLatex
