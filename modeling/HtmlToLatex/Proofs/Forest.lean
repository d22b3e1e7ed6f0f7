import Mathlib.Data.List.Forall2
import HtmlToLatex.Convert

set_option autoImplicit false

/-! # Places in a forest

What a walk does with a node depends on where the node stands: among blocks, in a line, or among
the children of a list, a table, a section of a table or a row. `Place` names these situations and
`Place.inside` says where the children of an element stand, if the walk gets to them at all. The
converters of `HtmlToLatex.Convert` are put into the same terms here: `Tag.blockRole` groups the
tags by what a block of theirs becomes, and `styled` is the part of `styledText` that only
computes. -/

namespace HtmlToLatex

deriving instance ReflBEq, LawfulBEq for Tag

/-! ## All nodes of a forest -/

mutual

/-- A node and all nodes below it. -/
def Node.nodes : Node → List Node
  | .text content => [.text content]
  | .element name attributes children => .element name attributes children :: nodesIn children

/-- The nodes of a forest, at every depth. -/
def nodesIn : List Node → List Node
  | [] => []
  | node :: rest => node.nodes ++ nodesIn rest

end

/-- The attributes of an element; a text has none. -/
def Node.attributes : Node → List Attribute
  | .text _ => []
  | .element _ attributes _ => attributes

theorem mem_nodes_self (node : Node) : node ∈ node.nodes := by
  cases node <;> simp [Node.nodes]

/-- A fact about all nodes of a forest is one about its first tree and one about the others. -/
theorem forall_nodesIn_cons {P : Node → Prop} {node : Node} {rest : List Node} :
    (∀ n ∈ nodesIn (node :: rest), P n) ↔ (∀ n ∈ node.nodes, P n) ∧ ∀ n ∈ nodesIn rest, P n := by
  simp only [nodesIn, List.mem_append, or_imp, forall_and]

/-- A fact about all nodes of a tree holds in the forest below its root. -/
theorem forall_nodesIn_children {P : Node → Prop} {node : Node} (h : ∀ n ∈ node.nodes, P n) :
    ∀ n ∈ nodesIn node.children, P n := by
  cases node with
  | text content => simp [Node.children, nodesIn]
  | element name attributes children =>
      intro n hn
      exact h n (List.mem_cons_of_mem _ hn)

/-- A fact about all nodes of a forest holds in each of its trees. -/
theorem forall_nodes_of_mem {P : Node → Prop} {forest : List Node} {node : Node}
    (h : ∀ n ∈ nodesIn forest, P n) (hmem : node ∈ forest) : ∀ n ∈ node.nodes, P n := by
  induction forest with
  | nil => cases hmem
  | cons first rest ih =>
      rw [forall_nodesIn_cons] at h
      rcases List.mem_cons.1 hmem with rfl | hrest
      · exact h.1
      · exact ih h.2 hrest

mutual

theorem mem_nodes_of_below {node n : Node} (hn : n ∈ nodesIn node.children) :
    ∀ root : Node, node ∈ root.nodes → n ∈ root.nodes
  | .text content, h => by
      rw [Node.nodes, List.mem_singleton] at h
      subst h
      simp [Node.children, nodesIn] at hn
  | .element name attributes children, h => by
      rw [Node.nodes, List.mem_cons] at h ⊢
      rcases h with rfl | h
      · exact .inr hn
      · exact .inr (mem_nodesIn_of_below hn children h)

/-- What is below a node of a forest is in the forest, too. -/
theorem mem_nodesIn_of_below {node n : Node} (hn : n ∈ nodesIn node.children) :
    ∀ nodes : List Node, node ∈ nodesIn nodes → n ∈ nodesIn nodes
  | [], h => by simp [nodesIn] at h
  | first :: rest, h => by
      rw [nodesIn, List.mem_append] at h ⊢
      exact h.imp (mem_nodes_of_below hn first) (mem_nodesIn_of_below hn rest)

end

/-- A fact about all nodes of a table holds in each of its rows. -/
theorem forall_nodesIn_tableRows {P : Node → Prop} {table row : List Node}
    (h : ∀ n ∈ nodesIn table, P n) (hrow : row ∈ tableRows table) : ∀ n ∈ nodesIn row, P n := by
  simp only [tableRows, elementsOf, List.mem_flatMap, List.mem_filter] at hrow
  obtain ⟨child, ⟨hchild, -⟩, hrow⟩ := hrow
  have hbelow := forall_nodesIn_children (forall_nodes_of_mem h hchild)
  split at hrow
  case h_1 =>
    obtain rfl := List.mem_singleton.1 hrow
    exact hbelow
  case h_5 => cases hrow
  all_goals
    obtain ⟨tr, htr, rfl⟩ := List.mem_map.1 hrow
    exact forall_nodesIn_children (forall_nodes_of_mem hbelow (List.mem_filter.1 htr).1)

/-! ## Chosen siblings -/

/-- What is gathered from siblings is gathered from chosen ones if the others give nothing. -/
theorem flatMap_filter_of_nil {α β : Type} {p : α → Bool} {f : α → List β} {l : List α}
    (h : ∀ a ∈ l, p a = false → f a = []) : (l.filter p).flatMap f = l.flatMap f := by
  induction l with
  | nil => rfl
  | cons a l ih =>
      have htail := ih fun b hb => h b (List.mem_cons_of_mem _ hb)
      cases hp : p a with
      | true => rw [List.filter_cons_of_pos hp, List.flatMap_cons, List.flatMap_cons, htail]
      | false =>
          rw [List.filter_cons_of_neg (by simp [hp]), List.flatMap_cons,
            h a (List.mem_cons_self ..) hp, List.nil_append, htail]

/-! ## Blocks by their role -/

/-- What an element becomes that stands as a block. -/
inductive BlockRole where
  | heading | paragraph | listing | list | table | container | image | rule
  /-- It is set in a line, like the text around it. -/
  | inline
  deriving DecidableEq

/-- The role of a tag. -/
def Tag.blockRole : Tag → BlockRole
  | .h1 | .h2 | .h3 | .h4 | .h5 | .h6 => .heading
  | .p => .paragraph
  | .code => .listing
  | .ul | .ol => .list
  | .table => .table
  | .div | .sect | .body | .html | .header | .footer | .aside | .main => .container
  | .img => .image
  | .hr => .rule
  | _ => .inline

/-- The blocks are the elements that are not set in a line. -/
theorem Tag.isBlock_eq (tag : Tag) : tag.isBlock = (tag.blockRole != .inline) := by
  cases tag <;> rfl

theorem Tag.eq_img_of_blockRole {tag : Tag} (h : tag.blockRole = .image) : tag = .img := by
  revert h
  cases tag <;> decide

theorem Tag.eq_p_of_blockRole {tag : Tag} (h : tag.blockRole = .paragraph) : tag = .p := by
  revert h
  cases tag <;> decide

theorem Tag.eq_code_of_blockRole {tag : Tag} (h : tag.blockRole = .listing) : tag = .code := by
  revert h
  cases tag <;> decide

/-- A block is traced and then converted as its role says. -/
theorem convertBlock_element (setting : Setting) (name : String) (attributes : List Attribute)
    (children : List Node) :
    convertBlock setting (.element name attributes children) = do
      Conversion.trace (blockMessage name)
      match (Tag.ofName name).blockRole with
      | .heading => do return some (← convertHeading setting (Tag.ofName name) children)
      | .paragraph => do return some (← convertParagraph setting children)
      | .listing => do return some (← convertCode setting children)
      | .list => convertList setting (Tag.ofName name) children
      | .table => convertTable setting children
      | .container => do return some (joinBlocks (← convertBlocks setting children))
      | .image => convertImage setting attributes
      | .rule => pure (some Latex.rule)
      | .inline => do
        return some (trim (← convertInline setting (.element name attributes children))) := by
  unfold convertBlock
  cases Tag.ofName name <;> rfl

/-! ## Elements in a line -/

/-- The text of an element set in a line, given what stands inside it. -/
def styled (tag : Tag) (attributes : List Attribute) (text : String) : String :=
  match tag with
  | .b | .strong => Latex.bold text
  | .i | .em => Latex.italic text
  | .u => Latex.underline text
  | .s => Latex.strikethrough text
  | .sub => Latex.subscript text
  | .sup => Latex.superscript text
  | .a =>
    match attribute? attributes "href" with
    | some target => Latex.hyperlink target text
    | none => text
  | _ => text

/-- The mark of subscripts and of superscripts. -/
def Tag.scriptMark? : Tag → Option String
  | .sub => some "_"
  | .sup => some "^"
  | _ => none

/-- A script is a formula of its own: its mark and the text, between dollars. -/
theorem styled_script {tag : Tag} {mark : String} (h : tag.scriptMark? = some mark)
    (attributes : List Attribute) (text : String) :
    styled tag attributes text = "$" ++ (mark ++ Latex.group text) ++ "$" := by
  unfold Tag.scriptMark? at h
  split at h <;> cases h
  · simp [styled, Latex.subscript, ← String.append_assoc]
  · simp [styled, Latex.superscript, ← String.append_assoc]

/-- Whether an element is an anchor that leads nowhere. -/
def isBareAnchor (tag : Tag) (attributes : List Attribute) : Bool :=
  tag == .a && (attribute? attributes "href").isNone

/-- What is logged about an anchor that leads nowhere. -/
def bareAnchorMessage : String := "anchor without href, keeping link text only"

/-- Setting an element in a line only computes, but for the message about a bare anchor. -/
theorem styledText_eq (tag : Tag) (attributes : List Attribute) (text : String) :
    styledText tag attributes text = do
      if isBareAnchor tag attributes then Conversion.logAll [bareAnchorMessage]
      return styled tag attributes text := by
  cases tag
  case a =>
    cases h : attribute? attributes "href" <;> simp only [styledText, styled, isBareAnchor, h] <;>
      rfl
  all_goals rfl

/-- Elements set in a line: line breaks, images, and all others by what stands inside them. -/
theorem convertInline_element (setting : Setting) (name : String) (attributes : List Attribute)
    (children : List Node) :
    convertInline setting (.element name attributes children) =
      if Tag.ofName name = .br then pure (lineBreak setting.options)
      else if Tag.ofName name = .img then (do return (← convertImage setting attributes).getD "")
      else if children.isEmpty then pure ""
      else convertInlines setting children >>= styledText (Tag.ofName name) attributes := by
  unfold convertInline
  cases Tag.ofName name <;> rfl

/-! ## Where the children of an element stand -/

/-- The situations in which a walk meets siblings. -/
inductive Place where
  | block | line | list | table | tableSection | row
  deriving DecidableEq

/-- Texts and images are shown where blocks stand and in lines. -/
def Place.shows : Place → Bool
  | .block | .line => true
  | _ => false

/-- Where the children of an element stand; nowhere if the walk does not get to them. -/
def Place.inside : Place → Tag → Option Place
  | .block, tag =>
    match tag.blockRole with
    | .heading | .paragraph | .listing => some .line
    | .list => some .list
    | .table => some .table
    | .container => some .block
    | .image | .rule => none
    | .inline => if tag = .br then none else some .line
  | .line, tag => if tag = .br ∨ tag = .img then none else some .line
  | .list, tag => if tag = .li then some .block else none
  | .table, tag =>
    match tag with
    | .tr => some .row
    | .thead | .tbody | .tfoot => some .tableSection
    | _ => none
  | .tableSection, tag => if tag = .tr then some .row else none
  | .row, tag => if tag = .td ∨ tag = .th then some .line else none

/-- Among blocks, an element that is none is walked as in a line. -/
theorem Place.inside_block_of_inline {tag : Tag} (h : tag.blockRole = .inline) :
    Place.inside .block tag = Place.inside .line tag := by
  revert h
  cases tag <;> decide

/-! ## Gathering from a table -/

section Gathering

variable {α : Type} {f : Place → Node → List α}

/-- Where nothing is shown by itself, all that is gathered from a node comes from inside it. -/
def GathersInside (f : Place → Node → List α) : Prop :=
  ∀ place node, place.shows = false → f place node =
    match node.tag?.bind place.inside with
    | some inner => node.children.flatMap (f inner)
    | none => []

/-- Where nothing is shown by itself, only the elements of some tags are entered. -/
theorem GathersInside.flatMap_tagged (hf : GathersInside f) {place inner : Place} {tags : List Tag}
    (hshows : place.shows = false)
    (hinside : ∀ tag, place.inside tag = if tag ∈ tags then some inner else none)
    (nodes : List Node) :
    nodes.flatMap (f place) =
      (tagged tags nodes).flatMap fun node => node.children.flatMap (f inner) := by
  have hnode : ∀ node : Node, f place node =
      if node.tag?.any tags.contains then node.children.flatMap (f inner) else [] := by
    intro node
    rw [hf place node hshows]
    cases node.tag? with
    | none => rfl
    | some tag =>
        simp only [Option.bind_some, hinside]
        by_cases h : tag ∈ tags <;> simp [h]
  rw [tagged, ← flatMap_filter_of_nil (p := fun n => n.tag?.any tags.contains)]
  · refine List.flatMap_congr fun node hmem => ?_
    rw [hnode, if_pos (List.mem_filter.1 hmem).2]
  · intro node _ hother
    rw [hnode, if_neg (by simp [hother])]

theorem GathersInside.flatMap_row (hf : GathersInside f) (row : List Node) :
    row.flatMap (f .row) =
      (tagged [.td, .th] row).flatMap fun cell => cell.children.flatMap (f .line) :=
  hf.flatMap_tagged rfl (fun tag => by simp [Place.inside]) row

/-- From a table, all is gathered from its rows, those of its sections among them. -/
theorem GathersInside.flatMap_table (hf : GathersInside f) (table : List Node) :
    table.flatMap (f .table) = (tableRows table).flatMap fun row => row.flatMap (f .row) := by
  have hsection : ∀ nodes : List Node, nodes.flatMap (f .tableSection) =
      (tagged [.tr] nodes).flatMap fun row => row.children.flatMap (f .row) :=
    hf.flatMap_tagged rfl fun tag => by simp [Place.inside]
  rw [tableRows, List.flatMap_assoc, elementsOf,
    ← flatMap_filter_of_nil (p := fun n => n.name?.isSome)]
  · refine List.flatMap_congr fun node _ => ?_
    rw [hf .table node rfl]
    cases node.tag? with
    | none => rfl
    | some tag => cases tag <;> simp [Place.inside, hsection, List.flatMap_map]
  · intro node _ hnode
    rw [hf .table node rfl]
    cases node with
    | text content => rfl
    | element name attributes children => cases hnode

end Gathering

end HtmlToLatex
