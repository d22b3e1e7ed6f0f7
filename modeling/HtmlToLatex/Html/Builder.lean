import HtmlToLatex.Html.Arena
import HtmlToLatex.Html.Token

set_option autoImplicit false

/-! # Building a document

The state in which tokens become a document, and the steps that all rules share: the stack of open
elements, the list of formatting elements that wait to be opened again, and the place where the
next node goes. -/

namespace HtmlToLatex.Html

/-! ## Elements -/

/-- An element that has been opened and not closed. -/
structure OpenElement where
  id : NodeId
  vocabulary : Vocabulary
  /-- The name in lower case. -/
  name : String
  /-- The element is an annotation whose content is HTML. -/
  annotatesHtml : Bool := false
  /-- The holder of the content of a template. -/
  contents : Option NodeId := none
  deriving Repr, BEq, Inhabited

namespace OpenElement

/-- Whether an element is an HTML element with one of the names. -/
def isOneOf (names : List String) (e : OpenElement) : Bool :=
  e.vocabulary == .html && names.contains e.name

/-- Whether an element is the HTML element of a name. -/
def isNamed (name : String) (e : OpenElement) : Bool :=
  e.vocabulary == .html && e.name == name

/-- A MathML element whose content is text or HTML. -/
def isMathText (e : OpenElement) : Bool :=
  e.vocabulary == .mathMl && ["mi", "mo", "mn", "ms", "mtext"].contains e.name

/-- An SVG element whose content is HTML. -/
def isSvgHtml (e : OpenElement) : Bool :=
  e.vocabulary == .svg && ["foreignobject", "desc", "title"].contains e.name

end OpenElement

/-! ## Classes of elements -/

/-- Elements that no formatting reaches across. -/
def specialNames : List String :=
  ["address", "applet", "area", "article", "aside", "base", "basefont", "bgsound", "blockquote",
   "body", "br", "button", "caption", "center", "col", "colgroup", "dd", "details", "dir", "div",
   "dl", "dt", "embed", "fieldset", "figcaption", "figure", "footer", "form", "frame", "frameset",
   "h1", "h2", "h3", "h4", "h5", "h6", "head", "header", "hgroup", "hr", "html", "iframe", "img",
   "input", "isindex", "li", "link", "listing", "main", "marquee", "menu", "meta", "nav",
   "noembed", "noframes", "noscript", "object", "ol", "p", "param", "plaintext", "pre", "script",
   "section", "select", "source", "style", "summary", "table", "tbody", "td", "template",
   "textarea", "tfoot", "th", "thead", "title", "tr", "track", "ul", "wbr", "xmp"]

def headingNames : List String := ["h1", "h2", "h3", "h4", "h5", "h6"]

/-- Elements that end where they may not go on. -/
def impliedEndNames : List String :=
  ["dd", "dt", "li", "option", "optgroup", "p", "rb", "rp", "rt", "rtc"]

/-- Elements that end with a template. -/
def templateEndNames : List String :=
  impliedEndNames ++ ["caption", "colgroup", "tbody", "td", "tfoot", "th", "thead", "tr"]

/-- Elements that a search through the open elements does not go beyond. -/
def boundsScope (e : OpenElement) : Bool :=
  e.isOneOf ["applet", "caption", "html", "table", "td", "th", "marquee", "object", "template"]
    || e.isMathText || e.isSvgHtml

def boundsItemScope (e : OpenElement) : Bool :=
  boundsScope e || e.isOneOf ["ol", "ul"]

def boundsButtonScope (e : OpenElement) : Bool :=
  boundsScope e || e.isNamed "button"

def boundsTableScope (e : OpenElement) : Bool :=
  e.isOneOf ["html", "table", "template"]

def boundsSelectScope (e : OpenElement) : Bool :=
  !e.isOneOf ["optgroup", "option"]

/-- Elements in front of whose table stray content is put. -/
def fosterNames : List String := ["table", "tbody", "tfoot", "thead", "tr"]

/-- Whether there is an element that satisfies `p` among open elements, innermost first, before or
    at the first one that bounds the search. -/
def inScope (bounds p : OpenElement → Bool) : List OpenElement → Bool
  | [] => false
  | e :: r => p e || (!bounds e && inScope bounds p r)

/-! ## State -/

/-- The rules in force. -/
inductive InsertionMode where
  | inBody
  | inRawText
  | inTable
  | inTableText
  | inCaption
  | inColumnGroup
  | inTableBody
  | inRow
  | inCell
  | inSelect
  | inSelectInTable
  | inTemplate
  deriving Repr, BEq, DecidableEq, Inhabited

/-- A formatting element that is opened again after it was closed by its surroundings, or a mark
    that nothing is opened again across. -/
inductive FormattingEntry where
  | marker
  | element (id : NodeId) (tag : TagToken)
  deriving Repr, BEq, Inhabited

/-- The state of the construction of a document. -/
structure Builder where
  arena : Arena
  /-- The outermost element. -/
  root : OpenElement
  /-- Open elements, innermost first. -/
  opened : List OpenElement
  /-- Formatting elements, last one first. -/
  formatting : List FormattingEntry := []
  mode : InsertionMode := .inBody
  /-- The mode after raw text or text in a table. -/
  returnMode : InsertionMode := .inBody
  /-- The modes inside the open templates, innermost first. -/
  templateModes : List InsertionMode := []
  /-- The form that is open. -/
  form : Option NodeId := none
  /-- Text met in a table, last piece first. -/
  tableText : List String := []
  /-- Nodes that may not stand in a table go in front of it. -/
  fostering : Bool := false
  /-- A line feed at the start of the next token is dropped. -/
  skipsLineFeed : Bool := false

namespace Builder

/-- A document with its outermost element only. -/
def empty : Builder :=
  let (arena, id) := Arena.create {} (.element "html" [])
  let root : OpenElement := { id, vocabulary := .html, name := "html" }
  { arena, root, opened := [root] }

/-- Changes the tree. The state does not keep the tree meanwhile, so that it is changed in place. -/
def changeTree {α : Type} (b : Builder) (f : Arena → Arena × α) : Builder × α :=
  match b with
  | { arena, root, opened, formatting, mode, returnMode, templateModes, form, tableText, fostering,
      skipsLineFeed } =>
    let (arena, result) := f arena
    ({ arena, root, opened, formatting, mode, returnMode, templateModes, form, tableText, fostering,
       skipsLineFeed }, result)

/-- Changes the tree, which has no result. -/
def updateTree (b : Builder) (f : Arena → Arena) : Builder :=
  (b.changeTree fun arena => (f arena, ())).1

/-- Makes a node that is not in the tree yet. -/
def createNode (b : Builder) (kind : NodeKind) : Builder × NodeId :=
  b.changeTree (·.create kind)

/-- The innermost open element. -/
def current (b : Builder) : OpenElement :=
  b.opened.headD b.root

/-- Whether there is an open element of a name. -/
def hasOpen (b : Builder) (name : String) : Bool :=
  b.opened.any (·.isNamed name)

/-- Whether an element of a name is found before the search is bounded. -/
def hasInScope (b : Builder) (bounds : OpenElement → Bool) (name : String) : Bool :=
  inScope bounds (·.isNamed name) b.opened

/-! ## Closing elements -/

/-- Closes the innermost element. -/
def pop (b : Builder) : Builder :=
  { b with opened := b.opened.drop 1 }

/-- Closes elements until the innermost one satisfies `p`. -/
def popBefore (b : Builder) (p : OpenElement → Bool) : Builder :=
  { b with opened := b.opened.dropWhile fun e => !p e }

/-- Closes elements up to and including the innermost one that satisfies `p`. -/
def popThrough (b : Builder) (p : OpenElement → Bool) : Builder :=
  (b.popBefore p).pop

/-- Closes elements up to and including the innermost one of a name. -/
def popNamed (b : Builder) (name : String) : Builder :=
  b.popThrough (·.isNamed name)

/-- Closes the elements that end where they may not go on. -/
def closeImplied (b : Builder) (names : List String := impliedEndNames) : Builder :=
  b.popBefore fun e => !e.isOneOf names

/-- Closes the elements that end where they may not go on, but none of a name. -/
def closeImpliedExcept (b : Builder) (name : String) : Builder :=
  b.closeImplied (impliedEndNames.filter (· ≠ name))

/-- Closes the innermost paragraph. -/
def closeParagraph (b : Builder) : Builder :=
  (b.closeImpliedExcept "p").popNamed "p"

/-- Closes the innermost paragraph if there is one within reach. -/
def closeOpenParagraph (b : Builder) : Builder :=
  if b.hasInScope boundsButtonScope "p" then b.closeParagraph else b

/-- Removes an element from the open ones, wherever it is. -/
def removeOpen (b : Builder) (id : NodeId) : Builder :=
  { b with opened := b.opened.eraseP (·.id = id) }

/-! ## Placing nodes -/

/-- Where a node goes. -/
inductive Place where
  | lastChild (parent : NodeId)
  /-- In front of a table, or into the element around it if the table is not in the tree. -/
  | beforeTable (table outer : NodeId)

/-- The place of content put in front of the innermost table. -/
def fosterPlace (root : NodeId) : List OpenElement → Place
  | [] => .lastChild root
  | e :: r =>
    if e.isNamed "template" then .lastChild (e.contents.getD e.id)
    else if e.isNamed "table" then .beforeTable e.id ((r.head?.map (·.id)).getD root)
    else fosterPlace root r

/-- The place of the next node in an element. -/
def placeIn (b : Builder) (target : OpenElement) : Place :=
  if b.fostering && target.isOneOf fosterNames then fosterPlace b.root.id b.opened
  else .lastChild (target.contents.getD target.id)

/-- Puts a node at a place. -/
def putNode (b : Builder) (place : Place) (id : NodeId) : Builder :=
  match place with
  | .lastChild parent => b.updateTree (·.append parent id)
  | .beforeTable table outer =>
    match b.arena.parentOf? table with
    | some parent => b.updateTree (·.insertBefore parent table id)
    | none => b.updateTree (·.append outer id)

/-- The node that comes right before a place. -/
def nodeBefore? (b : Builder) : Place → Option NodeId
  | .lastChild parent => (b.arena.childrenOf parent).head?
  | .beforeTable table outer =>
    match b.arena.parentOf? table with
    | some parent => (((b.arena.childrenOf parent).dropWhile (· ≠ table)).drop 1).head?
    | none => (b.arena.childrenOf outer).head?

/-- The text that comes right before a place. -/
def textBefore? (b : Builder) (place : Place) : Option (NodeId × String) :=
  (b.nodeBefore? place).bind fun id => (b.arena.textOf? id).map fun content => (id, content)

/-- Adds text at the place of the next node. It joins a text that is there already. -/
def addText (b : Builder) (content : String) : Builder :=
  let place := b.placeIn b.current
  match b.textBefore? place with
  | some (id, before) =>
    b.updateTree (·.modify id fun cell => { cell with kind := .text (before ++ content) })
  | none =>
    let (b, id) := b.createNode (.text content)
    b.putNode place id

/-- Adds a comment at the place of the next node. -/
def addComment (b : Builder) : Builder :=
  let place := b.placeIn b.current
  let (b, id) := b.createNode .comment
  b.putNode place id

/-- Whether the attributes say that an annotation holds HTML. -/
def saysHtml (attributes : List Attribute) : Bool :=
  attributes.any fun a =>
    a.name == "encoding" && ["text/html", "application/xhtml+xml"].contains (lowerAscii a.value)

/-- Makes an element that is not in the tree yet. -/
def createElement (b : Builder) (vocabulary : Vocabulary) (name : String)
    (attributes : List Attribute) : Builder × OpenElement :=
  let (b, id) := b.createNode (.element name attributes)
  let e : OpenElement := {
    id, vocabulary, name
    annotatesHtml := vocabulary == .mathMl && name == "annotation-xml" && saysHtml attributes }
  if e.isNamed "template" then
    let (b, contents) := b.createNode .contents
    (b, { e with contents := some contents })
  else (b, e)

/-- Adds an element at the place of the next node, without opening it. -/
def addElement (b : Builder) (vocabulary : Vocabulary) (name : String)
    (attributes : List Attribute) : Builder × OpenElement :=
  let place := b.placeIn b.current
  let (b, e) := b.createElement vocabulary name attributes
  (b.putNode place e.id, e)

/-- Adds an element and opens it. -/
def openElement (b : Builder) (vocabulary : Vocabulary) (name : String)
    (attributes : List Attribute) : Builder × OpenElement :=
  let (b, e) := b.addElement vocabulary name attributes
  ({ b with opened := e :: b.opened }, e)

/-- Opens the HTML element of a start tag. -/
def openTag (b : Builder) (tag : TagToken) : Builder :=
  (b.openElement .html tag.name tag.attributes).1

/-- Adds the HTML element of a start tag, which has no content. -/
def addTag (b : Builder) (tag : TagToken) : Builder :=
  (b.addElement .html tag.name tag.attributes).1

/-- Opens an HTML element that the source leaves out. -/
def openImplied (b : Builder) (name : String) : Builder :=
  (b.openElement .html name []).1

/-! ## Formatting elements -/

/-- The entries after the last mark, last one first. -/
def entriesToMarker (entries : List FormattingEntry) : List FormattingEntry :=
  entries.takeWhile (· != .marker)

/-- Adds a mark. -/
def mark (b : Builder) : Builder :=
  { b with formatting := .marker :: b.formatting }

/-- Forgets the entries down to and including the last mark. -/
def clearToMarker (b : Builder) : Builder :=
  { b with formatting := (b.formatting.dropWhile (· != .marker)).drop 1 }

/-- Whether an entry is that of a node. -/
def isEntryOf (id : NodeId) : FormattingEntry → Bool
  | .marker => false
  | .element other _ => other == id

/-- Whether there is an entry of a node. -/
def hasEntry (b : Builder) (id : NodeId) : Bool :=
  b.formatting.any (isEntryOf id)

/-- Forgets the entry of a node. -/
def removeEntry (b : Builder) (id : NodeId) : Builder :=
  { b with formatting := b.formatting.eraseP (isEntryOf id) }

/-- Whether two tags are alike up to the order of their attributes. -/
def alike (a c : TagToken) : Bool :=
  a.name == c.name && a.attributes.length == c.attributes.length
    && a.attributes.all c.attributes.contains

/-- Whether an entry is that of a tag alike. -/
def isEntryLike (tag : TagToken) : FormattingEntry → Bool
  | .marker => false
  | .element _ other => alike tag other

/-- Forgets the earliest entry of a tag alike when there are three since the last mark. -/
def limitAlike (tag : TagToken) (entries : List FormattingEntry) : List FormattingEntry :=
  let recent := entriesToMarker entries
  if 3 ≤ (recent.filter (isEntryLike tag)).length then
    (recent.reverse.eraseP (isEntryLike tag)).reverse ++ entries.drop recent.length
  else entries

/-- Opens a formatting element and remembers it. -/
def openFormatting (b : Builder) (tag : TagToken) : Builder :=
  let formatting := limitAlike tag b.formatting
  let (b, e) := { b with formatting }.openElement .html tag.name tag.attributes
  { b with formatting := .element e.id tag :: b.formatting }

/-- Whether an entry is a mark or that of an open element. -/
def isSettled (b : Builder) : FormattingEntry → Bool
  | .marker => true
  | .element id _ => b.opened.any (·.id = id)

/-- Opens the elements of entries again, the last of the list first, and returns their new
    entries. -/
def reopenAll (b : Builder) : List FormattingEntry → Builder × List FormattingEntry
  | [] => (b, [])
  | entry :: earlier =>
    let (b, reopened) := b.reopenAll earlier
    match entry with
    | .marker => (b, .marker :: reopened)
    | .element _ tag =>
      let (b, e) := b.openElement .html tag.name tag.attributes
      (b, .element e.id tag :: reopened)

/-- Opens the formatting elements again that were closed by their surroundings. -/
def reopenFormatting (b : Builder) : Builder :=
  let pending := b.formatting.takeWhile fun entry => !b.isSettled entry
  let settled := b.formatting.drop pending.length
  let (b, reopened) := b.reopenAll pending
  { b with formatting := reopened ++ settled }

end Builder
end HtmlToLatex.Html
