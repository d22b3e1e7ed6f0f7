import HtmlToLatex.Html.Fragment
import HtmlToLatex.Image
import HtmlToLatex.Latex.Document
import HtmlToLatex.Latex.Prose

set_option autoImplicit false

/-! # Converting markup trees

Sibling nodes are either set in a line, one after the other, or walked as blocks: a block element
stands for itself, and the nodes between two blocks are set as one run. -/

namespace HtmlToLatex

/-! ## Markup around finished text -/

/-- A heading; the levels below the second look alike. -/
def headingOf (tag : Tag) (text : String) : String :=
  match tag with
  | .h1 => Latex.sectionHeading text
  | .h2 => Latex.subsectionHeading text
  | _ => Latex.subsubsectionHeading text

/-- A paragraph. One that is a single formula is displayed unless the options say otherwise. -/
def paragraphOf (options : Options) (text : String) : String :=
  if options.skipEquationWrap then text else wrapSoleEquation text

/-- A list; there is none without items. -/
def listOf? (tag : Tag) (items : List String) : Option String :=
  if items.isEmpty then none
  else some (if tag = .ol then Latex.enumerate items else Latex.itemize items)

/-- A table with the width of its first row; there is none without cells in that row. -/
def tableOf? (rows : List (List String)) : Option String :=
  match rows with
  | [] | [] :: _ => none
  | first :: _ => some (Latex.tabular first.length (rows.map (" & ".intercalate ·)))

/-- What an element set in a line does with the text inside it. -/
def styledText (tag : Tag) (attributes : List Attribute) (text : String) : Conversion String :=
  match tag with
  | .b | .strong => pure (Latex.bold text)
  | .i | .em => pure (Latex.italic text)
  | .u => pure (Latex.underline text)
  | .s => pure (Latex.strikethrough text)
  | .sub => pure (Latex.subscript text)
  | .sup => pure (Latex.superscript text)
  | .a =>
    match attribute? attributes "href" with
    | some target => pure (Latex.hyperlink target text)
    | none => do
      Conversion.logAll ["anchor without href, keeping link text only"]
      return text
  | _ => pure text

/-! ## Text set in a line -/

mutual

/-- Converts a node set in a line. -/
def convertInline (setting : Setting) : Node → Conversion String
  | .text content => pure (normalizeText setting.options content)
  | .element name attributes children =>
    match Tag.ofName name with
    | .br => pure (lineBreak setting.options)
    | .img => do return (← convertImage setting attributes).getD ""
    | tag =>
      if children.isEmpty then pure ""
      else do styledText tag attributes (← convertInlines setting children)

/-- Converts sibling nodes set in a line. -/
def convertInlines (setting : Setting) : List Node → Conversion String
  | [] => pure ""
  | node :: rest => do
    let shown ← convertInline setting node
    return shown ++ (← convertInlines setting rest)

end

/-! ## Tables -/

/-- Converts the cells among the children of a row. -/
def convertCells (setting : Setting) (row : List Node) : Conversion (List String) :=
  (tagged [.td, .th] row).mapM fun cell => do
    return trim (← convertInlines setting cell.children)

/-- The rows of a table in order, each with its children. They stand in the table or in one of its
    sections. -/
def tableRows (table : List Node) : List (List Node) :=
  (elementsOf table).flatMap fun child =>
    match child.tag? with
    | some .tr => [child.children]
    | some .thead | some .tbody | some .tfoot => (tagged [.tr] child.children).map Node.children
    | _ => []

/-- Converts a table, given its children. -/
def convertTable (setting : Setting) (table : List Node) : Conversion (Option String) := do
  return tableOf? (← (tableRows table).mapM (convertCells setting))

/-! ## Blocks -/

/-- Converts a heading, given its children. -/
def convertHeading (setting : Setting) (tag : Tag) (children : List Node) : Conversion String := do
  return headingOf tag (trim (← convertInlines setting children))

/-- Converts a paragraph, given its children. -/
def convertParagraph (setting : Setting) (children : List Node) : Conversion String := do
  return paragraphOf setting.options (trim (← convertInlines setting children))

/-- Converts a listing, given its children. -/
def convertCode (setting : Setting) (children : List Node) : Conversion String := do
  return Latex.listing (← convertInlines setting children)

/-- What is traced about a block, given the name of its element. -/
def blockMessage (name : String) : String :=
  "block <" ++ name ++ ">"

mutual

/-- Converts a node that stands as a block; there may be nothing to show. -/
def convertBlock (setting : Setting) : Node → Conversion (Option String)
  | .text content => pure (some (trim (normalizeText setting.options content)))
  | .element name attributes children => do
    Conversion.trace (blockMessage name)
    let tag := Tag.ofName name
    match tag with
    | .h1 | .h2 | .h3 | .h4 | .h5 | .h6 => do return some (← convertHeading setting tag children)
    | .ul | .ol => do return listOf? tag (← convertItems setting children)
    | .img => convertImage setting attributes
    | .hr => pure (some Latex.rule)
    | .div | .sect | .body | .html | .header | .footer | .aside | .main => do
      return some (joinBlocks (← convertBlocksAfter setting none children))
    | .p => do return some (← convertParagraph setting children)
    | .table => convertTable setting children
    | .code => do return some (← convertCode setting children)
    | _ => do return some (trim (← convertInline setting (.element name attributes children)))

/-- Converts sibling nodes as blocks. `run` is the text of the run that the nodes before end
    with. -/
def convertBlocksAfter (setting : Setting) (run : Option String) :
    List Node → Conversion (List String)
  | [] => pure (run.map trim).toList
  | node :: rest =>
    if node.isBlock then do
      let block ← convertBlock setting node
      return (run.map trim).toList ++ block.toList ++ (← convertBlocksAfter setting none rest)
    else do
      let shown ← convertInline setting node
      convertBlocksAfter setting (some (run.getD "" ++ shown)) rest

/-- Converts the items among the children of a list. -/
def convertItems (setting : Setting) : List Node → Conversion (List String)
  | [] => pure []
  | .text _ :: rest => convertItems setting rest
  | .element name _ children :: rest =>
    if Tag.ofName name = .li then do
      let shown := Latex.item (joinBlocks (← convertBlocksAfter setting none children))
      return shown :: (← convertItems setting rest)
    else convertItems setting rest

end

/-- Converts sibling nodes as blocks. -/
def convertBlocks (setting : Setting) (nodes : List Node) : Conversion (List String) :=
  convertBlocksAfter setting none nodes

/-- Converts a list, given its children. -/
def convertList (setting : Setting) (tag : Tag) (children : List Node) :
    Conversion (Option String) := do
  return listOf? tag (← convertItems setting children)

/-! ## Fragments -/

/-- Converts a fragment without a document around it. -/
def convertNodes (setting : Setting) (nodes : List Node) : Conversion String := do
  return joinBlocks (← convertBlocks setting nodes)

/-- Converts a fragment, with a document around it if the options ask for one. The packages are
    those of the options. -/
def convert (setting : Setting) (nodes : List Node) : Conversion String := do
  return joinBlocks (wrapDocument setting.options (← convertBlocks setting nodes))

/-- Converts a source text. The packages are inferred from it if the options do not name them. -/
def convertText (setting : Setting) (source : String) : Conversion String :=
  convert { setting with options := setting.options.withInferredPackages source }
    (Html.parseFragment source)

end HtmlToLatex
