import HtmlToLatex.Html.Adoption
import HtmlToLatex.Html.Foreign

set_option autoImplicit false

/-! # The rules of body content

What a token does outside tables and selections. Elements that describe a document rather than show
something follow the same rules wherever they stand. -/

namespace HtmlToLatex.Html

/-- What became of a token. -/
inductive Step where
  | done (b : Builder)
  /-- A token is to be handled by the rules now in force. -/
  | again (b : Builder) (token : Token)
  /-- The text that follows is read in another way. -/
  | read (mode : TextMode) (b : Builder)

namespace Builder

/-- Puts a mode in force. -/
def switchTo (b : Builder) (mode : InsertionMode) : Builder :=
  { b with mode }

/-! ## The mode that the open elements call for -/

/-- The mode inside a selection, from the elements around it. -/
def selectMode : List OpenElement → InsertionMode
  | [] => .inSelect
  | e :: outer =>
    if e.isNamed "template" then .inSelect
    else if e.isNamed "table" then .inSelectInTable
    else selectMode outer

/-- The mode that open elements, innermost first, call for. The outermost one stands for the
    body. -/
def modeOf (templateModes : List InsertionMode) : List OpenElement → InsertionMode
  | [] | [_] => .inBody
  | e :: outer =>
    if e.vocabulary != .html then modeOf templateModes outer
    else
      match e.name with
      | "select" => selectMode outer
      | "td" | "th" => .inCell
      | "tr" => .inRow
      | "tbody" | "thead" | "tfoot" => .inTableBody
      | "caption" => .inCaption
      | "colgroup" => .inColumnGroup
      | "table" => .inTable
      | "template" => templateModes.headD .inBody
      | _ => modeOf templateModes outer

/-- Puts the mode in force that the open elements call for. -/
def resetMode (b : Builder) : Builder :=
  b.switchTo (modeOf b.templateModes b.opened)

/-! ## Head content -/

/-- Elements that follow the same rules wherever they stand. -/
def headNames : List String :=
  ["base", "basefont", "bgsound", "link", "meta", "noframes", "script", "style", "template",
   "title"]

/-- Opens an element whose content is text alone. -/
def openText (b : Builder) (tag : TagToken) (mode : TextMode) : Step :=
  let b := b.openTag tag
  .read mode { b with mode := .inRawText, returnMode := b.mode }

/-- A start tag of one of the `headNames`. -/
def startHead (b : Builder) (tag : TagToken) : Step :=
  match tag.name with
  | "title" => b.openText tag .escapable
  | "noframes" | "style" => b.openText tag .raw
  | "script" => b.openText tag .script
  | "template" =>
    let b := (b.openTag tag).mark
    .done { b with mode := .inTemplate, templateModes := .inTemplate :: b.templateModes }
  | _ => .done (b.addTag tag)

/-- The end tag of a template. -/
def endTemplate (b : Builder) : Builder :=
  if b.hasOpen "template" then
    let b := ((b.closeImplied templateEndNames).popNamed "template").clearToMarker
    { b with templateModes := b.templateModes.drop 1 }.resetMode
  else b

/-! ## Start tags -/

/-- Blocks, which end a paragraph. -/
def blockNames : List String :=
  ["address", "article", "aside", "blockquote", "center", "details", "dialog", "dir", "div", "dl",
   "fieldset", "figcaption", "figure", "footer", "header", "hgroup", "main", "menu", "nav", "ol",
   "p", "section", "summary", "ul"]

/-- Elements whose end tag closes what is open inside them. -/
def closingNames : List String :=
  ["address", "article", "aside", "blockquote", "button", "center", "details", "dialog", "dir",
   "div", "dl", "fieldset", "figcaption", "figure", "footer", "header", "hgroup", "listing", "main",
   "menu", "nav", "ol", "pre", "section", "summary", "ul"]

/-- Elements that are opened again after a block that closed them. -/
def formattingNames : List String :=
  ["b", "big", "code", "em", "font", "i", "s", "small", "strike", "strong", "tt", "u"]

/-- Elements that stand on their own in a table. -/
def tablePartNames : List String :=
  ["caption", "col", "colgroup", "tbody", "td", "tfoot", "th", "thead", "tr"]

/-- The open item that a new list item closes, by its name. -/
def itemToClose? (names : List String) : List OpenElement → Option String
  | [] => none
  | e :: outer =>
    if e.isOneOf names then some e.name
    else if e.isOneOf specialNames && !e.isOneOf ["address", "div", "p"] then none
    else itemToClose? names outer

/-- A start tag of a list item or of a term or its description. -/
def startItem (b : Builder) (tag : TagToken) : Builder :=
  let names := if tag.name = "li" then ["li"] else ["dd", "dt"]
  let b :=
    match itemToClose? names b.opened with
    | some name => (b.closeImpliedExcept name).popNamed name
    | none => b
  b.closeOpenParagraph.openTag tag

/-- A start tag of a heading. Headings do not nest. -/
def startHeading (b : Builder) (tag : TagToken) : Builder :=
  let b := b.closeOpenParagraph
  (if b.current.isOneOf headingNames then b.pop else b).openTag tag

/-- A start tag of a form. Forms do not nest. -/
def startForm (b : Builder) (tag : TagToken) : Builder :=
  let inTemplate := b.hasOpen "template"
  if b.form.isSome && !inTemplate then b
  else
    let (b, e) := b.closeOpenParagraph.openElement .html tag.name tag.attributes
    if inTemplate then b else { b with form := some e.id }

/-- A start tag of a button. Buttons do not nest. -/
def startButton (b : Builder) (tag : TagToken) : Builder :=
  let b := if b.hasInScope boundsScope "button" then b.closeImplied.popNamed "button" else b
  b.reopenFormatting.openTag tag

/-- A start tag of a link. Links do not nest. -/
def startLink (b : Builder) (tag : TagToken) : Builder :=
  let b :=
    match b.formattingEntry? "a" with
    | none => b
    | some (id, _) => ((b.closeFormatting "a").removeEntry id).removeOpen id
  b.reopenFormatting.openFormatting tag

/-- A start tag of text that does not break. -/
def startNoBreak (b : Builder) (tag : TagToken) : Builder :=
  let b := b.reopenFormatting
  let b :=
    if b.hasInScope boundsScope "nobr" then (b.closeFormatting "nobr").reopenFormatting else b
  b.openFormatting tag

/-- A start tag of a selection. -/
def startSelect (b : Builder) (tag : TagToken) : Builder :=
  let b := b.reopenFormatting.openTag tag
  match b.mode with
  | .inTable | .inCaption | .inTableBody | .inRow | .inCell => b.switchTo .inSelectInTable
  | _ => b.switchTo .inSelect

/-- A start tag of a choice or a group of choices. -/
def startOption (b : Builder) (tag : TagToken) : Builder :=
  (if b.current.isNamed "option" then b.pop else b).reopenFormatting.openTag tag

/-- A start tag of a part of a ruby annotation. -/
def startRuby (b : Builder) (tag : TagToken) (close : Builder → Builder) : Builder :=
  (if b.hasInScope boundsScope "ruby" then close b else b).openTag tag

/-- A start tag in body content. -/
def startInBody (b : Builder) (tag : TagToken) : Step :=
  let name := tag.name
  if headNames.contains name then b.startHead tag
  else if blockNames.contains name then .done (b.closeOpenParagraph.openTag tag)
  else if headingNames.contains name then .done (b.startHeading tag)
  else if formattingNames.contains name then .done (b.reopenFormatting.openFormatting tag)
  else if tablePartNames.contains name then .done b
  else
    match name with
    | "html" | "body" | "frameset" | "frame" | "head" => .done b
    | "pre" | "listing" => .done { b.closeOpenParagraph.openTag tag with skipsLineFeed := true }
    | "form" => .done (b.startForm tag)
    | "li" | "dd" | "dt" => .done (b.startItem tag)
    | "plaintext" => .read .plain (b.closeOpenParagraph.openTag tag)
    | "button" => .done (b.startButton tag)
    | "a" => .done (b.startLink tag)
    | "nobr" => .done (b.startNoBreak tag)
    | "applet" | "marquee" | "object" => .done (b.reopenFormatting.openTag tag).mark
    | "table" => .done ((b.closeOpenParagraph.openTag tag).switchTo .inTable)
    | "area" | "br" | "embed" | "img" | "keygen" | "wbr" | "input" =>
      .done (b.reopenFormatting.addTag tag)
    | "image" => .done (b.reopenFormatting.addTag { tag with name := "img" })
    | "param" | "source" | "track" => .done (b.addTag tag)
    | "hr" => .done (b.closeOpenParagraph.addTag tag)
    | "textarea" => { b with skipsLineFeed := true }.openText tag .escapable
    | "xmp" => b.closeOpenParagraph.reopenFormatting.openText tag .raw
    | "iframe" | "noembed" | "noscript" => b.openText tag .raw
    | "select" => .done (b.startSelect tag)
    | "optgroup" | "option" => .done (b.startOption tag)
    | "rb" | "rtc" => .done (b.startRuby tag (·.closeImplied))
    | "rp" | "rt" => .done (b.startRuby tag (·.closeImpliedExcept "rtc"))
    | "math" => .done (b.reopenFormatting.openForeign .mathMl tag)
    | "svg" => .done (b.reopenFormatting.openForeign .svg tag)
    | _ => .done (b.reopenFormatting.openTag tag)

/-! ## End tags -/

/-- The end tag of a form. -/
def endForm (b : Builder) : Builder :=
  if b.hasOpen "template" then
    if b.hasInScope boundsScope "form" then b.closeImplied.popNamed "form" else b
  else
    match b.form with
    | none => b
    | some id =>
      let b := { b with form := none }
      if inScope boundsScope (·.id = id) b.opened then b.closeImplied.removeOpen id else b

/-- The end tag of a paragraph. Where no paragraph is open, an empty one is added. -/
def endParagraph (b : Builder) : Builder :=
  (if b.hasInScope boundsButtonScope "p" then b else b.openImplied "p").closeParagraph

/-- The end tag of an item. -/
def endItem (b : Builder) (name : String) : Builder :=
  let bounds := if name = "li" then boundsItemScope else boundsScope
  if b.hasInScope bounds name then (b.closeImpliedExcept name).popNamed name else b

/-- An end tag in body content. -/
def endInBody (b : Builder) (name : String) : Builder :=
  if closingNames.contains name then
    if b.hasInScope boundsScope name then b.closeImplied.popNamed name else b
  else if formattingNames.contains name then b.closeFormatting name
  else if headingNames.contains name then
    if inScope boundsScope (·.isOneOf headingNames) b.opened then
      b.closeImplied.popThrough (·.isOneOf headingNames)
    else b
  else
    match name with
    | "template" => b.endTemplate
    | "body" | "html" => b
    | "form" => b.endForm
    | "p" => b.endParagraph
    | "li" | "dd" | "dt" => b.endItem name
    | "a" | "nobr" => b.closeFormatting name
    | "applet" | "marquee" | "object" =>
      if b.hasInScope boundsScope name then (b.closeImplied.popNamed name).clearToMarker else b
    | "br" => b.reopenFormatting.addTag { name := "br" }
    | _ => b.closeGeneric name

/-! ## Tokens -/

/-- A token in body content. -/
def stepInBody (b : Builder) : Token → Step
  | .text content => .done (b.reopenFormatting.addText content)
  | .comment => .done b.addComment
  | .startTag tag => b.startInBody tag
  | .endTag name => .done (b.endInBody name)
  | .null | .doctype | .malformed => .done b

/-- A token in the text content of an element. -/
def stepInRawText (b : Builder) : Token → Step
  | .text content => .done (b.addText content)
  | .endTag _ => .done (b.pop.switchTo b.returnMode)
  | _ => .done b

end Builder
end HtmlToLatex.Html
