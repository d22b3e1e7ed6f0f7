import HtmlToLatex.Html.Body

set_option autoImplicit false

/-! # The rules of tables

Parts of a table open the parts around them that are left out. What may not stand in a table goes
in front of it. -/

namespace HtmlToLatex.Html.Builder

/-! ## Stray content -/

/-- Handles a token by the rules of body content and puts its nodes in front of the table. -/
def stepFostered (b : Builder) (token : Token) : Step :=
  match { b with fostering := true }.stepInBody token with
  | .done b => .done { b with fostering := false }
  | .again b token => .again { b with fostering := false } token
  | .read mode b => .read mode { b with fostering := false }

/-- Adds text in front of the table. -/
def addFostered (b : Builder) (content : String) : Builder :=
  { { b with fostering := true }.reopenFormatting.addText content with fostering := false }

/-- Puts the text met in a table into the document: into the table if it is blank, else in front of
    it. -/
def flushTableText (b : Builder) : Builder :=
  let pieces := b.tableText.reverse
  let b := { b with tableText := [] }
  if pieces.all fun piece => piece.toList.all isTagBlank then pieces.foldl addText b
  else pieces.foldl addFostered b

/-- A token in text in a table. -/
def stepInTableText (b : Builder) : Token → Step
  | .text content => .done { b with tableText := content :: b.tableText }
  | .null => .done b
  | token => .again (b.flushTableText.switchTo b.returnMode) token

/-! ## The table -/

/-- Closes what is open inside the innermost table. -/
def popToTable (b : Builder) : Builder :=
  b.popBefore boundsTableScope

/-- Closes what is open inside the innermost section of a table. -/
def popToSection (b : Builder) : Builder :=
  b.popBefore (·.isOneOf ["tbody", "tfoot", "thead", "template", "html"])

/-- Closes what is open inside the innermost row. -/
def popToRow (b : Builder) : Builder :=
  b.popBefore (·.isOneOf ["tr", "template", "html"])

/-- Text in a table. -/
def startTableText (b : Builder) (token : Token) : Step :=
  if b.current.isOneOf fosterNames then
    .again { b with mode := .inTableText, returnMode := b.mode } token
  else b.stepFostered token

/-- Whether the first type of an input field says that it is not shown. -/
def isHiddenInput (tag : TagToken) : Bool :=
  (tag.attributes.find? (·.name == "type")).any fun a => sameName a.value "hidden"

/-- A start tag in a table. -/
def startInTable (b : Builder) (tag : TagToken) : Step :=
  match tag.name with
  | "caption" => .done ((b.popToTable.mark.openTag tag).switchTo .inCaption)
  | "colgroup" => .done ((b.popToTable.openTag tag).switchTo .inColumnGroup)
  | "col" => .again ((b.popToTable.openImplied "colgroup").switchTo .inColumnGroup) (.startTag tag)
  | "tbody" | "tfoot" | "thead" => .done ((b.popToTable.openTag tag).switchTo .inTableBody)
  | "td" | "th" | "tr" =>
    .again ((b.popToTable.openImplied "tbody").switchTo .inTableBody) (.startTag tag)
  | "table" =>
    if b.hasInScope boundsTableScope "table" then
      .again (b.popNamed "table").resetMode (.startTag tag)
    else .done b
  | "style" | "script" | "template" => b.startHead tag
  | "input" => if isHiddenInput tag then .done (b.addTag tag) else b.stepFostered (.startTag tag)
  | "form" =>
    if b.form.isSome || b.hasOpen "template" then .done b
    else
      let (b, e) := b.addElement .html tag.name tag.attributes
      .done { b with form := some e.id }
  | _ => b.stepFostered (.startTag tag)

/-- A token in a table, outside its parts. -/
def stepInTable (b : Builder) : Token → Step
  | .startTag tag => b.startInTable tag
  | .endTag "table" =>
    .done (if b.hasInScope boundsTableScope "table" then (b.popNamed "table").resetMode else b)
  | .endTag "template" => .done b.endTemplate
  | .endTag name =>
    if ["body", "html"].contains name || tablePartNames.contains name then .done b
    else b.stepFostered (.endTag name)
  | .comment => .done b.addComment
  | .text content => b.startTableText (.text content)
  | .null => b.startTableText .null
  | .doctype | .malformed => .done b

/-! ## Captions and columns -/

/-- Closes the caption. -/
def closeCaption (b : Builder) : Builder :=
  ((b.closeImplied.popNamed "caption").clearToMarker).switchTo .inTable

/-- A token in a caption. -/
def stepInCaption (b : Builder) (token : Token) : Step :=
  let isOpen := b.hasInScope boundsTableScope "caption"
  match token with
  | .startTag tag =>
    if tablePartNames.contains tag.name then
      if isOpen then .again b.closeCaption token else .done b
    else b.stepInBody token
  | .endTag "caption" => .done (if isOpen then b.closeCaption else b)
  | .endTag "table" => if isOpen then .again b.closeCaption token else .done b
  | .endTag name =>
    if ["body", "html"].contains name || tablePartNames.contains name then .done b
    else b.stepInBody token
  | _ => b.stepInBody token

/-- A token in a group of columns. -/
def stepInColumnGroup (b : Builder) (token : Token) : Step :=
  let isOpen := b.current.isNamed "colgroup"
  let leave (b : Builder) (token : Token) : Step :=
    if isOpen then .again (b.pop.switchTo .inTable) token else .done b
  match token with
  | .text content =>
    let blank := content.toList.takeWhile isTagBlank
    let rest := content.toList.drop blank.length
    let b := if blank.isEmpty then b else b.addText (String.ofList blank)
    if rest.isEmpty then .done b else leave b (.text (String.ofList rest))
  | .comment => .done b.addComment
  | .startTag tag =>
    match tag.name with
    | "html" => .done b
    | "col" => .done (b.addTag tag)
    | "template" => b.startHead tag
    | _ => leave b token
  | .endTag "colgroup" => .done (if isOpen then b.pop.switchTo .inTable else b)
  | .endTag "col" => .done b
  | .endTag "template" => .done b.endTemplate
  | _ => leave b token

/-! ## Sections, rows and cells -/

/-- Closes the section of a table. -/
def closeSection (b : Builder) : Builder :=
  b.popToSection.pop.switchTo .inTable

/-- A token in a section of a table. -/
def stepInTableBody (b : Builder) (token : Token) : Step :=
  let leave : Step :=
    if inScope boundsTableScope (·.isOneOf ["table", "tbody", "tfoot"]) b.opened then
      .again b.closeSection token
    else .done b
  match token with
  | .startTag tag =>
    match tag.name with
    | "tr" => .done ((b.popToSection.openTag tag).switchTo .inRow)
    | "th" | "td" => .again ((b.popToSection.openImplied "tr").switchTo .inRow) token
    | "caption" | "col" | "colgroup" | "tbody" | "tfoot" | "thead" => leave
    | _ => b.stepInTable token
  | .endTag name =>
    match name with
    | "tbody" | "tfoot" | "thead" =>
      .done (if b.hasInScope boundsTableScope name then b.closeSection else b)
    | "table" => leave
    | "body" | "caption" | "col" | "colgroup" | "html" | "td" | "th" | "tr" => .done b
    | _ => b.stepInTable token
  | _ => b.stepInTable token

/-- Closes the row. -/
def closeRow (b : Builder) : Builder :=
  b.popToRow.pop.switchTo .inTableBody

/-- A token in a row. -/
def stepInRow (b : Builder) (token : Token) : Step :=
  let isOpen := b.hasInScope boundsTableScope "tr"
  let leave : Step := if isOpen then .again b.closeRow token else .done b
  match token with
  | .startTag tag =>
    match tag.name with
    | "th" | "td" => .done ((b.popToRow.openTag tag).mark.switchTo .inCell)
    | "caption" | "col" | "colgroup" | "tbody" | "tfoot" | "thead" | "tr" => leave
    | _ => b.stepInTable token
  | .endTag name =>
    match name with
    | "tr" => .done (if isOpen then b.closeRow else b)
    | "table" => leave
    | "tbody" | "tfoot" | "thead" =>
      if b.hasInScope boundsTableScope name then leave else .done b
    | "body" | "caption" | "col" | "colgroup" | "html" | "td" | "th" => .done b
    | _ => b.stepInTable token
  | _ => b.stepInTable token

/-- Closes the cell. -/
def closeCell (b : Builder) : Builder :=
  ((b.closeImplied.popThrough (·.isOneOf ["td", "th"])).clearToMarker).switchTo .inRow

/-- A token in a cell. -/
def stepInCell (b : Builder) (token : Token) : Step :=
  match token with
  | .startTag tag =>
    if tablePartNames.contains tag.name then
      if inScope boundsTableScope (·.isOneOf ["td", "th"]) b.opened then .again b.closeCell token
      else .done b
    else b.stepInBody token
  | .endTag name =>
    match name with
    | "td" | "th" =>
      .done (if b.hasInScope boundsTableScope name then
          ((b.closeImplied.popNamed name).clearToMarker).switchTo .inRow
        else b)
    | "body" | "caption" | "col" | "colgroup" | "html" => .done b
    | "table" | "tbody" | "tfoot" | "thead" | "tr" =>
      if b.hasInScope boundsTableScope name then .again b.closeCell token else .done b
    | _ => b.stepInBody token
  | _ => b.stepInBody token

end HtmlToLatex.Html.Builder
