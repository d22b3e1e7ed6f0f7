import HtmlToLatex.Html.Table

set_option autoImplicit false

/-! # The rules in force

Each token is handled by the rules of the mode in force, or by those of foreign content. Some rules
change the mode and hand the token on. -/

namespace HtmlToLatex.Html.Builder

/-! ## Selections -/

/-- Closes the selection. -/
def closeSelect (b : Builder) : Builder :=
  (b.popNamed "select").resetMode

/-- Closes the choice that is open. -/
def closeOption (b : Builder) : Builder :=
  if b.current.isNamed "option" then b.pop else b

/-- Closes the group of choices that is open. -/
def closeGroup (b : Builder) : Builder :=
  if b.current.isNamed "optgroup" then b.pop else b

/-- The end tag of a group of choices, which also closes a choice in it. -/
def endGroup (b : Builder) : Builder :=
  match b.opened with
  | e :: outer :: _ =>
    (if e.isNamed "option" && outer.isNamed "optgroup" then b.pop else b).closeGroup
  | _ => b.closeGroup

/-- A token in a selection. -/
def stepInSelect (b : Builder) (token : Token) : Step :=
  let isOpen := b.hasInScope boundsSelectScope "select"
  match token with
  | .text content => .done (b.addText content)
  | .comment => .done b.addComment
  | .startTag tag =>
    match tag.name with
    | "option" => .done (b.closeOption.openTag tag)
    | "optgroup" => .done (b.closeOption.closeGroup.openTag tag)
    | "select" => .done (if isOpen then b.closeSelect else b)
    | "input" | "keygen" | "textarea" => if isOpen then .again b.closeSelect token else .done b
    | "script" | "template" => b.startHead tag
    | _ => .done b
  | .endTag "optgroup" => .done b.endGroup
  | .endTag "option" => .done b.closeOption
  | .endTag "select" => .done (if isOpen then b.closeSelect else b)
  | .endTag "template" => .done b.endTemplate
  | .endTag _ | .null | .doctype | .malformed => .done b

/-- Elements of a table that end a selection in it. -/
def selectEndNames : List String :=
  ["caption", "table", "tbody", "tfoot", "thead", "tr", "td", "th"]

/-- A token in a selection in a table. -/
def stepInSelectInTable (b : Builder) (token : Token) : Step :=
  match token with
  | .startTag tag =>
    if selectEndNames.contains tag.name then .again b.closeSelect token else b.stepInSelect token
  | .endTag name =>
    if selectEndNames.contains name then
      if b.hasInScope boundsTableScope name then .again b.closeSelect token else .done b
    else b.stepInSelect token
  | _ => b.stepInSelect token

/-! ## Templates -/

/-- The mode in a template whose first element is of a name. -/
def templateMode (name : String) : InsertionMode :=
  match name with
  | "caption" | "colgroup" | "tbody" | "tfoot" | "thead" => .inTable
  | "col" => .inColumnGroup
  | "tr" => .inTableBody
  | "td" | "th" => .inRow
  | _ => .inBody

/-- A token in a template whose kind of content is not known yet. -/
def stepInTemplate (b : Builder) : Token → Step
  | .text content => b.stepInBody (.text content)
  | .comment => .done b.addComment
  | .startTag tag =>
    if headNames.contains tag.name then b.startHead tag
    else
      let mode := templateMode tag.name
      .again { b with mode, templateModes := mode :: b.templateModes.drop 1 } (.startTag tag)
  | .endTag "template" => .done b.endTemplate
  | .endTag _ | .null | .doctype | .malformed => .done b

/-! ## All rules -/

/-- Handles a token by the rules of the mode in force. -/
def stepInMode (b : Builder) (token : Token) : Step :=
  match b.mode with
  | .inBody => b.stepInBody token
  | .inRawText => b.stepInRawText token
  | .inTable => b.stepInTable token
  | .inTableText => b.stepInTableText token
  | .inCaption => b.stepInCaption token
  | .inColumnGroup => b.stepInColumnGroup token
  | .inTableBody => b.stepInTableBody token
  | .inRow => b.stepInRow token
  | .inCell => b.stepInCell token
  | .inSelect => b.stepInSelect token
  | .inSelectInTable => b.stepInSelectInTable token
  | .inTemplate => b.stepInTemplate token

/-- Handles a token by the rules of foreign content. -/
def stepInForeign (b : Builder) (token : Token) : Step :=
  match token with
  | .null => .done (b.addText (String.singleton replacementChar))
  | .text content => .done (b.addText content)
  | .comment => .done b.addComment
  | .startTag tag =>
    if breaksOut tag then b.leaveForeign.stepInMode token
    else .done (b.openForeign b.current.vocabulary tag)
  | .endTag name =>
    if ["br", "p"].contains name then b.leaveForeign.stepInMode token
    else
      match foreignEnd name b with
      | .closes opened => .done { b with opened }
      | .asHtml => b.stepInMode token
  | .doctype | .malformed => .done b

/-- Handles a token until it is used up, handing it on at most `limit` times. Returns how the text
    that follows is read, if that changes. -/
def settle : Nat → Builder → Token → Builder × Option TextMode
  | 0, b, _ => (b, none)
  | limit + 1, b, token =>
    let step := if isForeignIn b.current token then b.stepInForeign token else b.stepInMode token
    match step with
    | .done b => (b, none)
    | .read mode b => (b, some mode)
    | .again b token => settle limit b token

/-- Handles a token. Handing it on closes an element or goes from a part of a table to one around
    it, so the number of open elements bounds how often that happens. -/
def handle (b : Builder) (token : Token) : Builder × Option TextMode :=
  settle (4 * b.opened.length + 16) b token

/-- Applies a token of the source. -/
def apply (b : Builder) (token : Token) : Builder × Option TextMode :=
  let skips := b.skipsLineFeed
  let b := { b with skipsLineFeed := false }
  match token with
  | .malformed | .doctype => (b, none)
  | .text content =>
    let kept :=
      match skips, content.toList with
      | true, '\n' :: rest => String.ofList rest
      | _, _ => content
    if kept.isEmpty then (b, none) else b.handle (.text kept)
  | token => b.handle token

/-- Completes the document at the end of the source. -/
def finish (b : Builder) : Builder :=
  if b.mode == .inTableText then b.flushTableText else b

end HtmlToLatex.Html.Builder
