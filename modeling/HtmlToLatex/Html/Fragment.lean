import HtmlToLatex.Html.Rules

set_option autoImplicit false

/-! # Parsing fragments

Reads the content of a body, as browsers do: every text is a fragment, however it is written. -/

namespace HtmlToLatex.Html

/-- Where the reading of a source stands. -/
structure Reading where
  builder : Builder
  /-- How the text that follows is read. -/
  textMode : TextMode := .data
  /-- The element whose end tag ends text that is not of the mode `data`. -/
  element : String := ""

/-- Applies one token. A tag leads back to ordinary text unless its element says otherwise. -/
def Reading.apply (r : Reading) (token : Token) : Reading :=
  match r with
  | { builder, textMode, element } =>
    let (builder, textMode?) := builder.apply token
    match token with
    | .startTag tag => { builder, textMode := textMode?.getD .data, element := tag.name }
    | .endTag _ => { builder, textMode := textMode?.getD .data, element }
    | _ => { builder, textMode, element }

/-- Reads a source, at most `limit` pieces of it. -/
def Reading.run : Nat → Reading → List Char → Reading
  | 0, r, _ => r
  | _, r, [] => r
  | limit + 1, r, s =>
    let foreign := r.builder.current.vocabulary != .html
    let piece := scan r.textMode r.element foreign s
    Reading.run limit (piece.tokens.foldl Reading.apply r) piece.rest

/-- The document tree of a source. Every piece of the source is at least one character long. -/
def documentOf (source : String) : List DomNode :=
  let s := sourceChars source
  let b := (Reading.run s.length { builder := Builder.empty } s).builder.finish
  b.arena.forestBelow b.root.id

/-- The fragment that a source holds. -/
def parseFragment (source : String) : List Node :=
  fragmentOf (documentOf source)

end HtmlToLatex.Html
