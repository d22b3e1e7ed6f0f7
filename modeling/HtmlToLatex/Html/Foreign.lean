import HtmlToLatex.Html.Builder

set_option autoImplicit false

/-! # Foreign content

SVG and MathML inside HTML: which tokens their own rules apply to, how their names are spelled, and
which HTML elements end them. -/

namespace HtmlToLatex.Html

/-! ## Spelling of attributes -/

/-- The attribute names of SVG that have upper case letters. -/
def svgAttributeNames : List String :=
  ["attributeName", "attributeType", "baseFrequency", "baseProfile", "calcMode", "clipPathUnits",
   "diffuseConstant", "edgeMode", "filterUnits", "glyphRef", "gradientTransform", "gradientUnits",
   "kernelMatrix", "kernelUnitLength", "keyPoints", "keySplines", "keyTimes", "lengthAdjust",
   "limitingConeAngle", "markerHeight", "markerUnits", "markerWidth", "maskContentUnits",
   "maskUnits", "numOctaves", "pathLength", "patternContentUnits", "patternTransform",
   "patternUnits", "pointsAtX", "pointsAtY", "pointsAtZ", "preserveAlpha", "preserveAspectRatio",
   "primitiveUnits", "refX", "refY", "repeatCount", "repeatDur", "requiredExtensions",
   "requiredFeatures", "specularConstant", "specularExponent", "spreadMethod", "startOffset",
   "stdDeviation", "stitchTiles", "surfaceScale", "systemLanguage", "tableValues", "targetX",
   "targetY", "textLength", "viewBox", "viewTarget", "xChannelSelector", "yChannelSelector",
   "zoomAndPan"]

/-- Attribute names that belong to a namespace, with their names in it. -/
def qualifiedNames : List (String × String) :=
  [("xlink:actuate", "actuate"), ("xlink:arcrole", "arcrole"), ("xlink:href", "href"),
   ("xlink:role", "role"), ("xlink:show", "show"), ("xlink:title", "title"),
   ("xlink:type", "type"), ("xml:base", "base"), ("xml:lang", "lang"), ("xml:space", "space"),
   ("xmlns:xlink", "xlink")]

/-- The name of an attribute in a vocabulary, from its name in lower case. -/
def attributeName (vocabulary : Vocabulary) (name : String) : String :=
  let spelled :=
    match vocabulary with
    | .html => name
    | .svg => (svgAttributeNames.find? (lowerAscii · == name)).getD name
    | .mathMl => if name = "definitionurl" then "definitionURL" else name
  (qualifiedNames.lookup spelled).getD spelled

/-- The attributes of an element of a vocabulary. -/
def foreignAttributes (vocabulary : Vocabulary) (attributes : List Attribute) : List Attribute :=
  attributes.map fun a => { a with name := attributeName vocabulary a.name }

/-! ## Breaking out -/

/-- HTML elements that do not stand in foreign content. -/
def breakoutNames : List String :=
  ["b", "big", "blockquote", "body", "br", "center", "code", "dd", "div", "dl", "dt", "em",
   "embed", "h1", "h2", "h3", "h4", "h5", "h6", "head", "hr", "i", "img", "li", "listing", "menu",
   "meta", "nobr", "ol", "p", "pre", "ruby", "s", "small", "span", "strong", "strike", "sub",
   "sup", "table", "tt", "u", "ul", "var"]

/-- Whether a start tag ends the foreign content that it stands in. -/
def breaksOut (tag : TagToken) : Bool :=
  breakoutNames.contains tag.name ||
    (tag.name == "font" &&
      tag.attributes.any fun a => ["color", "face", "size"].contains a.name)

/-- Whether the rules of foreign content apply to a token in an element. -/
def isForeignIn (e : OpenElement) (token : Token) : Bool :=
  let isText : Bool :=
    match token with
    | .text _ | .null => true
    | _ => false
  let isStart (p : String → Bool) : Bool :=
    match token with
    | .startTag tag => p tag.name
    | _ => false
  if e.vocabulary == .html then false
  else if e.isMathText &&
      (isText || isStart fun name => name ≠ "mglyph" && name ≠ "malignmark") then false
  else if e.isSvgHtml && (isText || isStart fun _ => true) then false
  else if e.vocabulary == .mathMl && e.name == "annotation-xml" then
    if isStart (· == "svg") then false
    else if isText || isStart fun _ => true then !e.annotatesHtml
    else true
  else true

namespace Builder

/-- Adds a foreign element and opens it unless its tag closes itself. -/
def openForeign (b : Builder) (vocabulary : Vocabulary) (tag : TagToken) : Builder :=
  let attributes := foreignAttributes vocabulary tag.attributes
  let (b, e) := b.addElement vocabulary tag.name attributes
  if tag.selfClosing then b else { b with opened := e :: b.opened }

/-- Closes the foreign elements that an HTML element ends. -/
def leaveForeign (b : Builder) : Builder :=
  b.popBefore fun e => e.vocabulary == .html || e.isMathText || e.isSvgHtml

/-- What an end tag does in foreign content. -/
inductive ForeignEnd where
  /-- It closes elements; these stay open. -/
  | closes (opened : List OpenElement)
  /-- The rules of HTML apply. -/
  | asHtml

/-- The effect of an end tag on the open elements, innermost first. The outermost element stays. -/
def foreignEnd (name : String) (b : Builder) : ForeignEnd :=
  let rec search (first : Bool) : List OpenElement → ForeignEnd
    | [] | [_] => .closes b.opened
    | e :: outer =>
      if !first && e.vocabulary == .html then .asHtml
      else if e.name == name then .closes outer
      else search false outer
  search true b.opened

end Builder
end HtmlToLatex.Html
