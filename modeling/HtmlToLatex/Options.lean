import HtmlToLatex.Path

set_option autoImplicit false

/-! # Conversion options

What a caller may ask for. By default line breaks are ignored, a paragraph that is one formula is
displayed, images get generated names and are centred, and no document is put around the
result. -/

namespace HtmlToLatex

/-- The options of a conversion. -/
structure Options where
  /-- Drop line breaks in text, and write a line break element as a space. -/
  ignoreBreaks : Bool := true
  /-- Write inline formulas between dollars. -/
  preferDollarMath : Bool := false
  /-- Keep a paragraph that is one formula inline. -/
  skipEquationWrap : Bool := false
  /-- Give every image a generated name instead of the name in its source. -/
  autogenImageNames : Bool := true
  imageWidth : Option String := none
  imageHeight : Option String := none
  /-- Counts only when a width or a height is given. -/
  keepAspectRatio : Bool := false
  centerImages : Bool := true
  /-- The directory that receives the image directory; the working directory if absent. -/
  compilationDir : Option Path := none
  /-- Log image retrievals that fail. -/
  debug : Bool := false
  /-- Put a complete document around the result. -/
  documentWrapper : Bool := false
  docClass : String := "article"
  title : Option String := none
  author : Option String := none
  includeDate : Bool := false
  /-- The packages to load; if absent, they are inferred from the source text. -/
  packages : Option (List String) := none
  deriving Repr, BEq, DecidableEq, Inhabited

namespace Options

/-- The options of a complete document with a title. -/
def document (title : String) : Options :=
  { documentWrapper := true, title := some title }

/-- The directory that receives the image directory. The empty path is the working directory. -/
def imageBase (options : Options) : Path :=
  options.compilationDir.getD ⟨""⟩

end Options
end HtmlToLatex
