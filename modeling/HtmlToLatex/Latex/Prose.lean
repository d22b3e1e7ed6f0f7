import HtmlToLatex.Latex.Reference
import HtmlToLatex.Latex.Math
import HtmlToLatex.Options

set_option autoImplicit false

/-! # Running text

A text of the source becomes running text in five passes: line breaks are dropped or made into
paragraph breaks, tabs are dropped, reserved characters are escaped, references that were encoded
twice are decoded, and inline formulas get the wanted delimiters. -/

namespace HtmlToLatex

/-- An empty line between two paragraphs. -/
def paragraphBreak : String := "\n\n"

/-- A carriage return or line feed. -/
def isLineBreak (c : Char) : Bool :=
  c == '\n' || c == '\r'

/-- Replaces every maximal run of line breaks. `inRun` says whether the text before ends in a
    line break that is replaced already. -/
def replaceBreaksFrom (replacement : List Char) (inRun : Bool) : List Char → List Char
  | [] => []
  | c :: r =>
    if isLineBreak c then
      (if inRun then [] else replacement) ++ replaceBreaksFrom replacement true r
    else c :: replaceBreaksFrom replacement false r

/-- Replaces every maximal run of line breaks. -/
def replaceBreaks (replacement s : List Char) : List Char :=
  replaceBreaksFrom replacement false s

/-- What a run of line breaks is replaced by. -/
def breakReplacement (options : Options) : List Char :=
  if options.ignoreBreaks then [] else paragraphBreak.toList

/-- Drops the tabs of a text. -/
def dropTabs (s : List Char) : List Char :=
  s.filter (· ≠ '\t')

/-- The last pass: formulas get dollars if the options ask for it. -/
def chooseDelimiters (options : Options) (s : List Char) : List Char :=
  if options.preferDollarMath then preferDollarChars s else s

/-- Turns a text of the source into running text. -/
def normalizeChars (options : Options) (s : List Char) : List Char :=
  chooseDelimiters options
    (decodeEntityChars
      (escapeReservedChars (dropTabs (replaceBreaks (breakReplacement options) s))))

/-- Turns a text of the source into running text. -/
def normalizeText (options : Options) (s : String) : String :=
  String.ofList (normalizeChars options s.toList)

/-- What a line break element becomes. -/
def lineBreak (options : Options) : String :=
  if options.ignoreBreaks then " " else paragraphBreak

end HtmlToLatex
