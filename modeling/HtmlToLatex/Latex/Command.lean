set_option autoImplicit false

/-! # Commands and environments

The commands, environments and document parts that the output is made of. Nothing is escaped
here: the arguments are finished LaTeX. -/

namespace HtmlToLatex.Latex

/-- A text in braces. -/
def group (body : String) : String :=
  "\x7b" ++ body ++ "\x7d"

/-- A command with one argument. -/
def command (name argument : String) : String :=
  "\\" ++ name ++ group argument

/-- An environment; its body stands on lines of its own. -/
def environment (name body : String) : String :=
  command "begin" name ++ "\n" ++ body ++ "\n" ++ command "end" name

/-! ## Inline markup -/

def bold (text : String) : String := command "textbf" text

def italic (text : String) : String := command "textit" text

def underline (text : String) : String := command "underline" text

def strikethrough (text : String) : String := command "sout" text

def subscript (text : String) : String := "$_" ++ group text ++ "$"

def superscript (text : String) : String := "$^" ++ group text ++ "$"

def hyperlink (target text : String) : String := command "href" target ++ group text

/-! ## Headings and rules -/

/-- A heading of the first level is centred. -/
def sectionHeading (text : String) : String :=
  command "section*" (command "centering" text)

def subsectionHeading (text : String) : String := command "subsection*" text

def subsubsectionHeading (text : String) : String := command "subsubsection*" text

/-- A horizontal rule; it ends its line. -/
def rule : String := "\\hrule\n"

/-! ## Lists and listings -/

def item (text : String) : String := "\t\\item " ++ text

def itemize (items : List String) : String := environment "itemize" ("\n".intercalate items)

def enumerate (items : List String) : String := environment "enumerate" ("\n".intercalate items)

def listing (code : String) : String := environment "lstlisting" code

def center (text : String) : String := environment "center" ("\t" ++ text)

/-! ## Tables -/

/-- The column specification of a table: centred columns between lines. -/
def columnSpec (columns : Nat) : String :=
  "|" ++ String.join (List.replicate columns "c|")

/-- What follows a row of a table: the end of the row and a line. -/
def rowEnd : String := " \\\\\n\t\\hline\n"

/-- A table with lines around every cell. Each row is given with its cells joined. -/
def tabular (columns : Nat) (rows : List String) : String :=
  command "begin" "tabular" ++ group (columnSpec columns) ++ "\n\t\\hline\n"
    ++ String.join (rows.map fun row => "\t" ++ row ++ rowEnd) ++ "\t" ++ command "end" "tabular"

/-! ## Images -/

/-- How an image is set. -/
structure ImageLayout where
  width : Option String := none
  height : Option String := none
  /-- Counts only when a width or a height is given. -/
  keepAspectRatio : Bool := false
  centered : Bool := false
  deriving Repr, BEq, DecidableEq, Inhabited

/-- The settings of an image, as the command takes them. -/
def ImageLayout.settings (layout : ImageLayout) : List String :=
  let sizes := (layout.width.map ("width=" ++ ·)).toList
    ++ (layout.height.map ("height=" ++ ·)).toList
  if layout.keepAspectRatio && !sizes.isEmpty then sizes ++ ["keepaspectratio"] else sizes

/-- The command that shows an image file. -/
def includeGraphics (path : String) (layout : ImageLayout) : String :=
  let settings := layout.settings
  "\\includegraphics"
    ++ (if settings.isEmpty then "" else "[" ++ ",".intercalate settings ++ "]") ++ group path

/-- An image, centred if wanted. -/
def image (path : String) (layout : ImageLayout) : String :=
  let shown := includeGraphics path layout
  if layout.centered then center shown else shown

/-! ## Documents -/

def documentClass (name : String) : String := command "documentclass" name

def usePackages (names : List String) : String :=
  "\n".intercalate (names.map (command "usepackage"))

/-- The title block and the start of the document. -/
def beginDocument (title author : Option String) (includeDate : Bool) : String :=
  let block := (title.map (command "title")).toList ++ (author.map (command "author")).toList
    ++ (if includeDate then [command "date" "\\today"] else [])
  let start := command "begin" "document"
  "\n".intercalate (block ++ [if block.isEmpty then start else "\n" ++ start]
    ++ (if title.isSome then ["\n\\maketitle"] else []))

/-- The end of the document, on a line of its own. -/
def endDocument : String := "\n" ++ command "end" "document"

end HtmlToLatex.Latex
