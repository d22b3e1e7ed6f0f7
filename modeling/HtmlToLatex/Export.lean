import HtmlToLatex.Convert
import HtmlToLatex.Error

set_option autoImplicit false

/-! # Converting files

Reads an HTML file, converts it, and writes the result to a `.tex` file. -/

namespace HtmlToLatex

/-- A conversion that may fail. What was done before a failure stays. -/
abbrev Attempt := ExceptT ConversionError Conversion

namespace Attempt

/-- Fails if a file operation failed, naming the path. -/
def ofFileResult {α : Type} (path : Path) : Except FileError α → Attempt α
  | .ok a => pure a
  | .error e => throw ((ConversionError.ofFileError e).atPath path)

/-- The text of a file. -/
def readText (path : Path) : Attempt String := do
  ofFileResult path ((← get).files.readText path)

/-- Writes a text file. -/
def writeText (path : Path) (text : String) : Attempt Unit := do
  let w ← get
  let files ← ofFileResult path (w.files.writeText path text)
  set { w with files }

/-- Makes a directory and those above it. -/
def makeDirectories (path : Path) : Attempt Unit := do
  ofFileResult path (← Conversion.makeDirectories path)

end Attempt

/-- The extension of the files written. -/
def texExtension : String := "tex"

/-- Writes a text to the file of a name with the extension `tex` in a directory, which is made if
    it is missing. Returns the path of the file. -/
def exportFile (text name : String) (directory : Path) : Attempt Path := do
  if name = "" then throw (.invalidInput "output file name is empty")
  Attempt.makeDirectories directory
  let path := directory.join ⟨name ++ "." ++ texExtension⟩
  Attempt.writeText path text
  Conversion.logAll ["wrote " ++ path.text]
  return path

/-- The options with the directory for images filled in if it is not given. -/
def Options.withCompilationDir (options : Options) (directory : Path) : Options :=
  { options with compilationDir := some (options.compilationDir.getD directory) }

/-- Converts a file and writes the result to the file of a name in a directory. The images go to
    the directory of the source file if the options do not say otherwise. -/
def convertFileInto (setting : Setting) (input directory : Path) (name : String) :
    Attempt Path := do
  let source ← Attempt.readText input
  let options := setting.options.withCompilationDir input.directory
  let text ← convertText { setting with options } source
  exportFile text name directory

/-- The failure to find a file name in a path. -/
def noFileName (path : Path) : ConversionError :=
  .invalidInput (path.text ++ " has no file name")

/-- Converts a file and writes the result beside it. If no name is given, it is the whole name of
    the source file. -/
def convertFile (setting : Setting) (input : Path) (name : Option String) : Attempt Path := do
  match name.or input.fileName? with
  | some name => convertFileInto setting input input.directory name
  | none => throw (noFileName input)

end HtmlToLatex
