import HtmlToLatex.CommandLine.Arguments
import HtmlToLatex.Config

set_option autoImplicit false

/-! # Running commands

A run reads the command line, takes the options from a file and from the switches, converts, and
says what to print and how to exit. As all paths are texts, the name of an output file is taken
from a path as it is; nothing in it has to be replaced. -/

namespace HtmlToLatex

/-- What a run shows. -/
structure Report where
  exitCode : Nat
  output : String := ""
  /-- The lines of the error output. -/
  notes : List String := []
  deriving Repr, BEq, DecidableEq, Inhabited

/-- What a run depends on besides the command line and the files. -/
structure Surroundings where
  /-- The bytes of the standard input. -/
  input : ByteArray := ⟨#[]⟩
  /-- Retrieves images from the web. -/
  transfer : Fetcher
  /-- The ids that are generated. -/
  ids : Nat → String

/-! ## Options -/

/-- Changes options as the switches say. -/
def Arguments.override (a : Arguments) (options : Options) : Options :=
  let packages := a.values .package
  { ignoreBreaks := options.ignoreBreaks && !a.has .keepBreaks
    preferDollarMath := options.preferDollarMath || a.has .preferDollarMath
    skipEquationWrap := options.skipEquationWrap || a.has .skipEquationWrap
    autogenImageNames := options.autogenImageNames && !a.has .keepImageNames
    imageWidth := (a.value? .imageWidth).or options.imageWidth
    imageHeight := (a.value? .imageHeight).or options.imageHeight
    keepAspectRatio := options.keepAspectRatio || a.has .keepAspectRatio
    centerImages := options.centerImages && !a.has .noCenterImages
    compilationDir := (a.path? .imagesDir).or options.compilationDir
    debug := options.debug || a.has .debug
    documentWrapper := options.documentWrapper || a.has .document
    docClass := (a.value? .docClass).getD options.docClass
    title := (a.value? .title).or options.title
    author := (a.value? .author).or options.author
    includeDate := options.includeDate || a.has .date
    packages := if packages.isEmpty then options.packages else some packages }

/-- The options that arguments ask for: those of the file that is named, or else the defaults,
    changed as the switches say. -/
def Arguments.resolve (a : Arguments) : Attempt Options :=
  match a.path? .config with
  | some path => do return a.override (← loadOptions path)
  | none => pure (a.override {})

/-- The fetcher that arguments ask for. -/
def Arguments.fetcher (a : Arguments) (s : Surroundings) : Fetcher :=
  if a.has .offline then Fetcher.offline else Fetcher.web s.transfer

/-! ## Output files -/

/-- The directory and name of an output file. The extension `tex` may be left out. -/
def explicitOutput (path : Path) : Except ConversionError (Path × String) :=
  match if path.extension? = some texExtension then path.stem? else path.fileName? with
  | some name => .ok (path.directory, name)
  | none => .error (.invalidInput (path.text ++ " is not a file path"))

/-- What is put before the name of a source file to name the output file. -/
def processedMark : String := "processed-"

/-- The name of the output file beside a source file. -/
def defaultOutputName (input : Path) (overwrite : Bool) : Except ConversionError String :=
  match input.stem? with
  | some stem => .ok (if overwrite then stem else processedMark ++ stem)
  | none => .error (noFileName input)

/-! ## Commands -/

/-- The source text of a conversion: that of a file, or the standard input. -/
def readSource (s : Surroundings) : Option Path → Attempt String
  | some path => Attempt.readText path
  | none =>
    match FileSystem.textOfBytes s.input with
    | .ok text => pure text
    | .error e => throw (.ofFileError e)

/-- Writes the result of a conversion to a file, whose directory is made if it is missing. -/
def writeResult (path : Path) (text : String) : Attempt Unit := do
  match path.parent?.filter (·.text ≠ "") with
  | some parent =>
    match ← Conversion.makeDirectories parent with
    | .ok () => pure ()
    | .error e => throw (.ofFileError e)
  | none => pure ()
  Attempt.writeText path (text ++ "\n")

/-- Converts the source. Images go to `imageHome` if the options do not say otherwise. -/
def runConvert (s : Surroundings) (input imageHome : Option Path) (a : Arguments)
    (options : Options) : Attempt String := do
  let source ← readSource s input
  let compilationDir := options.compilationDir.or imageHome
  convertText { options := { options with compilationDir }, fetcher := a.fetcher s, ids := s.ids }
    source

/-- Converts a file in place. Returns the path that was written. -/
def runConvertFile (s : Surroundings) (input : Path) (overwrite : Bool) (output : Option Path)
    (a : Arguments) (options : Options) : Attempt Path := do
  let (directory, name) ←
    match output with
    | some path => explicitOutput path
    | none => (defaultOutputName input overwrite).map fun name => (input.directory, name)
  convertFileInto { options, fetcher := a.fetcher s, ids := s.ids } input directory name

/-- Runs a command with its options. Returns what is printed and a closing note. -/
def Command.perform (s : Surroundings) (options : Options) :
    Command → Attempt (String × List String)
  | .convert input output a => do
    let text ← runConvert s input (output.map Path.directory) a options
    match output with
    | none => return (text ++ "\n", [])
    | some path =>
      writeResult path text
      return ("", ["✓ Output written to: " ++ path.text])
  | .convertFile input overwrite output a => do
    let path ← runConvertFile s input overwrite output a options
    return ("", ["✓ " ++ path.text])

/-! ## Which files matter -/

/-- The options of a command with the directory for images filled in. -/
def Command.settledOptions (options : Options) : Command → Options
  | .convert _ output _ =>
    { options with compilationDir := options.compilationDir.or (output.map Path.directory) }
  | .convertFile input _ _ _ => options.withCompilationDir input.directory

/-- The path of the file that a command writes. -/
def Command.target? : Command → Option Path
  | .convert _ output _ => output
  | .convertFile input overwrite output _ =>
    let choice :=
      match output with
      | some path => explicitOutput path
      | none => (defaultOutputName input overwrite).map fun name => (input.directory, name)
    (choice.toOption).map fun (directory, name) => directory.join ⟨name ++ "." ++ texExtension⟩

/-- The path of the file that a command reads. -/
def Command.input? : Command → Option Path
  | .convert input _ _ => input
  | .convertFile input _ _ _ => some input

/-! ## Reports -/

/-- The lines of a text. -/
def linesOf (text : String) : List String :=
  (splitOnElement '\n' text.toList).map String.ofList

/-- The lines of a log message; all but the first are indented. -/
def logLines (message : String) : List String :=
  match linesOf message with
  | [] => []
  | first :: others => ("[DEBUG] " ++ first) :: others.map ("    " ++ ·)

/-- The lines of the log, if the options ask for it. The environment does not ask for more, so what
    is traced is never shown. -/
def shownLog (options : Options) (logged : List String) : List String :=
  if options.debug then logged.flatMap logLines else []

/-- The lines that report a failure. -/
def failureLines (e : ConversionError) : List String :=
  linesOf ("error: " ++ e.message)

/-- The report of a run with its options, which logged some messages. -/
def reportOf (options : Options) (logged : List String) :
    Except ConversionError (String × List String) → Report
  | .ok (output, closing) =>
    { exitCode := 0, output, notes := shownLog options logged ++ closing.flatMap linesOf }
  | .error e => { exitCode := 1, notes := shownLog options logged ++ failureLines e }

/-- Runs a command. -/
def Command.run (s : Surroundings) (c : Command) : Conversion Report := do
  match ← c.arguments.resolve.run with
  | .error e => return { exitCode := 1, notes := failureLines e }
  | .ok options =>
    let before ← get
    let outcome ← (c.perform s options).run
    let after ← get
    return reportOf options (after.log.drop before.log.length) outcome

/-- What is printed for the version. -/
def versionText : String := "h2l 0.1.0\n"

/-- What is printed for help: a short usage, which stands in for the page with all switches. -/
def helpText : String :=
  "Usage: h2l [OPTIONS] [INPUT_FILE]\n       h2l [OPTIONS] convert-file [OPTIONS] <INPUT>\n"

/-- Runs a command line. -/
def runCommandLine (s : Surroundings) (args : List String) : Conversion Report :=
  match Command.ofArguments args with
  | .ok command => command.run s
  | .error .version => pure { exitCode := 0, output := versionText }
  | .error .help => pure { exitCode := 0, output := helpText }
  | .error .misuse => pure { exitCode := 2 }

end HtmlToLatex
