set_option autoImplicit false

/-! # Switches

What may be written on the command line to change a run. Some switches take a value; most are given
at most once. -/

namespace HtmlToLatex

/-- A switch of the command line. -/
inductive Switch where
  | config | keepBreaks | preferDollarMath | skipEquationWrap | document | docClass | title | author
  | date | package | imagesDir | imageWidth | imageHeight | keepAspectRatio | noCenterImages
  | keepImageNames | offline | debug
  | output | overwrite | outputPath
  deriving Repr, BEq, DecidableEq, Inhabited

/-- What takes the switches: the program, or its subcommand that converts a file in place. -/
inductive Level where
  | program
  | convertFile
  deriving Repr, BEq, DecidableEq, Inhabited

namespace Switch

/-- The names of the switches that both levels take. -/
def commonNames : List (String × Switch) :=
  [("config", config), ("keep-breaks", keepBreaks), ("prefer-dollar-math", preferDollarMath),
   ("skip-equation-wrap", skipEquationWrap), ("document", document), ("doc-class", docClass),
   ("title", title), ("author", author), ("date", date), ("package", package),
   ("images-dir", imagesDir), ("image-width", imageWidth), ("image-height", imageHeight),
   ("keep-aspect-ratio", keepAspectRatio), ("no-center-images", noCenterImages),
   ("keep-image-names", keepImageNames), ("offline", offline), ("debug", debug)]

/-- The names of the switches of a level. -/
def names : Level → List (String × Switch)
  | .program => ("output", output) :: commonNames
  | .convertFile =>
    [("overwrite", overwrite), ("ow", overwrite), ("output-file-path", outputPath),
     ("ofp", outputPath)] ++ commonNames

/-- The switch of a name. -/
def ofName? (level : Level) (name : String) : Option Switch :=
  (names level).lookup name

/-- The switch of a letter. -/
def ofLetter? : Level → Char → Option Switch
  | .program, 'o' => some output
  | _, _ => none

/-- Whether the value of a switch is a path, which is not empty. -/
def takesPath : Switch → Bool
  | config | imagesDir | output | outputPath => true
  | _ => false

/-- Whether a switch takes a value. -/
def takesValue (s : Switch) : Bool :=
  s.takesPath ||
    match s with
    | docClass | title | author | package | imageWidth | imageHeight => true
    | _ => false

/-- Whether a switch may be given more than once. -/
def mayRepeat (s : Switch) : Bool :=
  s == package

end Switch
end HtmlToLatex
