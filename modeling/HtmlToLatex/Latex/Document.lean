import HtmlToLatex.Latex.Command
import HtmlToLatex.Options

set_option autoImplicit false

/-! # Documents

Blocks of output, the document around them, and the packages that a source text calls for. -/

namespace HtmlToLatex

/-- Puts blocks together with an empty line between them. Empty blocks do not show. -/
def joinBlocks (blocks : List String) : String :=
  "\n\n".intercalate (blocks.filter (· ≠ ""))

/-! ## Packages -/

/-- Texts whose presence in a source calls for a package, in the order in which the packages are
    loaded. -/
def packageTriggers : List (String × String) :=
  [("\\cfrac", "amsmath"), ("<img", "graphicx"), ("\\therefore", "amssymb"), ("<s>", "ulem"),
   ("</a>", "hyperref"), ("</code>", "listings")]

/-- Whether one text occurs in another. -/
def occursIn (pattern : List Char) : List Char → Bool
  | [] => pattern.isEmpty
  | c :: r => pattern.isPrefixOf (c :: r) || occursIn pattern r

/-- The packages that a source text calls for. -/
def inferPackages (source : String) : List String :=
  (packageTriggers.filter fun (trigger, _) => occursIn trigger.toList source.toList).map (·.2)

/-- The options with the packages filled in from the source text if they are not given. -/
def Options.withInferredPackages (options : Options) (source : String) : Options :=
  { options with packages := some (options.packages.getD (inferPackages source)) }

/-! ## The document around the blocks -/

/-- The blocks before the body of a document. -/
def documentHead (options : Options) : List String :=
  let packages := options.packages.getD []
  Latex.documentClass options.docClass
    :: (if packages.isEmpty then [] else [Latex.usePackages packages])
    ++ [Latex.beginDocument options.title options.author options.includeDate]

/-- Puts a document around the blocks of a body if the options ask for one. -/
def wrapDocument (options : Options) (body : List String) : List String :=
  if options.documentWrapper then documentHead options ++ body ++ [Latex.endDocument] else body

end HtmlToLatex
