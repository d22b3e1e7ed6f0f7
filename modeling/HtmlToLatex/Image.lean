import HtmlToLatex.Latex.Command
import HtmlToLatex.Markup.Tag
import HtmlToLatex.World

set_option autoImplicit false

/-! # Images

An image is shown from a file in the image directory. The file gets the name in the source of the
image or a generated one. If it is not there it is retrieved, when the source is an absolute URL;
the output does not depend on whether that works. -/

namespace HtmlToLatex

/-! ## Local names -/

/-- The path in the source of an image, without scheme, host, query and fragment. -/
def sourcePath (source : String) : Path :=
  match Url.parse source with
  | .ok url => if url.isOpaque then ⟨""⟩ else ⟨String.ofList url.path⟩
  | .error _ => ⟨String.ofList (source.toList.takeWhile fun c => c ≠ '?' ∧ c ≠ '#')⟩

/-- The extension of images whose source has none. -/
def defaultExtension : String := "jpg"

/-- The extension in the source of an image. -/
def sourceExtension (source : String) : String :=
  ((sourcePath source).extension?.filter (· ≠ "")).getD defaultExtension

/-- The name of an image file that is taken over from the source. There is none if names are to be
    generated or the source has no name. -/
def keptName? (autogen : Bool) (source : String) : Option String :=
  if autogen then none else (sourcePath source).fileName?

/-- The name of an image file with a generated id. -/
def generatedName (id source : String) : String :=
  id ++ "." ++ sourceExtension source

/-- The name of the local file of an image, given the id that is generated if it is needed. -/
def localName (autogen : Bool) (source id : String) : String :=
  (keptName? autogen source).getD (generatedName id source)

/-- The name of the local file of an image. An id is generated only if it is needed. -/
def drawLocalName (setting : Setting) (source : String) : Conversion String :=
  match keptName? setting.options.autogenImageNames source with
  | some name => pure name
  | none => do return generatedName (← Conversion.drawId setting) source

/-! ## Retrieval -/

/-- The name of the image directory. -/
def imagesName : String := "images"

/-- The directory that receives the images. -/
def imageDirectory (options : Options) : Path :=
  options.imageBase.join ⟨imagesName⟩

/-- Retrieves an image into the image directory, which is made if it is missing. -/
def retrieveImage (setting : Setting) (source : String) (destination : Path) :
    Conversion (Except FetchError Unit) :=
  match Url.parse source with
  | .error e => pure (.error (.notAUrl source e.message))
  | .ok url => do
    match ← Conversion.makeDirectories (imageDirectory setting.options) with
    | .error e => return .error (.io e.message)
    | .ok () => Conversion.fetch setting { url, destination }

/-- Retrieves an image if its file is not there. A failure is logged if the options ask for it. -/
def provideImage (setting : Setting) (source : String) (destination : Path) : Conversion Unit := do
  if (← get).files.existsAt destination then return
  match ← retrieveImage setting source destination with
  | .ok () => return
  | .error e =>
    if setting.options.debug then
      Conversion.logAll ["image not retrieved: " ++ source, e.message]

/-! ## Output -/

/-- The layout of images that the options ask for. -/
def imageLayout (options : Options) : Latex.ImageLayout where
  width := options.imageWidth
  height := options.imageHeight
  keepAspectRatio := options.keepAspectRatio
  centered := options.centerImages

/-- Converts an image with a source. -/
def convertSource (setting : Setting) (source : String) : Conversion String := do
  let name ← drawLocalName setting source
  provideImage setting source ((imageDirectory setting.options).join ⟨name⟩)
  return Latex.image (imagesName ++ "/" ++ name) (imageLayout setting.options)

/-- Converts an image; without a source there is nothing to show. -/
def convertImage (setting : Setting) (attributes : List Attribute) : Conversion (Option String) :=
  match attribute? attributes "src" with
  | some source => do return some (← convertSource setting source)
  | none => pure none

end HtmlToLatex
