import HtmlToLatex.Export
import HtmlToLatex.Text.Quoted
import HtmlToLatex.Toml.Document

set_option autoImplicit false

/-! # Options in TOML

A document may give any of the options; the others keep their defaults, and other keys do not
count. The first key in the document whose value is of the wrong kind is reported. -/

namespace HtmlToLatex

/-! ## Kinds of values -/

/-- A value of the wrong kind. -/
structure KindMismatch where
  found : Toml.Value
  /-- The kind that the option has. -/
  expected : String

/-- What a value is called in a message. -/
def describe : Toml.Value → String
  | .string content => "string " ++ quoted content
  | .integer value => "integer \x60" ++ toString value ++ "\x60"
  | .float value => "floating point \x60" ++ value.render ++ "\x60"
  | .boolean value => "boolean \x60" ++ (if value then "true" else "false") ++ "\x60"
  | .array _ => "sequence"
  | .table _ | .dateTime => "map"

/-- The wording of a mismatch. -/
def KindMismatch.message (m : KindMismatch) : String :=
  "invalid type: " ++ describe m.found ++ ", expected " ++ m.expected

def asBoolean : Toml.Value → Except KindMismatch Bool
  | .boolean value => .ok value
  | v => .error ⟨v, "a boolean"⟩

def asString : Toml.Value → Except KindMismatch String
  | .string content => .ok content
  | v => .error ⟨v, "a string"⟩

def asPath : Toml.Value → Except KindMismatch Path
  | .string content => .ok ⟨content⟩
  | v => .error ⟨v, "path string"⟩

def asStrings : Toml.Value → Except KindMismatch (List String)
  | .array items => items.mapM asString
  | v => .error ⟨v, "a sequence"⟩

/-! ## Options -/

/-- Sets the option of a key to a value. -/
def Options.set (options : Options) (key : String) (v : Toml.Value) :
    Except KindMismatch Options := do
  match key with
  | "ignore_breaks" => return { options with ignoreBreaks := ← asBoolean v }
  | "prefer_dollar_inline_math" => return { options with preferDollarMath := ← asBoolean v }
  | "skip_wrapping_equations" => return { options with skipEquationWrap := ← asBoolean v }
  | "autogen_image_names" => return { options with autogenImageNames := ← asBoolean v }
  | "image_width" => return { options with imageWidth := some (← asString v) }
  | "image_height" => return { options with imageHeight := some (← asString v) }
  | "keep_image_aspect_ratio" => return { options with keepAspectRatio := ← asBoolean v }
  | "center_images" => return { options with centerImages := ← asBoolean v }
  | "compilation_dir" => return { options with compilationDir := some (← asPath v) }
  | "debug" => return { options with debug := ← asBoolean v }
  | "include_document_wrapper" => return { options with documentWrapper := ← asBoolean v }
  | "doc_class" => return { options with docClass := ← asString v }
  | "title" => return { options with title := some (← asString v) }
  | "author" => return { options with author := some (← asString v) }
  | "include_date" => return { options with includeDate := ← asBoolean v }
  | "include_packages" => return { options with packages := some (← asStrings v) }
  | _ => return options

/-- The options that the entries of a document give. -/
def Options.ofEntries (entries : List (String × Toml.Value)) : Except KindMismatch Options :=
  entries.foldlM (fun options (key, v) => options.set key v) {}

/-- The options that a text gives. -/
def parseOptions (source : String) : Except ConversionError Options :=
  match Toml.parse source with
  | none => .error (.config none .notToml)
  | some entries =>
    match Options.ofEntries entries with
    | .ok options => .ok options
    | .error mismatch => .error (.config none (.invalid mismatch.message))

/-- The options that a file gives. -/
def loadOptions (path : Path) : Attempt Options := do
  match parseOptions (← Attempt.readText path) with
  | .ok options => return options
  | .error e => throw (e.atPath path)

end HtmlToLatex
