import HtmlToLatex.FileSystem

set_option autoImplicit false

/-! # Failures of conversions

What can go wrong around a conversion: the request makes no sense, a file cannot be read or
written, or the options in a file are not usable. The conversion of a text itself never fails. -/

namespace HtmlToLatex

/-- What is wrong with options that were read. -/
inductive ConfigFault where
  /-- The text is no TOML document. -/
  | notToml
  /-- The document does not hold options. -/
  | invalid (message : String)
  deriving Repr, BEq, DecidableEq, Inhabited

/-- The wording of a fault. -/
def ConfigFault.message : ConfigFault → String
  | .notToml => "not a TOML document"
  | .invalid message => message

/-- A failure, with the path that it concerns if that is known. -/
inductive ConversionError where
  | invalidInput (message : String)
  | io (path : Option Path) (message : String)
  | config (path : Option Path) (fault : ConfigFault)
  deriving Repr, BEq, DecidableEq, Inhabited

namespace ConversionError

/-- The failure of a file operation. -/
def ofFileError (e : FileError) : ConversionError :=
  .io none e.message

/-- Says which path a failure concerns. A request that makes no sense concerns no path. -/
def atPath (path : Path) : ConversionError → ConversionError
  | .invalidInput message => .invalidInput message
  | .io _ message => .io (some path) message
  | .config _ fault => .config (some path) fault

/-- A heading with the path, if there is one. -/
def heading (title word : String) : Option Path → String
  | none => title ++ ": "
  | some path => title ++ " " ++ word ++ " " ++ path.text ++ ": "

/-- The wording of a failure. -/
def message : ConversionError → String
  | .invalidInput message => "Invalid input: " ++ message
  | .io path message => heading "IO error" "at" path ++ message
  | .config path fault => heading "Invalid configuration" "in" path ++ fault.message

/-- The last path counts. -/
theorem atPath_atPath (p q : Path) (e : ConversionError) : (e.atPath p).atPath q = e.atPath q := by
  cases e <;> rfl

end ConversionError
end HtmlToLatex
