import HtmlToLatex.Number.Binary64

set_option autoImplicit false

/-! # Values of TOML

What a document holds. The keys of a table are in the order in which they came into it. -/

namespace HtmlToLatex.Toml

/-- A value. Of a date or time only the presence is kept. -/
inductive Value where
  | string (content : String)
  | integer (value : Int)
  | float (value : Number.Binary64)
  | boolean (value : Bool)
  | dateTime
  | array (items : List Value)
  | table (entries : List (String × Value))
  deriving Repr, BEq, Inhabited

end HtmlToLatex.Toml
