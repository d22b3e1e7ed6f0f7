import HtmlToLatex.Text.CodeRange
import HtmlToLatex.Text.Quoted.Table

set_option autoImplicit false

/-! # Quoted texts

A text in a message stands between double quotes. Quotes and backslashes in it get a backslash,
and characters that would not show are written as their code points. -/

namespace HtmlToLatex

/-- The characters that do not show. -/
def hiddenRanges : Array CodeRange :=
  CodeRange.ofLines hiddenLines

/-- A number in lower case hexadecimal digits. -/
def hexText (n : Nat) : String :=
  String.ofList (Nat.toDigits 16 n)

/-- How a character is written between double quotes. -/
def quotedChar (c : Char) : String :=
  match c with
  | '\x00' => "\\0"
  | '\t' => "\\t"
  | '\n' => "\\n"
  | '\r' => "\\r"
  | '"' => "\\\""
  | '\\' => "\\\\"
  | c =>
    if c.toNat < 0x7F && 0x20 ≤ c.toNat then String.singleton c
    else if CodeRange.anyHolds hiddenRanges c then "\\u\x7b" ++ hexText c.toNat ++ "\x7d"
    else String.singleton c

/-- A text between double quotes. -/
def quoted (s : String) : String :=
  "\"" ++ String.join (s.toList.map quotedChar) ++ "\""

end HtmlToLatex
