import HtmlToLatex.Text.Blank
import HtmlToLatex.Latex.Reference

set_option autoImplicit false

/-! # Percent encoding

A character that may not stand in some part of a URL is written as its UTF-8 bytes, each as a
percent sign and two hexadecimal digits. Every part has its own set of such characters; those
outside ASCII belong to all sets. -/

namespace HtmlToLatex.Url

/-- A control character of ASCII. -/
def isControl (c : Char) : Bool :=
  c.toNat < 0x20 || c.toNat == 0x7F

/-- Characters encoded in opaque paths and hosts. -/
def encodedInControls (c : Char) : Bool :=
  isControl c || 0x7F < c.toNat

/-- Characters encoded in fragments. -/
def encodedInFragment (c : Char) : Bool :=
  encodedInControls c || [' ', '"', '<', '>', '\x60'].contains c

/-- Characters encoded in queries. -/
def encodedInQuery (c : Char) : Bool :=
  encodedInControls c || [' ', '"', '#', '<', '>'].contains c

/-- Characters encoded in queries of the special schemes. -/
def encodedInSpecialQuery (c : Char) : Bool :=
  encodedInQuery c || c == '\''

/-- Characters encoded in paths. -/
def encodedInPath (c : Char) : Bool :=
  encodedInFragment c || ['#', '?', '{', '}'].contains c

/-- Characters encoded in user names and passwords. -/
def encodedInUserInfo (c : Char) : Bool :=
  encodedInPath c || ['/', ':', ';', '=', '@', '[', '\\', ']', '^', '|'].contains c

/-- The digit of a value below sixteen, in upper case. -/
def upperHexDigit (n : Nat) : Char :=
  if n < 10 then Char.ofNat ('0'.toNat + n) else Char.ofNat ('A'.toNat + n - 10)

/-- A byte as a percent sign and two digits. -/
def percentByte (b : UInt8) : List Char :=
  ['%', upperHexDigit (b.toNat / 16), upperHexDigit (b.toNat % 16)]

/-- A character by its bytes. -/
def percentChar (c : Char) : List Char :=
  (String.utf8EncodeChar c).flatMap percentByte

/-- Encodes one character if it belongs to a set. -/
def percentEncodeChar (set : Char → Bool) (c : Char) : List Char :=
  if set c then percentChar c else [c]

/-- Encodes the characters of a text that belong to a set. -/
def percentEncode (set : Char → Bool) (s : List Char) : List Char :=
  s.flatMap (percentEncodeChar set)

/-- The bytes that a text stands for: encoded bytes are decoded, all other characters are their
    own UTF-8 bytes. -/
def percentDecode : List Char → List UInt8
  | '%' :: a :: b :: r =>
    if isHexadecimal a && isHexadecimal b then
      UInt8.ofNat (digitValue a * 16 + digitValue b) :: percentDecode r
    else String.utf8EncodeChar '%' ++ percentDecode (a :: b :: r)
  | c :: r => String.utf8EncodeChar c ++ percentDecode r
  | [] => []

end HtmlToLatex.Url
