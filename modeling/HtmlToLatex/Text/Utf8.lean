set_option autoImplicit false

/-! # Bytes as text

Reads bytes as UTF-8. Where they are none, the longest start of a character, or else one byte, is
read as the replacement character. -/

namespace HtmlToLatex.Utf8

/-- Stands for bytes that are no text. -/
def replacement : Char := '\ufffd'

/-- A byte that goes on with a character. -/
def isContinuation (b : UInt8) : Bool :=
  0x80 ≤ b && b ≤ 0xBF

/-- The six bits of a byte that goes on with a character. -/
def payload (b : UInt8) : Nat :=
  b.toNat % 64

/-- Whether the second byte of a character of three bytes fits its first one. -/
def fitsThree (a b : UInt8) : Bool :=
  isContinuation b && (a ≠ 0xE0 || 0xA0 ≤ b) && (a ≠ 0xED || b ≤ 0x9F)

/-- Whether the second byte of a character of four bytes fits its first one. -/
def fitsFour (a b : UInt8) : Bool :=
  isContinuation b && (a ≠ 0xF0 || 0x90 ≤ b) && (a ≠ 0xF4 || b ≤ 0x8F)

/-- The text that bytes hold. -/
def decodeLossy : List UInt8 → List Char
  | [] => []
  | a :: r =>
    if a < 0x80 then Char.ofNat a.toNat :: decodeLossy r
    else if 0xC2 ≤ a && a ≤ 0xDF then
      match r with
      | b :: r' =>
        if isContinuation b then
          Char.ofNat ((a.toNat - 0xC0) * 64 + payload b) :: decodeLossy r'
        else replacement :: decodeLossy (b :: r')
      | [] => [replacement]
    else if 0xE0 ≤ a && a ≤ 0xEF then
      match r with
      | b :: c :: r' =>
        if !fitsThree a b then replacement :: decodeLossy (b :: c :: r')
        else if isContinuation c then
          Char.ofNat ((a.toNat - 0xE0) * 4096 + payload b * 64 + payload c) :: decodeLossy r'
        else replacement :: decodeLossy (c :: r')
      | [b] => if fitsThree a b then [replacement] else replacement :: decodeLossy [b]
      | [] => [replacement]
    else if 0xF0 ≤ a && a ≤ 0xF4 then
      match r with
      | b :: c :: d :: r' =>
        if !fitsFour a b then replacement :: decodeLossy (b :: c :: d :: r')
        else if !isContinuation c then replacement :: decodeLossy (c :: d :: r')
        else if isContinuation d then
          Char.ofNat ((a.toNat - 0xF0) * 262144 + payload b * 4096 + payload c * 64 + payload d)
            :: decodeLossy r'
        else replacement :: decodeLossy (d :: r')
      | [b, c] =>
        if !fitsFour a b then replacement :: decodeLossy [b, c]
        else if isContinuation c then [replacement]
        else replacement :: decodeLossy [c]
      | [b] => if fitsFour a b then [replacement] else replacement :: decodeLossy [b]
      | [] => [replacement]
    else replacement :: decodeLossy r

end HtmlToLatex.Utf8
