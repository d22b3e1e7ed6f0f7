import HtmlToLatex.Latex.Reference
import HtmlToLatex.Path
import HtmlToLatex.Url.Error

set_option autoImplicit false

/-! # IPv6 addresses as hosts

Eight pieces of up to four hexadecimal digits between colons. One run of zero pieces may be left
out between two colons, and the last two pieces may be written as an IPv4 address. -/

namespace HtmlToLatex.Url

/-- One decimal number of the IPv4 part: no leading zero, at most 255. -/
def decimalByte? (s : List Char) : Option Nat :=
  if s.isEmpty || !s.all isDecimal || (s.head? == some '0' && 1 < s.length) then none
  else
    let n := numeral 10 s
    if n ≤ 255 then some n else none

/-- The two pieces that an IPv4 address stands for. -/
def embeddedPieces? (s : List Char) : Option (List Nat) := do
  match ← (splitOnElement '.' s).mapM decimalByte? with
  | [a, b, c, d] => some [a * 256 + b, c * 256 + d]
  | _ => none

/-- One piece of up to four digits. -/
def hexPiece? (s : List Char) : Option Nat :=
  if s.isEmpty || 4 < s.length || !s.all isHexadecimal then none else some (numeral 16 s)

/-- The pieces between colons; only the last one may be an IPv4 address. -/
def pieces? : List (List Char) → Option (List Nat)
  | [] => some []
  | [last] => if last.contains '.' then embeddedPieces? last else (hexPiece? last).map ([·])
  | piece :: rest => do some ((← hexPiece? piece) :: (← pieces? rest))

/-- Splits a text at the first two colons in a row. -/
def splitDoubleColon? : List Char → Option (List Char × List Char)
  | ':' :: ':' :: r => some ([], r)
  | c :: r => (splitDoubleColon? r).map fun (a, b) => (c :: a, b)
  | [] => none

/-- The pieces of a text without a double colon; an empty text has none. -/
def piecesOf? (s : List Char) : Option (List Nat) :=
  if s.isEmpty then some [] else pieces? (splitOnElement ':' s)

/-- The eight pieces of an address. -/
def ipv6Pieces? (s : List Char) : Option (List Nat) := do
  match splitDoubleColon? s with
  | none =>
    let pieces ← piecesOf? s
    if pieces.length = 8 then some pieces else none
  | some (front, back) =>
    if front.contains '.' then none
    else
      let front ← piecesOf? front
      let back ← piecesOf? back
      let given := front.length + back.length
      if given ≤ 7 then some (front ++ List.replicate (8 - given) 0 ++ back) else none

/-- Reads what stands between the brackets of a host. -/
def parseIpv6 (s : List Char) : Except UrlError (List Nat) :=
  match ipv6Pieces? s with
  | some pieces => .ok pieces
  | none => .error .invalidIpv6

/-! ## Writing -/

/-- The number of zeros at the front. -/
def leadingZeros (pieces : List Nat) : Nat :=
  (pieces.takeWhile (· = 0)).length

/-- Where the first of the longest runs of zero pieces starts, and how long it is. -/
def longestZeroRun : List Nat → Nat → Nat × Nat
  | [], start => (start, 0)
  | piece :: rest, start =>
    let here := leadingZeros (piece :: rest)
    let later := longestZeroRun rest (start + 1)
    if later.2 ≤ here then (start, here) else later

/-- A piece in lower-case digits. -/
def renderPiece (n : Nat) : String :=
  String.ofList (Nat.toDigits 16 n)

/-- An address: the first longest run of two or more zero pieces is left out. -/
def renderIpv6 (pieces : List Nat) : String :=
  let run := longestZeroRun pieces 0
  let render (ps : List Nat) := ":".intercalate (ps.map renderPiece)
  if 2 ≤ run.2 then render (pieces.take run.1) ++ "::" ++ render (pieces.drop (run.1 + run.2))
  else render pieces

end HtmlToLatex.Url
