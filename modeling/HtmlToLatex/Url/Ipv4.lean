import HtmlToLatex.Latex.Reference
import HtmlToLatex.Path
import HtmlToLatex.Url.Error

set_option autoImplicit false

/-! # IPv4 addresses as hosts

A host that ends in a number is an IPv4 address: up to four numbers, decimal, octal or
hexadecimal, of which the last one fills the bytes that are left. -/

namespace HtmlToLatex.Url

/-- The numbers of a host: what stands between its dots, without the empty part after a last
    dot. -/
def numberParts (host : List Char) : List (List Char) :=
  let parts := splitOnElement '.' host
  if parts.getLast? == some [] then parts.dropLast else parts

/-- A number of an address, in the base that its first characters tell. -/
def ipv4Number? (s : List Char) : Option Nat :=
  match s with
  | [] => none
  | '0' :: 'x' :: digits | '0' :: 'X' :: digits =>
    if digits.all isHexadecimal then some (numeral 16 digits) else none
  | '0' :: d :: digits =>
    if (d :: digits).all (fun c => '0' ≤ c && c ≤ '7') then some (numeral 8 (d :: digits)) else none
  | digits => if digits.all isDecimal then some (numeral 10 digits) else none

/-- Whether the last part of a host is a number, so that the host must be an address. -/
def endsInNumber (host : List Char) : Bool :=
  match (numberParts host).getLast? with
  | none => false
  | some last => (!last.isEmpty && last.all isDecimal) || (ipv4Number? last).isSome

/-- The value of an address. -/
def ipv4Value? (host : List Char) : Option Nat := do
  let parts := numberParts host
  if 4 < parts.length then none
  else
    let numbers ← parts.mapM ipv4Number?
    let last ← numbers.getLast?
    let front := numbers.dropLast
    if Nat.pow 256 (4 - front.length) ≤ last || front.any (255 < ·) then none
    else some (front.foldl (fun n b => n * 256 + b) 0 * Nat.pow 256 (4 - front.length) + last)

/-- The four bytes of an address, in decimal with dots. -/
def renderIpv4 (value : Nat) : String :=
  ".".intercalate ([3, 2, 1, 0].map fun i => toString (value / Nat.pow 256 i % 256))

/-- Reads a host that ends in a number. -/
def parseIpv4 (host : List Char) : Except UrlError Nat :=
  match ipv4Value? host with
  | some value => .ok value
  | none => .error .invalidIpv4

end HtmlToLatex.Url
