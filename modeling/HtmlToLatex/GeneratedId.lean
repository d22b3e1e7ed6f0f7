set_option autoImplicit false

/-! # Generated ids

Nine letters and digits that count upwards from a seed. With a random seed they can hardly be
guessed, and ids of one seed differ until all have been used. -/

namespace HtmlToLatex

/-- The characters of ids. -/
def idChars : List Char :=
  "ABCDEFGHIJKLMNOPQRSTUVWXYZabcdefghijklmnopqrstuvwxyz0123456789".toList

/-- The length of ids. -/
def idLength : Nat := 9

/-- The character of a digit. -/
def idChar (digit : Nat) : Char :=
  idChars.getD (digit % idChars.length) 'A'

/-- The last `count` digits of a number, the last one first. -/
def idDigits : Nat → Nat → List Char
  | 0, _ => []
  | count + 1, n => idChar n :: idDigits count (n / idChars.length)

/-- The `n`-th id of a seed. -/
def generatedId (seed n : Nat) : String :=
  String.ofList (idDigits idLength (seed + n)).reverse

end HtmlToLatex
