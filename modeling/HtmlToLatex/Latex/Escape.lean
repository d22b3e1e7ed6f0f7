import HtmlToLatex.Text.Blank

set_option autoImplicit false

/-! # Escaping

Five characters are reserved in running text: percent, ampersand, hash, tilde and bar. One escaper
protects just these and leaves a character alone that already follows a backslash, so that TeX
written into the source survives; the other protects every special character of TeX. -/

namespace HtmlToLatex

/-- The protected spelling of a reserved character. -/
def reserved? : Char → Option (List Char)
  | '%' => some ['\\', '%']
  | '&' => some ['\\', '&']
  | '#' => some ['\\', '#']
  | '~' => some "\\textasciitilde\x7b\x7d".toList
  | '|' => some "\\textbar\x7b\x7d".toList
  | _ => none

/-- Every protected spelling opens with a backslash. -/
theorem head?_of_reserved? {c : Char} {r : List Char} (h : reserved? c = some r) :
    r.head? = some '\\' := by
  unfold reserved? at h
  split at h <;> cases h <;> rfl

/-! ## Reserved characters -/

/-- Protects the reserved characters of a text that comes after the character `before`. A
    character after a backslash is left alone. -/
def escapeReservedAfter (before : Option Char) : List Char → List Char
  | [] => []
  | c :: r =>
    (match reserved? c with
      | some spelling => if before == some '\\' then [c] else spelling
      | none => [c]) ++ escapeReservedAfter (some c) r

/-- Protects the reserved characters of a text, except directly after a backslash. -/
def escapeReservedChars (s : List Char) : List Char :=
  escapeReservedAfter none s

/-- Protects the reserved characters of a text, except directly after a backslash. -/
def escapeReserved (s : String) : String :=
  String.ofList (escapeReservedChars s.toList)

/-! ## Special characters -/

/-- The spelling of one character in which nothing is special to TeX. -/
def escapeSpecial (c : Char) : List Char :=
  match c with
  | '\\' => "\\textbackslash\x7b\x7d".toList
  | '{' => ['\\', '{']
  | '}' => ['\\', '}']
  | '$' => ['\\', '$']
  | '^' => "\\^\x7b\x7d".toList
  | '_' => ['\\', '_']
  | c => (reserved? c).getD [c]

/-- Protects every special character of a text. -/
def escapeLatexChars (s : List Char) : List Char :=
  s.flatMap escapeSpecial

/-- Protects every special character of a text. -/
def escapeLatex (s : String) : String :=
  String.ofList (escapeLatexChars s.toList)

end HtmlToLatex
