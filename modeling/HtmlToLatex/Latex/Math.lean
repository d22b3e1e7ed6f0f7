import HtmlToLatex.Text.Blank

set_option autoImplicit false

/-! # Mathematics in text

Inline formulas are written between dollars or between `\(` and `\)`. The two spellings can be
made one, and a paragraph that is a single inline formula becomes a displayed one. -/

namespace HtmlToLatex

/-- Replaces every occurrence of the two characters `a` and `b` in a row, taken from the left, by
    the character `c`. -/
def replacePair (a b c : Char) : List Char → List Char
  | x :: y :: r =>
    if x = a ∧ y = b then c :: replacePair a b c r else x :: replacePair a b c (y :: r)
  | r => r

/-- Writes both parenthesis delimiters as dollars. -/
def preferDollarChars (s : List Char) : List Char :=
  replacePair '\\' ')' '$' (replacePair '\\' '(' '$' s)

/-- Writes both parenthesis delimiters as dollars. -/
def preferDollarMath (s : String) : String :=
  String.ofList (preferDollarChars s.toList)

/-! ## A paragraph that is one formula -/

/-- What follows an opening delimiter. -/
def afterOpening? : List Char → Option (List Char)
  | '$' :: r => some r
  | '\\' :: '(' :: r => some r
  | _ => none

/-- What precedes a closing delimiter, both read from the right. -/
def beforeClosing? : List Char → Option (List Char)
  | '$' :: r => some r
  | ')' :: '\\' :: r => some r
  | _ => none

/-- The text between the outer delimiters, when a text opens and closes with one. The delimiters
    need not be of one kind. -/
def formulaInterior? (s : List Char) : Option (List Char) :=
  (afterOpening? s).bind fun r => (beforeClosing? r.reverse).map List.reverse

/-- Turns a text that is one inline formula into a displayed formula. A dollar between the outer
    delimiters means that there is more than one formula, and the text is kept. -/
def wrapSoleEquationChars (s : List Char) : List Char :=
  match formulaInterior? s with
  | some interior => if interior.contains '$' then s else '\\' :: '[' :: interior ++ ['\\', ']']
  | none => s

/-- Turns a text that is one inline formula into a displayed formula. -/
def wrapSoleEquation (s : String) : String :=
  String.ofList (wrapSoleEquationChars s.toList)

end HtmlToLatex
