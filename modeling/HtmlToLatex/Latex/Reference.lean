import HtmlToLatex.Latex.Escape

set_option autoImplicit false

/-! # Character references in escaped text

Markup that was encoded twice still holds character references after it is read, and escaping
turns their ampersand and hash into two characters each. Such references are recognised here in
their escaped spelling and replaced by what they stand for. -/

namespace HtmlToLatex

/-- A decimal digit. -/
def isDecimal (c : Char) : Bool := c.isDigit

/-- A hexadecimal digit of either case. -/
def isHexadecimal (c : Char) : Bool :=
  c.isDigit || ('a' ≤ c && c ≤ 'f') || ('A' ≤ c && c ≤ 'F')

/-- The value of a digit, decimal or hexadecimal. -/
def digitValue (c : Char) : Nat :=
  if c.isDigit then c.toNat - '0'.toNat
  else if 'a' ≤ c && c ≤ 'z' then c.toNat - 'a'.toNat + 10
  else if 'A' ≤ c && c ≤ 'Z' then c.toNat - 'A'.toNat + 10
  else 0

/-- The number that digits spell in a base, most significant first. -/
def numeral (base : Nat) (digits : List Char) : Nat :=
  digits.foldl (fun n c => n * base + digitValue c) 0

/-- The character with a code point, unless the code point is a surrogate or too large. -/
def charOfCode? (n : Nat) : Option Char :=
  if h : n.isValidChar then some (Char.ofNatAux n h) else none

/-- The characters that the six names without a table stand for. -/
def basicEntity? (name : List Char) : Option Char :=
  if name == "amp".toList then some '&'
  else if name == "lt".toList then some '<'
  else if name == "gt".toList then some '>'
  else if name == "quot".toList then some '"'
  else if name == "apos".toList then some '\''
  else if name == "nbsp".toList then some '\u00a0'
  else none

/-- Splits a text at the end of its longest beginning whose characters all satisfy `p`, provided
    that the length of this beginning is right and a semicolon follows, which is dropped. -/
def upToSemicolon? (p : Char → Bool) (rightLength : Nat → Bool) (s : List Char) :
    Option (List Char × List Char) :=
  let body := s.takeWhile p
  if rightLength body.length then
    match s.dropWhile p with
    | ';' :: rest => some (body, rest)
    | _ => none
  else none

/-- Reads what follows the escaped ampersand of a reference: its code or name, and a semicolon.
    There is no result if it stands for no character. -/
def readReferenceBody? (s : List Char) : Option (Char × List Char) := do
  match s with
  | '\\' :: '#' :: 'x' :: digits | '\\' :: '#' :: 'X' :: digits =>
    let (body, rest) ← upToSemicolon? isHexadecimal (fun n => 1 ≤ n && n ≤ 6) digits
    return (← charOfCode? (numeral 16 body), rest)
  | '\\' :: '#' :: digits =>
    let (body, rest) ← upToSemicolon? isDecimal (fun n => 1 ≤ n && n ≤ 7) digits
    return (← charOfCode? (numeral 10 body), rest)
  | name =>
    let (body, rest) ← upToSemicolon? Char.isAlpha (fun n => 1 ≤ n) name
    return (← basicEntity? body, rest)

/-- Reads a reference at the start of an escaped text. -/
def readReference? : List Char → Option (Char × List Char)
  | '\\' :: '&' :: s => readReferenceBody? s
  | _ => none

theorem upToSemicolon?_length {p : Char → Bool} {rightLength : Nat → Bool}
    {s body rest : List Char} (h : upToSemicolon? p rightLength s = some (body, rest)) :
    rest.length < s.length := by
  simp only [upToSemicolon?] at h
  split at h
  · split at h
    next tail heq =>
      cases h
      have hs := List.takeWhile_append_dropWhile (p := p) (l := s)
      rw [heq] at hs
      rw [← hs]
      simp
      omega
    · cases h
  · cases h

theorem readReferenceBody?_length {s rest : List Char} {c : Char}
    (h : readReferenceBody? s = some (c, rest)) : rest.length < s.length := by
  unfold readReferenceBody? at h
  split at h <;>
  · simp only [Option.bind_eq_bind, Option.bind_eq_some_iff, Option.pure_def] at h
    obtain ⟨⟨body, tail⟩, hbody, d, _, heq⟩ := h
    have hlen := upToSemicolon?_length hbody
    cases heq
    first | omega | (simp only [List.length_cons]; omega)

/-- A reference takes up some of the text. -/
theorem readReference?_length {s rest : List Char} {c : Char}
    (h : readReference? s = some (c, rest)) : rest.length < s.length := by
  unfold readReference? at h
  split at h
  · have := readReferenceBody?_length h
    simp only [List.length_cons]
    omega
  · cases h

/-- Replaces every reference in an escaped text. A reserved character that comes out is escaped
    again; a reference that stands for no character stays as it is written. -/
def decodeEntityChars : List Char → List Char
  | [] => []
  | c :: r =>
    match _h : readReference? (c :: r) with
    | some (d, rest) => (reserved? d).getD [d] ++ decodeEntityChars rest
    | none => c :: decodeEntityChars r
termination_by s => s.length
decreasing_by
  · exact readReference?_length _h
  · simp

/-- Replaces every reference in an escaped text. -/
def decodeEntities (s : String) : String :=
  String.ofList (decodeEntityChars s.toList)

end HtmlToLatex
