import HtmlToLatex.Html.Entity.Table
import HtmlToLatex.Latex.Reference
import HtmlToLatex.Path

set_option autoImplicit false

/-! # Character references in markup

An ampersand may start a reference: a number or a name. The longest name that fits is taken.
Inside attribute values a name without its semicolon is no reference when a letter, a digit or an
equals sign follows, so that queries in links survive. -/

namespace HtmlToLatex.Html

/-! ## Named references -/

/-- One line of the table: names with their characters. -/
def entityEntries (line : String) : List (List Char × List Char) :=
  (splitOnElement ' ' line.toList).map fun entry =>
    (entry.takeWhile (· ≠ '='),
      (splitOnElement '+' ((entry.dropWhile (· ≠ '=')).drop 1)).filterMap fun code =>
        charOfCode? (numeral 16 code))

/-- The references by name: what is written after the ampersand, and the characters it stands
    for. -/
def namedEntities : List (List Char × List Char) :=
  entityLines.flatMap fun line =>
    (entityEntries line).map fun (name, value) => (name ++ [';'], value)

/-- The names that may stand without a semicolon. -/
def bareNames : List (List Char) :=
  bareEntityLines.flatMap fun line => splitOnElement ' ' line.toList

/-- The references without a semicolon. -/
def bareEntities : List (List Char × List Char) :=
  bareNames.filterMap fun name =>
    (namedEntities.lookup (name ++ [';'])).map fun value => (name, value)

/-- All references that a text may start with, and the longest of them. -/
def longestEntity? (entries : List (List Char × List Char)) (s : List Char) :
    Option (List Char × List Char) :=
  entries.foldl (fun best entry =>
    if entry.1.isPrefixOf s && best.all (fun b => b.1.length < entry.1.length) then some entry
    else best) none

/-- Every spelling of a named reference. -/
def entitySpellings : List (List Char × List Char) :=
  namedEntities ++ bareEntities

/-! ## Reading a reference -/

/-- A reference that has been read: what it stands for, what follows it, and whether it is written
    as it should be. -/
structure EntityReading where
  value : List Char
  rest : List Char
  wellFormed : Bool

/-- The characters that the code points from 80 to 9F stand for in numeric references; zero marks
    those that stand for themselves. -/
def c1Replacements : List Nat :=
  [0x20AC, 0, 0x201A, 0x0192, 0x201E, 0x2026, 0x2020, 0x2021, 0x02C6, 0x2030, 0x0160, 0x2039,
   0x0152, 0, 0x017D, 0, 0, 0x2018, 0x2019, 0x201C, 0x201D, 0x2022, 0x2013, 0x2014, 0x02DC,
   0x2122, 0x0161, 0x203A, 0x0153, 0, 0x017E, 0x0178]

/-- The character that takes the place of what is no character. -/
def replacementChar : Char := '\ufffd'

/-- The character that a code point in a reference stands for. -/
def numericValue (n : Nat) : Char :=
  let n := if 0x80 ≤ n && n ≤ 0x9F then
      match c1Replacements[n - 0x80]? with
      | some 0 => n
      | some m => m
      | none => n
    else n
  if n = 0 then replacementChar else (charOfCode? n).getD replacementChar

/-- Reads digits and an optional semicolon. -/
def readCode? (isDigit : Char → Bool) (base : Nat) (s : List Char) : Option EntityReading :=
  let digits := s.takeWhile isDigit
  if digits.isEmpty then none
  else
    let value := [numericValue (numeral base digits)]
    match s.dropWhile isDigit with
    | ';' :: rest => some { value, rest, wellFormed := true }
    | rest => some { value, rest, wellFormed := false }

/-- Whether a bare name is not taken for a reference inside an attribute value, because of what
    follows it. -/
def continuesName (rest : List Char) : Bool :=
  rest.head?.any fun c => c.isAlphanum || c == '='

/-- Reads what follows an ampersand, if it is a reference. -/
def readEntity? (inAttribute : Bool) (s : List Char) : Option EntityReading :=
  match s with
  | '#' :: 'x' :: r | '#' :: 'X' :: r => readCode? isHexadecimal 16 r
  | '#' :: r => readCode? isDecimal 10 r
  | s =>
    if s.head?.any Char.isAlphanum then
      match longestEntity? entitySpellings s with
      | none => none
      | some (name, value) =>
        let rest := s.drop name.length
        let closed := name.getLast? == some ';'
        if inAttribute && !closed && continuesName rest then none
        else some { value, rest, wellFormed := closed }
    else none

/-- Decodes the references of an attribute value; null characters are replaced. `fuel` bounds the
    number of steps. -/
def decodeAttributeWith : Nat → List Char → List Char
  | 0, s => s
  | _ + 1, [] => []
  | fuel + 1, c :: r =>
    if c = '&' then
      match readEntity? true r with
      | some reading => reading.value ++ decodeAttributeWith fuel reading.rest
      | none => '&' :: decodeAttributeWith fuel r
    else (if c = '\x00' then replacementChar else c) :: decodeAttributeWith fuel r

/-- Decodes the references of an attribute value; null characters are replaced. -/
def decodeAttribute (s : List Char) : List Char :=
  decodeAttributeWith s.length s

end HtmlToLatex.Html
