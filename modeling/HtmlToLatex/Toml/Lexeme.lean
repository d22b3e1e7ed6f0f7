import HtmlToLatex.Latex.Reference
import HtmlToLatex.Number.Binary64
import HtmlToLatex.Text.Blank

set_option autoImplicit false

/-! # Lexemes of TOML

Blanks, comments, strings, keys and numbers. A reader returns what it read from the
front of a text and what follows it; it fails by returning nothing. -/

namespace HtmlToLatex.Toml

/-! ## Blanks and comments -/

/-- A blank within a line. -/
def isLineBlank (c : Char) : Bool :=
  c == ' ' || c == '\t'

/-- Drops the blanks at the front. -/
def skipBlanks (s : List Char) : List Char :=
  s.dropWhile isLineBlank

/-- A character that may stand in a comment or in a literal string that may hold apostrophes. -/
def isPlain (c : Char) : Bool :=
  c == '\t' || (' ' ≤ c && c ≠ '\x7f')

/-- What follows a line end. -/
def afterLineEnd? : List Char → Option (List Char)
  | '\n' :: r => some r
  | '\r' :: '\n' :: r => some r
  | _ => none

/-- Drops a comment at the front. -/
def skipComment (s : List Char) : List Char :=
  match s with
  | '#' :: r => r.dropWhile isPlain
  | s => s

/-- What follows the rest of a line that may only hold a comment. The text may end there. -/
def afterLine? (s : List Char) : Option (List Char) :=
  match skipComment (skipBlanks s) with
  | [] => some []
  | r => afterLineEnd? r

/-- Drops blanks, comments and line ends at the front, at most `limit` of them. -/
def skipLayoutTo : Nat → List Char → List Char
  | 0, s => s
  | limit + 1, s =>
    match s with
    | ' ' :: r | '\t' :: r => skipLayoutTo limit r
    | '#' :: r => skipLayoutTo limit (r.dropWhile isPlain)
    | s =>
      match afterLineEnd? s with
      | some r => skipLayoutTo limit r
      | none => s

/-- Drops blanks, comments and line ends at the front. -/
def skipLayout (s : List Char) : List Char :=
  skipLayoutTo s.length s

/-! ## Strings -/

/-- The character of an escape with a letter. -/
def letterEscape? : Char → Option Char
  | 'b' => some '\x08'
  | 'f' => some '\x0c'
  | 'n' => some '\n'
  | 'r' => some '\r'
  | 't' => some '\t'
  | '"' => some '"'
  | '\\' => some '\\'
  | _ => none

/-- Reads a code point of a number of digits. -/
def readCode (digits : Nat) (s : List Char) : Option (Char × List Char) :=
  let code := s.take digits
  if code.length = digits && code.all isHexadecimal then
    (charOfCode? (numeral 16 code)).map fun c => (c, s.drop digits)
  else none

/-- Reads what follows a backslash. -/
def readEscape : List Char → Option (Char × List Char)
  | 'u' :: r => readCode 4 r
  | 'U' :: r => readCode 8 r
  | c :: r => (letterEscape? c).map fun e => (e, r)
  | [] => none

/-- A character that stands for itself in a string with escapes. -/
def isUnescaped (c : Char) : Bool :=
  isPlain c && c ≠ '"' && c ≠ '\\'

/-- Puts a character in front of what a reader returns. -/
def prepend (c : Char) : Option (List Char × List Char) → Option (List Char × List Char)
  | some (s, r) => some (c :: s, r)
  | none => none

/-- Reads the rest of a string with escapes, at most `limit` characters. -/
def readBasic : Nat → List Char → Option (List Char × List Char)
  | 0, _ => none
  | limit + 1, s =>
    match s with
    | '"' :: r => some ([], r)
    | '\\' :: r => do
      let (c, r) ← readEscape r
      prepend c (readBasic limit r)
    | c :: r => if isUnescaped c then prepend c (readBasic limit r) else none
    | [] => none

/-- Reads the rest of a literal string. -/
def readLiteral : List Char → Option (List Char × List Char)
  | [] => none
  | '\'' :: r => some ([], r)
  | c :: r => if isPlain c then prepend c (readLiteral r) else none

/-- Reads a run of quotes that may end a string of several lines: three end it, and up to two more
    belong to it. A shorter run belongs to the string, which goes on. -/
def closingQuotes (quote : Char) (s : List Char) : Option (List Char × List Char) :=
  let run := s.takeWhile (· = quote)
  if 3 ≤ run.length then
    let extra := min 2 (run.length - 3)
    some (List.replicate extra quote, s.drop (extra + 3))
  else none

/-- What follows a backslash at the end of a line: the next line that is not blank. -/
def afterContinuation? (s : List Char) : Option (List Char) :=
  (afterLineEnd? (skipBlanks s)).map (skip s.length)
where
  /-- Drops blanks and line ends at the front. -/
  skip : Nat → List Char → List Char
    | 0, s => s
    | limit + 1, s =>
      match s with
      | ' ' :: r | '\t' :: r => skip limit r
      | s =>
        match afterLineEnd? s with
        | some r => skip limit r
        | none => s

/-- Reads the rest of a string of several lines with escapes. Line ends count as line feeds. -/
def readLongBasic : Nat → List Char → Option (List Char × List Char)
  | 0, _ => none
  | limit + 1, s =>
    match s with
    | '"' :: r =>
      match closingQuotes '"' s with
      | some closing => some closing
      | none => prepend '"' (readLongBasic limit r)
    | '\\' :: r =>
      match afterContinuation? r with
      | some r => readLongBasic limit r
      | none => do
        let (c, r) ← readEscape r
        prepend c (readLongBasic limit r)
    | c :: r =>
      if isUnescaped c then prepend c (readLongBasic limit r)
      else do
        let r ← afterLineEnd? (c :: r)
        prepend '\n' (readLongBasic limit r)
    | [] => none

/-- Reads the rest of a literal string of several lines. Line ends count as line feeds. -/
def readLongLiteral : Nat → List Char → Option (List Char × List Char)
  | 0, _ => none
  | limit + 1, s =>
    match s with
    | '\'' :: r =>
      match closingQuotes '\'' s with
      | some closing => some closing
      | none => prepend '\'' (readLongLiteral limit r)
    | c :: r =>
      if isPlain c then prepend c (readLongLiteral limit r)
      else do
        let r ← afterLineEnd? (c :: r)
        prepend '\n' (readLongLiteral limit r)
    | [] => none

/-- Drops a line end at the front. -/
def skipLineEnd (s : List Char) : List Char :=
  (afterLineEnd? s).getD s

/-- Reads a string on one line. -/
def readShortString (s : List Char) : Option (String × List Char) :=
  (match s with
    | '"' :: r => readBasic s.length r
    | '\'' :: r => readLiteral r
    | _ => none).map fun (content, r) => (String.ofList content, r)

/-- Reads a string. -/
def readString (s : List Char) : Option (String × List Char) :=
  match s with
  | '"' :: '"' :: '"' :: r =>
    (readLongBasic s.length (skipLineEnd r)).map fun (content, r) => (String.ofList content, r)
  | '\'' :: '\'' :: '\'' :: r =>
    (readLongLiteral s.length (skipLineEnd r)).map fun (content, r) => (String.ofList content, r)
  | s => readShortString s

/-! ## Keys -/

/-- A character of a key without quotes. -/
def isBareKeyChar (c : Char) : Bool :=
  c.isAlphanum || c == '-' || c == '_'

/-- Reads one part of a key. -/
def readSimpleKey (s : List Char) : Option (String × List Char) :=
  match s with
  | '"' :: _ | '\'' :: _ => readShortString s
  | s =>
    let name := s.takeWhile isBareKeyChar
    if name.isEmpty then none else some (String.ofList name, s.drop name.length)

/-- The greatest number of parts of a key. -/
def maxKeyParts : Nat := 79

/-- Reads a key: parts with dots between them, and the blanks around them. It has at most `limit`
    parts. -/
def readKeyParts : Nat → List Char → Option (List String × List Char)
  | 0, _ => none
  | limit + 1, s => do
    let (part, r) ← readSimpleKey (skipBlanks s)
    match skipBlanks r with
    | '.' :: r => do
      let (parts, r) ← readKeyParts limit r
      some (part :: parts, r)
    | r => some ([part], r)

/-- Reads a key. -/
def readKey (s : List Char) : Option (List String × List Char) :=
  readKeyParts maxKeyParts s

/-! ## Numbers -/

/-- Reads digits, at least one; single underscores may stand between them. -/
def readDigits (isDigit : Char → Bool) (s : List Char) : Option (List Char × List Char) :=
  match s with
  | c :: r => if isDigit c then some (digitsFrom [c] r) else none
  | [] => none
where
  /-- Goes on reading after the digits `seen`, last one first. -/
  digitsFrom (seen : List Char) : List Char → List Char × List Char
    | '_' :: c :: r => if isDigit c then digitsFrom (c :: seen) r else (seen.reverse, '_' :: c :: r)
    | c :: r => if isDigit c then digitsFrom (c :: seen) r else (seen.reverse, c :: r)
    | [] => (seen.reverse, [])

/-- Reads a sign. There is none in front of an unsigned number. -/
def readSign : List Char → Bool × List Char
  | '-' :: r => (true, r)
  | '+' :: r => (false, r)
  | s => (false, s)

/-- Reads decimal digits without a zero in front. -/
def readWhole (s : List Char) : Option (List Char × List Char) :=
  match s with
  | '0' :: r => some (['0'], r)
  | s => readDigits Char.isDigit s

/-- The integers that may be written. -/
def integerOf? (negative : Bool) (magnitude : Nat) : Option Int :=
  let value := if negative then -(magnitude : Int) else magnitude
  if -0x8000000000000000 ≤ value && value < 0x8000000000000000 then some value else none

/-- A digit below eight. -/
def isOctal (c : Char) : Bool :=
  '0' ≤ c && c ≤ '7'

/-- A digit below two. -/
def isBinary (c : Char) : Bool :=
  c == '0' || c == '1'

/-- Reads an integer. -/
def readInteger (s : List Char) : Option (Int × List Char) :=
  let based (base : Nat) (isDigit : Char → Bool) (s : List Char) : Option (Int × List Char) := do
    let (digits, r) ← readDigits isDigit s
    let value ← integerOf? false (numeral base digits)
    some (value, r)
  match s with
  | '0' :: 'x' :: r => based 16 isHexadecimal r
  | '0' :: 'o' :: r => based 8 isOctal r
  | '0' :: 'b' :: r => based 2 isBinary r
  | s => do
    let (negative, r) := readSign s
    let (digits, r) ← readWhole r
    let value ← integerOf? negative (numeral 10 digits)
    some (value, r)

/-- Reads the exponent of a number. -/
def readExponent (s : List Char) : Option (Int × List Char) :=
  match s with
  | 'e' :: r | 'E' :: r => do
    let (negative, r) := readSign r
    let (digits, r) ← readDigits Char.isDigit r
    let value : Int := numeral 10 digits
    some (if negative then -value else value, r)
  | _ => none

/-- Reads the places after a decimal point. -/
def readPlaces (s : List Char) : Option (List Char × List Char) :=
  match s with
  | '.' :: r => readDigits Char.isDigit r
  | _ => none

/-- Reads infinity or the value that is no number. -/
def readSpecial (negative : Bool) (s : List Char) : Option (Number.Binary64 × List Char) :=
  match s with
  | 'i' :: 'n' :: 'f' :: r => some (.infinite negative, r)
  | 'n' :: 'a' :: 'n' :: r => some (.nan, r)
  | _ => none

/-- Reads a number with decimal places, an exponent or both. A positive one must be finite. -/
def readFloat (s : List Char) : Option (Number.Binary64 × List Char) := do
  let (negative, r) := readSign s
  let decimal : Option (Number.Binary64 × List Char) := do
    let (whole, r) ← readWhole r
    let (digits, places, exponent, r) ←
      match readPlaces r with
      | some (places, r) =>
        match readExponent r with
        | some (exponent, r') => some (whole ++ places, places.length, exponent, r')
        | none => some (whole ++ places, places.length, 0, r)
      | none => (readExponent r).map fun (exponent, r) => (whole, 0, exponent, r)
    let value := Number.Binary64.ofDecimal negative (numeral 10 digits) (exponent - (places : Int))
    if value = .infinite false then none else some (value, r)
  decimal.or (readSpecial negative r)

end HtmlToLatex.Toml
