import HtmlToLatex.Text.CodeRange
import HtmlToLatex.Text.Composed.Table

set_option autoImplicit false

/-! # Composed texts

A letter with a mark may be written as one character or as two, and several marks in any order that
does not change what is seen. The composed form has the marks in the order of their classes and as
few characters as possible. -/

namespace HtmlToLatex

/-! ## Classes -/

/-- Combining characters by class. -/
def combiningClasses : List (Nat × Array CodeRange) :=
  combiningLines.filterMap fun line =>
    match splitOnElement ' ' line.toList with
    | number :: ranges => some (numeral 10 number, (ranges.map CodeRange.ofChars).toArray)
    | [] => none

/-- The class of a character; zero for those that start a new sequence. -/
def combiningClass (c : Char) : Nat :=
  if c.toNat < 0x300 then 0
  else ((combiningClasses.find? fun (_, ranges) => CodeRange.anyHolds ranges c).map (·.1)).getD 0

/-! ## Pairs -/

/-- Two characters with the single character that stands for both. -/
structure CharPair where
  first : Nat
  second : Nat
  single : Nat
  deriving Repr, BEq, Inhabited

/-- The pairs of one line of the table. -/
def readPairs (line : String) : List CharPair :=
  match splitOnElement ' ' line.toList with
  | second :: entries =>
    entries.map fun entry =>
      { first := numeral 16 (entry.takeWhile (· ≠ '='))
        second := numeral 16 second
        single := numeral 16 ((entry.dropWhile (· ≠ '=')).drop 1) }
  | [] => []

/-- All pairs of the table. -/
def charPairs : List CharPair :=
  pairLines.flatMap readPairs

/-- Korean syllables are made of a leading consonant, a vowel and perhaps a trailing consonant. -/
def composeSyllable? (a b : Nat) : Option Nat :=
  if 0x1100 ≤ a && a < 0x1113 && 0x1161 ≤ b && b < 0x1176 then
    some (0xAC00 + ((a - 0x1100) * 21 + (b - 0x1161)) * 28)
  else if 0xAC00 ≤ a && a < 0xD7A4 && (a - 0xAC00) % 28 = 0 && 0x11A8 ≤ b && b < 0x11C3 then
    some (a + (b - 0x11A7))
  else none

/-- The single character for two. -/
def composePair? (a b : Char) : Option Char :=
  match composeSyllable? a.toNat b.toNat with
  | some code => some (Char.ofNat code)
  | none =>
    (charPairs.find? fun p => p.second = b.toNat && p.first = a.toNat).map fun p =>
      Char.ofNat p.single

/-- The two characters that a single one stands for. -/
def splitChar? (c : Char) : Option (Char × Char) :=
  let n := c.toNat
  if n < 0xC0 then none
  else if 0xAC00 ≤ n && n < 0xD7A4 then
    let i := n - 0xAC00
    if i % 28 = 0 then
      some (Char.ofNat (0x1100 + i / 588), Char.ofNat (0x1161 + i % 588 / 28))
    else some (Char.ofNat (n - i % 28), Char.ofNat (0x11A7 + i % 28))
  else
    (charPairs.find? fun p => p.single = n).map fun p => (Char.ofNat p.first, Char.ofNat p.second)

/-! ## Taking apart -/

/-- Takes a character apart, `depth` times at most. -/
def takeApart : Nat → Char → List Char
  | 0, c => [c]
  | depth + 1, c =>
    match splitChar? c with
    | some (a, b) => takeApart depth a ++ takeApart depth b
    | none => [c]

/-- No character is made of pairs nested deeper than this. -/
def maxPairDepth : Nat := 4

/-- Puts a mark behind the marks of its class and of lower ones. `done` comes last one first. -/
def insertMark (c : Char) : List Char → List Char
  | [] => [c]
  | d :: rest =>
    if combiningClass c ≠ 0 && combiningClass c < combiningClass d then d :: insertMark c rest
    else c :: d :: rest

/-- A text with every character taken apart and the marks in order. -/
def decomposed (s : List Char) : List Char :=
  ((s.flatMap (takeApart maxPairDepth)).foldl (fun done c => insertMark c done) []).reverse

/-! ## Putting together -/

/-- Where putting together stands. -/
structure Composing where
  /-- What is finished, last one first. -/
  done : List Char := []
  /-- The character that marks may join. -/
  base : Option Char := none
  /-- The marks after it that did not join, last one first. -/
  marks : List Char := []

/-- Moves the base and its marks to what is finished. -/
def Composing.flush (s : Composing) : List Char :=
  s.marks ++ s.base.toList ++ s.done

/-- Takes one more character. It joins the base unless a mark of its class or a higher one stands in
    between. -/
def Composing.take (s : Composing) (c : Char) : Composing :=
  let blocked :=
    match s.marks with
    | [] => false
    | d :: _ => combiningClass d = 0 || combiningClass c ≤ combiningClass d
  let joined := if blocked then none else s.base.bind fun b => composePair? b c
  match joined with
  | some single => { s with base := some single }
  | none =>
    if combiningClass c = 0 then { done := s.flush, base := some c }
    else { s with marks := c :: s.marks }

/-- The composed form of a text. -/
def composed (s : List Char) : List Char :=
  ((decomposed s).foldl Composing.take {}).flush.reverse

end HtmlToLatex
