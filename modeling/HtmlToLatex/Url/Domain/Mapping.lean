import HtmlToLatex.Text.CodeRange
import HtmlToLatex.Text.Composed
import HtmlToLatex.Url.Domain.MappingTable

set_option autoImplicit false

/-! # Spelling of domain names

Domain names that differ in case, in width or in the way letters and marks are put together are the
same name. Every name has one spelling; some characters stand in no name. -/

namespace HtmlToLatex.Url

/-- Code points with their replacements. -/
structure Replacement where
  range : CodeRange
  /-- Only every `step`-th code point of the range is replaced. -/
  step : Nat
  /-- What the first code point is replaced by. -/
  target : List Nat
  deriving Repr, BEq, Inhabited

namespace Replacement

/-- Reads an entry of the table. -/
def ofChars (s : List Char) : Replacement :=
  let key := s.takeWhile (· ≠ '=')
  let range := CodeRange.ofChars (key.takeWhile (· ≠ '/'))
  let step := if key.contains '/' then 2 else 1
  let target := (splitOnElement '+' ((s.dropWhile (· ≠ '=')).drop 1)).map (numeral 16)
  { range, step, target }

/-- The replacement of a code point in the range. A range has replacements of one character, which
    rise with it. -/
def of? (r : Replacement) (code : Nat) : Option (List Char) :=
  let offset := code - r.range.first
  if offset % r.step ≠ 0 then none
  else some (r.target.map fun t => Char.ofNat (t + offset))

/-- Finds the replacement of a code point between two indices, halving in each of `steps` steps. -/
def searchBetween (table : Array Replacement) (code : Nat) : Nat → Nat → Nat → Option (List Char)
  | 0, _, _ => none
  | steps + 1, low, high =>
    let middle := (low + high) / 2
    match table[middle]? with
    | none => none
    | some r =>
      if high ≤ low then none
      else if code < r.range.first then searchBetween table code steps low middle
      else if r.range.last < code then searchBetween table code steps (middle + 1) high
      else r.of? code

end Replacement

/-- The replacements of characters in domain names. -/
def replacements : Array Replacement :=
  (replacedLines.flatMap fun line =>
    (splitOnElement ' ' line.toList).map Replacement.ofChars).toArray

def droppedRanges : Array CodeRange := CodeRange.ofLines droppedLines

def refusedRanges : Array CodeRange := CodeRange.ofLines refusedLines

/-- What a character is replaced by, if it does not stay. -/
def replacement? (c : Char) : Option (List Char) :=
  Replacement.searchBetween replacements c.toNat (replacements.size + 1) 0 replacements.size

/-- A character that no domain name holds, however it is spelled. -/
def isRefused (c : Char) : Bool :=
  CodeRange.anyHolds refusedRanges c

/-- A character that may stand in the one spelling of a name. -/
def isSettled (c : Char) : Bool :=
  (replacement? c).isNone && !CodeRange.anyHolds droppedRanges c && !isRefused c

/-- What a character becomes. Nothing becomes of a name with a character that is refused. -/
def respellChar? (c : Char) : Option (List Char) :=
  if isRefused c then none
  else if CodeRange.anyHolds droppedRanges c then some []
  else some ((replacement? c).getD [c])

/-- The one spelling of a name. -/
def respell? (s : List Char) : Option (List Char) :=
  (s.mapM respellChar?).map fun parts => composed parts.flatten

end HtmlToLatex.Url
