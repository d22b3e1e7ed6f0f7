import HtmlToLatex.Latex.Reference
import HtmlToLatex.Path

set_option autoImplicit false

/-! # Sets of code points

Large sets of characters are written as ranges of code points in hexadecimal, rising and apart. -/

namespace HtmlToLatex

/-- The code points from `first` to `last`. -/
structure CodeRange where
  first : Nat
  last : Nat
  deriving Repr, BEq, DecidableEq, Inhabited

namespace CodeRange

/-- Whether a code point is in a range. -/
def holds (r : CodeRange) (code : Nat) : Bool :=
  r.first ≤ code && code ≤ r.last

/-- Reads a range: one code point, or two with a hyphen between them. -/
def ofChars (s : List Char) : CodeRange :=
  let first := numeral 16 (s.takeWhile (· ≠ '-'))
  match s.dropWhile (· ≠ '-') with
  | _ :: last => ⟨first, numeral 16 last⟩
  | [] => ⟨first, first⟩

/-- Reads lines of ranges with spaces between them. -/
def ofLines (lines : List String) : Array CodeRange :=
  (lines.flatMap fun line => (splitOnElement ' ' line.toList).map ofChars).toArray

/-- Whether one of the ranges from index `low` on, below index `high`, holds a code point. The
    ranges are rising, so half of them are ruled out in each of `steps` steps. -/
def searchBetween (ranges : Array CodeRange) (code : Nat) : Nat → Nat → Nat → Bool
  | 0, _, _ => false
  | steps + 1, low, high =>
    let middle := (low + high) / 2
    match ranges[middle]? with
    | none => false
    | some r =>
      if high ≤ low then false
      else if code < r.first then searchBetween ranges code steps low middle
      else if r.last < code then searchBetween ranges code steps (middle + 1) high
      else true

/-- Whether one of some rising ranges holds a character. -/
def anyHolds (ranges : Array CodeRange) (c : Char) : Bool :=
  searchBetween ranges c.toNat (ranges.size + 1) 0 ranges.size

end CodeRange
end HtmlToLatex
