set_option autoImplicit false

/-! # Binary floating-point numbers

Numbers with a significand of 53 binary digits and a limited exponent. A decimal is rounded to the
nearest one, a tie going to the even significand. A number is written in the fewest decimal digits
that are rounded to it again. All arithmetic is exact. -/

namespace HtmlToLatex.Number

/-- A floating-point number. The value of a finite one is `significand * 2 ^ (exponent - 1074)`. -/
inductive Binary64 where
  | nan
  | infinite (negative : Bool)
  | finite (negative : Bool) (significand exponent : Nat)
  deriving Repr, BEq, DecidableEq, Inhabited

/-! ## Rounding -/

/-- Divides and rounds to the nearest integer, a tie to the even one. -/
def roundDiv (num den : Nat) : Nat :=
  let q := num / den
  let r := num % den
  if 2 * r < den || (2 * r = den && q % 2 = 0) then q else q + 1

/-- The number of binary digits of a significand. -/
def significandBits : Nat := 53

/-- The greatest exponent of a finite number, counted from the least. -/
def maxExponent : Nat := 2045

/-- The least `e` from `low` on for which the integer part of `num / den / 2 ^ e` has at most 53
    binary digits, looked for in `steps` steps. -/
def exponentFrom (num den : Nat) : Nat → Nat → Nat
  | 0, low => low
  | steps + 1, low =>
    if num / (den * Nat.pow 2 low) < Nat.pow 2 significandBits then low
    else exponentFrom num den steps (low + 1)

/-- The magnitude nearest to a fraction, as significand and exponent. -/
def roundFraction (num den : Nat) : Nat × Nat :=
  let scaled := num * Nat.pow 2 1074
  let guess := Nat.log2 scaled - Nat.log2 den - significandBits - 1
  let exponent := exponentFrom scaled den 4 guess
  let significand := roundDiv scaled (den * Nat.pow 2 exponent)
  if significand = Nat.pow 2 significandBits then (Nat.pow 2 (significandBits - 1), exponent + 1)
  else (significand, exponent)

/-- Decimals with this many digits in front of the point, or more, are beyond all finite
    numbers. -/
def decimalDigitsLimit : Int := 320

/-- The number nearest to `digits * 10 ^ scale`, given the digits as a numeral. -/
def Binary64.ofDecimal (negative : Bool) (digits : Nat) (scale : Int) : Binary64 :=
  let width := (Nat.toDigits 10 digits).length
  if digits = 0 then .finite negative 0 0
  else if decimalDigitsLimit ≤ scale + width then .infinite negative
  else if scale + width ≤ -400 then .finite negative 0 0
  else
    let (significand, exponent) :=
      if 0 ≤ scale then roundFraction (digits * Nat.pow 10 scale.toNat) 1
      else roundFraction digits (Nat.pow 10 (-scale).toNat)
    if maxExponent < exponent then .infinite negative else .finite negative significand exponent

/-! ## Shortest decimals -/

/-- The decimals that are rounded to a magnitude: between `low / den` and `high / den`, the ends
    included or not. The magnitude itself is `mid / den`. -/
structure RoundingInterval where
  low : Nat
  mid : Nat
  high : Nat
  den : Nat
  inclusive : Bool

/-- The interval of a magnitude. Below a power of two the numbers are closer together. -/
def roundingInterval (significand exponent : Nat) : RoundingInterval :=
  let closer := significand = Nat.pow 2 (significandBits - 1) && 0 < exponent
  let unit := Nat.pow 2 exponent
  { low := 4 * significand * unit - (if closer then unit else 2 * unit)
    mid := 4 * significand * unit
    high := 4 * significand * unit + 2 * unit
    den := 4 * Nat.pow 2 1074
    inclusive := significand % 2 = 0 }

/-- Whether a fraction is in an interval. -/
def RoundingInterval.holds (i : RoundingInterval) (num den : Nat) : Bool :=
  let x := num * i.den
  if i.inclusive then i.low * den ≤ x && x ≤ i.high * den else i.low * den < x && x < i.high * den

/-- The multiple of `10 ^ scale` in an interval that is nearest to its number, if one of the two
    around the number is in it. -/
def nearestOnGrid? (i : RoundingInterval) (scale : Int) : Option Nat :=
  let up := Nat.pow 10 scale.toNat
  let down := Nat.pow 10 (-scale).toNat
  let below := i.mid * down / (i.den * up)
  let inside (k : Nat) : Bool := i.holds (k * up) down
  let upper := 2 * i.mid * down ≥ (2 * below + 1) * up * i.den
  if inside below && inside (below + 1) then some (if upper then below + 1 else below)
  else if inside below then some below
  else if inside (below + 1) then some (below + 1)
  else none

/-- The least `k` from `low` on with `num / den < 10 ^ k`, looked for in `steps` steps. -/
def decimalWidthFrom (num den : Nat) : Nat → Int → Int
  | 0, low => low
  | steps + 1, low =>
    if num * Nat.pow 10 (-low).toNat < den * Nat.pow 10 low.toNat then low
    else decimalWidthFrom num den steps (low + 1)

/-- The fewest digits in the interval, as a numeral and its scale, tried from `count` digits on. -/
def shortestFrom (i : RoundingInterval) (width : Int) : Nat → Nat → Nat × Int
  | 0, count => ((nearestOnGrid? i (width - count)).getD 0, width - count)
  | steps + 1, count =>
    match nearestOnGrid? i (width - count) with
    | some k => (k, width - count)
    | none => shortestFrom i width steps (count + 1)

/-- The fewest digits of a magnitude that is not zero, and the power of ten they count. A magnitude
    just below a power of ten may be rounded up to it, which leaves a zero to drop. -/
def shortestDecimal (significand exponent : Nat) : Nat × Int :=
  let i := roundingInterval significand exponent
  let (digits, scale) := shortestFrom i (decimalWidthFrom i.mid i.den 640 (-324)) 17 1
  if digits % 10 = 0 then (digits / 10, scale + 1) else (digits, scale)

/-! ## Written form -/

/-- A decimal in positional notation, with a point and at least one digit on either side of it. -/
def positional (digits : Nat) (scale : Int) : String :=
  let s := (toString digits).toList
  if 0 ≤ scale then String.ofList (s ++ List.replicate scale.toNat '0' ++ ['.', '0'])
  else
    let places := (-scale).toNat
    let padded := List.replicate (places + 1 - s.length) '0' ++ s
    let whole := padded.length - places
    String.ofList (padded.take whole ++ '.' :: padded.drop whole)

/-- The written form of a number. -/
def Binary64.render : Binary64 → String
  | .nan => "NaN"
  | .infinite negative => (if negative then "-" else "") ++ "inf"
  | .finite negative significand exponent =>
    let magnitude :=
      if significand = 0 then "0.0"
      else
        let (digits, scale) := shortestDecimal significand exponent
        positional digits scale
    (if negative then "-" else "") ++ magnitude

end HtmlToLatex.Number
