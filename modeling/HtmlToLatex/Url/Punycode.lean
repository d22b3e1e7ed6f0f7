import HtmlToLatex.Latex.Reference

set_option autoImplicit false

/-! # Punycode

A label of a domain name with characters outside ASCII is spelled in ASCII. Its ASCII characters
come first. The others are put in one by one, the least character first, and what is spelled is
how far apart these insertions are: of all insertions that could be made, in order of character
and then of place, it is counted how many are skipped. So a label is a text with insertions, the
insertions are numbers, and the numbers are digits. -/

namespace HtmlToLatex.Url.Punycode

/-! ## Digits -/

/-- The thirty-six digits, in order of value. -/
def alphabet : List Char := "abcdefghijklmnopqrstuvwxyz0123456789".toList

/-- The digit of a value. -/
def digitOf (value : Nat) : Char :=
  alphabet.getD value '-'

/-- The value of a digit of either case. -/
def digitValue? (c : Char) : Option Nat :=
  alphabet.idxOf? c.toLower

/-! ## Numbers

The digits of a number stand in order of weight, the lightest first. How many values a digit has
depends on where it stands, and on a bias that follows the size of the numbers so far. A value
below the threshold of its position ends the number. -/

/-- The least value of a digit after which the number goes on. -/
def threshold (bias position : Nat) : Nat :=
  min 26 (max 1 (36 * (position + 1) - bias))

theorem one_le_threshold (bias position : Nat) : 1 ≤ threshold bias position := by
  unfold threshold
  omega

/-- The digits of a number, when they start at a position. -/
def digitsOf (bias position n : Nat) : List Nat :=
  let least := threshold bias position
  if n < least then [n]
  else
    (least + (n - least) % (36 - least))
      :: digitsOf bias (position + 1) ((n - least) / (36 - least))
termination_by n
decreasing_by
  have hpos := one_le_threshold bias position
  exact Nat.lt_of_le_of_lt (Nat.div_le_self _ _) (by omega)

/-- Reads a number whose digits start at a position. Returns the digits after it, too. -/
def readNumber? (bias position : Nat) : List Nat → Option (Nat × List Nat)
  | [] => none
  | d :: r =>
    let least := threshold bias position
    if d < least then some (d, r)
    else (readNumber? bias (position + 1) r).map fun (n, rest) => (d + (36 - least) * n, rest)

/-- A number has a digit. -/
theorem readNumber?_length {bias position n : Nat} {s rest : List Nat}
    (h : readNumber? bias position s = some (n, rest)) : rest.length < s.length := by
  induction s generalizing position n with
  | nil => cases h
  | cons d r ih =>
    simp only [readNumber?] at h
    split at h
    · cases h
      exact Nat.lt_succ_self _
    · rw [Option.map_eq_some_iff] at h
      obtain ⟨⟨m, tail⟩, hm, heq⟩ := h
      cases heq
      exact Nat.lt_succ_of_lt (ih hm)

/-! ## Sequences of numbers -/

/-- The bias that suits numbers of a size. -/
def biasFor (size : Nat) : Nat :=
  if 455 < size then 36 + biasFor (size / 35) else 36 * size / (size + 38)
termination_by size
decreasing_by omega

/-- What the spelling of the next number depends on. -/
structure Pace where
  bias : Nat := 72
  /-- Whether a number has been spelled. -/
  started : Bool := false
  /-- How many characters are in place. -/
  count : Nat
  deriving Repr, BEq, DecidableEq, Inhabited

/-- The pace after a number. The first number is likely to be large and has less effect. -/
def Pace.after (pace : Pace) (n : Nat) : Pace :=
  let count := pace.count + 1
  let share := n / if pace.started then 2 else 700
  { bias := biasFor (share + share / count), started := true, count }

/-- The digits of a sequence of numbers. -/
def digitsOfAll (pace : Pace) : List Nat → List Nat
  | [] => []
  | n :: r => digitsOf pace.bias 0 n ++ digitsOfAll (pace.after n) r

/-- Reads a sequence of numbers. -/
def readNumbers? (pace : Pace) (digits : List Nat) : Option (List Nat) :=
  match digits with
  | [] => some []
  | d :: r =>
    match _h : readNumber? pace.bias 0 (d :: r) with
    | some (n, rest) => (readNumbers? (pace.after n) rest).map (n :: ·)
    | none => none
termination_by digits.length
decreasing_by exact readNumber?_length _h

/-! ## Insertions -/

/-- Puts the character of a code point at a place in a text. -/
structure Insertion where
  code : Nat
  place : Nat
  deriving Repr, BEq, DecidableEq, Inhabited

namespace Insertion

/-- The first insertion that could be made. -/
def least : Insertion := ⟨128, 0⟩

/-- How many insertions into a text of `count` characters come before one, in order of code point
    and then of place. -/
def rank (count : Nat) (x : Insertion) : Nat :=
  x.code * (count + 1) + x.place

/-- The insertion of a rank. -/
def ofRank (count n : Nat) : Insertion :=
  ⟨n / (count + 1), n % (count + 1)⟩

/-- The first insertion that could be made after one was. -/
def next (x : Insertion) : Insertion :=
  ⟨x.code, x.place + 1⟩

/-- Makes an insertion; there has to be such a character. -/
def into? (x : Insertion) (text : List Char) : Option (List Char) :=
  (charOfCode? x.code).map fun c => text.take x.place ++ c :: text.drop x.place

end Insertion

/-- How many insertions are skipped before each of a sequence, from `start` on. -/
def skipsOf (count : Nat) (start : Insertion) : List Insertion → List Nat
  | [] => []
  | x :: r => (x.rank count - start.rank count) :: skipsOf (count + 1) x.next r

/-- The insertions that are made when so many are skipped before each. -/
def insertionsOf (count : Nat) (start : Insertion) : List Nat → List Insertion
  | [] => []
  | n :: r =>
    let x := Insertion.ofRank count (start.rank count + n)
    x :: insertionsOf (count + 1) x.next r

/-- The insertions that make a label out of its ASCII characters. -/
def insertionsInto (label : List Char) : List Insertion :=
  let others := label.zipIdx.filter fun (c, _) => 128 ≤ c.toNat
  (others.mergeSort fun (a, _) (b, _) => a.toNat ≤ b.toNat).map fun (c, i) =>
    ⟨c.toNat, (label.take i).countP (·.toNat ≤ c.toNat)⟩

/-! ## Labels -/

/-- The spelling of a label. A hyphen ends the ASCII characters, if there are any. -/
def encode (label : List Char) : List Char :=
  let basic := label.filter (·.toNat < 128)
  let skips := skipsOf basic.length Insertion.least (insertionsInto label)
  basic ++ (if basic.isEmpty then [] else ['-'])
    ++ (digitsOfAll { count := basic.length } skips).map digitOf

/-- Makes the insertions that digits spell into a text. -/
def complete? (text digits : List Char) : Option (List Char) := do
  let skips ← readNumbers? { count := text.length } (← digits.mapM digitValue?)
  (insertionsOf text.length Insertion.least skips).foldlM (fun t x => x.into? t) text

/-- The label with a spelling. The last hyphen ends the ASCII characters. -/
def decode? (s : List Char) : Option (List Char) :=
  let digits := (s.reverse.takeWhile (· ≠ '-')).reverse
  match s.reverse.dropWhile (· ≠ '-') with
  | [] => complete? [] digits
  | _ :: basic => if basic.all (·.toNat < 128) then complete? basic.reverse digits else none

end HtmlToLatex.Url.Punycode
