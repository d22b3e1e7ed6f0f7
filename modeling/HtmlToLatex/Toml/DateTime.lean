import HtmlToLatex.Toml.Lexeme

set_option autoImplicit false

/-! # Dates and times in TOML

A date, a time, or a date with a time and perhaps its distance from universal time. Only their
form and range are checked. -/

namespace HtmlToLatex.Toml

/-- Reads a number of exactly `count` digits. -/
def readFixed (count : Nat) (s : List Char) : Option (Nat × List Char) :=
  let digits := s.take count
  if digits.length = count && digits.all Char.isDigit then some (numeral 10 digits, s.drop count)
  else none

/-- Reads a number of two digits between two bounds. -/
def readField (low high : Nat) (s : List Char) : Option (Nat × List Char) := do
  let (n, r) ← readFixed 2 s
  if low ≤ n && n ≤ high then some (n, r) else none

/-- What follows a character. -/
def after? (c : Char) (s : List Char) : Option (List Char) :=
  if s.head? = some c then some (s.drop 1) else none

/-- The number of days in a month. -/
def daysIn (year month : Nat) : Nat :=
  if month = 2 then
    if year % 4 = 0 && (year % 100 ≠ 0 || year % 400 = 0) then 29 else 28
  else if [4, 6, 9, 11].contains month then 30
  else 31

/-- What follows a date. -/
def afterDate? (s : List Char) : Option (List Char) := do
  let (year, r) ← readFixed 4 s
  let (month, r) ← readField 1 12 (← after? '-' r)
  let (_, r) ← readField 1 (daysIn year month) (← after? '-' r)
  some r

/-- What follows a time. Seconds may have decimal places. -/
def afterTime? (s : List Char) : Option (List Char) := do
  let (_, r) ← readField 0 23 s
  let (_, r) ← readField 0 59 (← after? ':' r)
  let (_, r) ← readField 0 60 (← after? ':' r)
  match r with
  | '.' :: r =>
    if r.head?.any Char.isDigit then some (r.dropWhile Char.isDigit) else some ('.' :: r)
  | r => some r

/-- What follows a distance from universal time, if there is one at the front. -/
def afterOffset? (s : List Char) : Option (List Char) :=
  match s with
  | 'Z' :: r | 'z' :: r => some r
  | '+' :: r | '-' :: r => do
    let (_, r) ← readField 0 23 r
    let (_, r) ← readField 0 59 (← after? ':' r)
    some r
  | s => some s

/-- What follows a date or time. A space may stand between the two. -/
def afterDateTime? (s : List Char) : Option (List Char) :=
  match afterDate? s with
  | none => afterTime? s
  | some r =>
    match r with
    | 'T' :: t | 't' :: t | ' ' :: t =>
      match afterTime? t with
      | some t => afterOffset? t
      | none => some r
    | _ => some r

end HtmlToLatex.Toml
