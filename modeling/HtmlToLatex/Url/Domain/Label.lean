import HtmlToLatex.Url.Domain.Mapping
import HtmlToLatex.Url.Domain.PropertyTable
import HtmlToLatex.Url.Punycode

set_option autoImplicit false

/-! # Labels of domain names

A label is a part of a name between dots. Its characters must be such that it is displayed in one
way only: it does not start with a mark, joiners stand where they show, and text from right to left
is not mixed with text from left to right. -/

namespace HtmlToLatex.Url

/-! ## Directions -/

/-- The part of a character in the direction of writing. -/
inductive Direction where
  | leftToRight
  | rightToLeft
  | arabicLetter
  | arabicNumber
  | europeanNumber
  /-- Separators, marks and characters without direction, in a label of either direction. -/
  | neutral
  | nonspacingMark
  deriving Repr, BEq, DecidableEq, Inhabited

/-- Ranges with their direction; all other characters are written from left to right. -/
def directionRanges : List (Array CodeRange × Direction) :=
  [(CodeRange.ofLines nonspacingMarkLines, .nonspacingMark),
   (CodeRange.ofLines rightToLeftLines, .rightToLeft),
   (CodeRange.ofLines arabicLetterLines, .arabicLetter),
   (CodeRange.ofLines arabicNumberLines, .arabicNumber),
   (CodeRange.ofLines europeanNumberLines, .europeanNumber)]
  ++ ([europeanSeparatorLines, commonSeparatorLines, europeanTerminatorLines, otherNeutralLines,
       boundaryNeutralLines].map fun lines => (CodeRange.ofLines lines, Direction.neutral))

/-- The direction of a character. -/
def direction (c : Char) : Direction :=
  ((directionRanges.find? fun (ranges, _) => CodeRange.anyHolds ranges c).map (·.2)).getD
    .leftToRight

/-- Whether a direction makes a name one in which directions matter. -/
def turnsLeft (d : Direction) : Bool :=
  d == .rightToLeft || d == .arabicLetter || d == .arabicNumber

/-- The directions of a label without the marks at its end. -/
def withoutFinalMarks (ds : List Direction) : List Direction :=
  (ds.reverse.dropWhile (· == .nonspacingMark)).reverse

/-- Whether a label may stand in a name in which directions matter. -/
def hasOneDirection (label : List Char) : Bool :=
  let ds := label.map direction
  let final? := (withoutFinalMarks ds).getLast?
  match ds with
  | [] => true
  | .leftToRight :: _ =>
    ds.all (fun d => !turnsLeft d) &&
      final?.any fun d => d == .leftToRight || d == .europeanNumber
  | .rightToLeft :: _ | .arabicLetter :: _ =>
    ds.all (· != .leftToRight)
      && !(ds.contains .europeanNumber && ds.contains .arabicNumber)
      && final?.any fun d => turnsLeft d || d == .europeanNumber
  | _ => false

/-! ## Joiners -/

def joinsLeftRanges : Array CodeRange := CodeRange.ofLines joinsLeftLines

def joinsRightRanges : Array CodeRange := CodeRange.ofLines joinsRightLines

def joinsBothRanges : Array CodeRange := CodeRange.ofLines joinsBothLines

def transparentRanges : Array CodeRange := CodeRange.ofLines transparentLines

/-- The first character that joining does not pass over. -/
def firstJoining? (s : List Char) : Option Char :=
  (s.dropWhile (CodeRange.anyHolds transparentRanges)).head?

/-- The class of marks that join a consonant with the one after it. -/
def viramaClass : Nat := 9

/-- Whether a joiner shows between what comes before it, last character first, and what follows. -/
def joinerShows (joiner : Char) (before after : List Char) : Bool :=
  before.head?.any (combiningClass · = viramaClass) ||
    (joiner == '\u200c'
      && (firstJoining? before).any (fun c =>
        CodeRange.anyHolds joinsLeftRanges c || CodeRange.anyHolds joinsBothRanges c)
      && (firstJoining? after).any fun c =>
        CodeRange.anyHolds joinsRightRanges c || CodeRange.anyHolds joinsBothRanges c)

/-- Whether all joiners of a text show. `before` comes last character first. -/
def joinersShow (before : List Char) : List Char → Bool
  | [] => true
  | c :: after =>
    (!(c == '\u200c' || c == '\u200d') || joinerShows c before after)
      && joinersShow (c :: before) after

/-! ## Labels -/

def markRanges : Array CodeRange := CodeRange.ofLines markLines

/-- Whether the characters of a label may stand together. -/
def isProperLabel (label : List Char) : Bool :=
  label.all isSettled && !label.head?.any (CodeRange.anyHolds markRanges) && joinersShow [] label

/-- Whether a text holds ASCII characters only. -/
def isAscii (s : List Char) : Bool :=
  s.all (·.toNat < 128)

/-- What an encoded label starts with. -/
def encodedMark : List Char := "xn--".toList

/-- What an encoded label stands for: a text that is in its one spelling and is not all ASCII. -/
def decodeLabel? (label : List Char) : Option (List Char) :=
  match Punycode.decode? (label.drop encodedMark.length) with
  | some decoded => if isAscii decoded || composed decoded ≠ decoded then none else some decoded
  | none => none

/-- The characters that a label stands for, if they may stand together. -/
def labelText? (label : List Char) : Option (List Char) :=
  if encodedMark.isPrefixOf label then
    (decodeLabel? label).filter isProperLabel
  else if isAscii label then some label
  else if isProperLabel label then some label
  else none

/-- How a label is written in ASCII. -/
def labelToAscii (text : List Char) : List Char :=
  if isAscii text then text else encodedMark ++ Punycode.encode text

end HtmlToLatex.Url
