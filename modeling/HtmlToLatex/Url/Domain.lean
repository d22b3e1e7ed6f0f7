import HtmlToLatex.Path
import HtmlToLatex.Url.Domain.Label
import HtmlToLatex.Url.Percent

set_option autoImplicit false

/-! # Domain names

A domain name is written in ASCII: its characters get their one spelling, and labels with other
characters are encoded. -/

namespace HtmlToLatex.Url

/-- A character that no domain name holds. -/
def forbiddenInDomain (c : Char) : Bool :=
  isControl c || " %#/:<>?@[\\]^|".toList.contains c

/-- Whether labels may stand in one name. If one of them is written from right to left, each has one
    direction. -/
def directionsAgree (labels : List (List Char)) : Bool :=
  !(labels.any fun label => label.any fun c => turnsLeft (direction c)) ||
    labels.all hasOneDirection

/-- Writes a domain name, given as bytes, in ASCII. -/
def domainToAscii? (bytes : List UInt8) : Option (List Char) := do
  let text ← String.fromUTF8? ⟨bytes.toArray⟩
  let name ← respell? text.toList
  let labels ← (splitOnElement '.' name).mapM labelText?
  if directionsAgree labels then
    let ascii := joinWithElement '.' (labels.map labelToAscii)
    if ascii.any forbiddenInDomain then none else some ascii
  else none

end HtmlToLatex.Url
