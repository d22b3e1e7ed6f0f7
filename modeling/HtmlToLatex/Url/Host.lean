import HtmlToLatex.Url.Domain
import HtmlToLatex.Url.Ipv4
import HtmlToLatex.Url.Ipv6

set_option autoImplicit false

/-! # Hosts

What stands between the user information and the port of a URL: a domain name, an address, or,
for schemes without rules of their own, any text without separators. -/

namespace HtmlToLatex.Url

/-- A host. -/
inductive Host where
  /-- A domain name in ASCII, or the host of a scheme without rules of its own. -/
  | domain (name : List Char)
  | ipv4 (value : Nat)
  | ipv6 (pieces : List Nat)
  deriving Repr, BEq, DecidableEq, Inhabited

/-- A host as it stands in a URL. -/
def Host.render : Host → List Char
  | .domain name => name
  | .ipv4 value => (renderIpv4 value).toList
  | .ipv6 pieces => '[' :: (renderIpv6 pieces).toList ++ [']']

/-- Reads a host in brackets; the first bracket is taken off already. -/
def parseBracketed (s : List Char) : Except UrlError Host :=
  if s.getLast? == some ']' then Host.ipv6 <$> parseIpv6 s.dropLast else .error .invalidIpv6

/-- Reads the host of a special scheme. -/
def parseHost (s : List Char) : Except UrlError Host :=
  match s with
  | '[' :: r => parseBracketed r
  | s =>
    match domainToAscii? (percentDecode s) with
    | none => .error .invalidDomainName
    | some [] => .error .emptyHost
    | some name =>
      if endsInNumber name then Host.ipv4 <$> parseIpv4 name else .ok (.domain name)

/-- Characters that no host may hold. -/
def forbiddenInHost (c : Char) : Bool :=
  "\x00\t\n\r #/:<>?@[\\]^|".toList.contains c

/-- Reads the host of any other scheme. -/
def parseOpaqueHost (s : List Char) : Except UrlError Host :=
  match s with
  | '[' :: r => parseBracketed r
  | s =>
    if s.any forbiddenInHost then .error .invalidHostCharacter
    else .ok (.domain (percentEncode encodedInControls s))

end HtmlToLatex.Url
