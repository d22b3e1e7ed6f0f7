set_option autoImplicit false

/-! # Reasons why a text is no URL -/

namespace HtmlToLatex

/-- The reasons why a text is no absolute URL. -/
inductive UrlError where
  /-- A host is needed and missing. -/
  | emptyHost
  /-- The host is no domain name. -/
  | invalidDomainName
  | invalidPort
  | invalidIpv4
  | invalidIpv6
  /-- The host of a scheme without rules of its own holds a character that no host may hold. -/
  | invalidHostCharacter
  /-- There is no scheme. -/
  | noScheme
  deriving Repr, BEq, DecidableEq, Inhabited

/-- The wording of a reason. -/
def UrlError.message : UrlError → String
  | .emptyHost => "empty host"
  | .invalidDomainName => "invalid international domain name"
  | .invalidPort => "invalid port number"
  | .invalidIpv4 => "invalid IPv4 address"
  | .invalidIpv6 => "invalid IPv6 address"
  | .invalidHostCharacter => "invalid domain character"
  | .noScheme => "relative URL without a base"

end HtmlToLatex
