import HtmlToLatex.Url.Hierarchy
import HtmlToLatex.Url.Host

set_option autoImplicit false

/-! # Absolute URLs

A URL is a scheme, an optional authority (user, host and port), a path, and an optional query and
fragment. Reading one puts it into a normal form: host names in lower case ASCII, addresses in
their shortest form, default ports left out, dot segments resolved, characters percent encoded. -/

namespace HtmlToLatex

open Url

/-- Who answers for a URL. -/
structure Authority where
  /-- User and password, encoded. -/
  userInfo : List Char := []
  /-- The host as it is written; empty if there is none. -/
  host : List Char := []
  /-- The port, unless it is the default one. -/
  port : Option Nat := none
  deriving Repr, BEq, DecidableEq, Inhabited

/-- An absolute URL in normal form. -/
structure Url where
  scheme : String
  authority : Option Authority := none
  path : List Char := []
  /-- The path is no hierarchy of segments. -/
  isOpaque : Bool := false
  query : Option (List Char) := none
  fragment : Option (List Char) := none
  deriving Repr, BEq, DecidableEq, Inhabited

namespace Url

/-- An authority as it stands in a URL. -/
def renderAuthority (a : Authority) : List Char :=
  ['/', '/'] ++ (if a.userInfo.isEmpty then [] else a.userInfo ++ ['@']) ++ a.host
    ++ (match a.port with
      | some port => ':' :: (toString port).toList
      | none => [])

/-- What stands between scheme and path. A path that starts with two slashes is kept apart from
    an authority by a dot segment. -/
def renderBeforePath (u : Url) : List Char :=
  match u.authority with
  | some a => renderAuthority a
  | none => if ['/', '/'].isPrefixOf u.path then ['/', '.'] else []

/-- The text of a URL. -/
def render (u : Url) : String :=
  u.scheme ++ ":" ++ String.ofList (u.renderBeforePath ++ u.path
    ++ (u.query.map ('?' :: ·)).getD [] ++ (u.fragment.map ('#' :: ·)).getD [])

/-! ## Preparation and scheme -/

/-- Drops control characters and spaces at both ends, and tabs and line breaks everywhere. -/
def prepare (s : List Char) : List Char :=
  let idle (c : Char) : Bool := c.toNat ≤ 0x20
  ((s.dropWhile idle).reverse.dropWhile idle).reverse.filter fun c =>
    c ≠ '\t' && c ≠ '\n' && c ≠ '\r'

/-- A character that a scheme may hold after its first letter. -/
def isSchemeChar (c : Char) : Bool :=
  c.isAlphanum || c == '+' || c == '-' || c == '.'

/-- Splits a text after its scheme, which is put in lower case. -/
def splitScheme? (s : List Char) : Option (String × List Char) :=
  if s.head?.any Char.isAlpha then
    match s.dropWhile isSchemeChar with
    | ':' :: rest => some (String.ofList ((s.takeWhile isSchemeChar).map Char.toLower), rest)
    | _ => none
  else none

/-! ## Query and fragment -/

/-- Adds query and fragment to a URL: the part of the text from its question or hash mark on. -/
def withTail (kind : SchemeKind) (u : Url) (tail : List Char) : Url :=
  let set := if kind == .other then encodedInQuery else encodedInSpecialQuery
  let withFragment (u : Url) : List Char → Url
    | '#' :: r => { u with fragment := some (percentEncode encodedInFragment r) }
    | _ => u
  match tail with
  | '?' :: r =>
    withFragment { u with query := some (percentEncode set (r.takeWhile (· ≠ '#'))) }
      (r.dropWhile (· ≠ '#'))
  | tail => withFragment u tail

/-! ## Authority -/

/-- Whether a character ends the authority. -/
def endsAuthority (kind : SchemeKind) (c : Char) : Bool :=
  isSeparator kind c || endsPath c

/-- Splits a text at its last `@`. -/
def splitLastAt? (s : List Char) : Option (List Char × List Char) :=
  match s.reverse.dropWhile (· ≠ '@') with
  | _ :: front => some (front.reverse, (s.reverse.takeWhile (· ≠ '@')).reverse)
  | [] => none

/-- User and password, encoded; the colon goes if there is no password. -/
def encodeUserInfo (s : List Char) : List Char :=
  let user := percentEncode encodedInUserInfo (s.takeWhile (· ≠ ':'))
  match s.dropWhile (· ≠ ':') with
  | _ :: password@(_ :: _) => user ++ ':' :: percentEncode encodedInUserInfo password
  | _ => user

/-- Splits host and port: at the first colon that is not between brackets. -/
def splitHost (inBrackets : Bool) : List Char → List Char × List Char
  | [] => ([], [])
  | c :: r =>
    if c = ':' ∧ inBrackets = false then ([], c :: r)
    else
      let (host, rest) :=
        splitHost (if c = '[' then true else if c = ']' then false else inBrackets) r
      (c :: host, rest)

/-- Reads the digits of a port up to a character that ends the authority; a backslash ends it for
    every scheme. -/
def readPort (value : Nat) (seen : Bool) : List Char → Except UrlError (Option Nat × List Char)
  | [] => .ok (if seen then some value else none, [])
  | c :: r =>
    if c.isDigit then
      let value := value * 10 + digitValue c
      if 65535 < value then .error .invalidPort else readPort value true r
    else if c = '/' ∨ c = '\\' ∨ c = '?' ∨ c = '#' then
      .ok (if seen then some value else none, c :: r)
    else .error .invalidPort

/-- Reads an authority and returns what follows it. -/
def readAuthority (scheme : String) (s : List Char) : Except UrlError (Authority × List Char) := do
  let kind := SchemeKind.ofScheme scheme
  let front := s.takeWhile fun c => !endsAuthority kind c
  let after := s.dropWhile fun c => !endsAuthority kind c
  let (userInfo, rest) ←
    match splitLastAt? front with
    | none => pure ([], front ++ after)
    | some (user, rest) =>
      if user.isEmpty && rest.isEmpty && !after.isEmpty then .error .emptyHost
      else pure (encodeUserInfo user, rest ++ after)
  let hostFront := rest.takeWhile fun c => !endsAuthority kind c
  let (hostText, portText) := splitHost false hostFront
  let rest := portText ++ rest.drop hostFront.length
  let host ← if kind == .special then
      if hostText.isEmpty then .error .emptyHost else parseHost hostText
    else parseOpaqueHost hostText
  let hostText := host.render
  if hostText.isEmpty && rest.head? == some ':' then .error .emptyHost
  else
    let (port, rest) ← match rest with
      | ':' :: r => readPort 0 false r
      | rest => pure (none, rest)
    if hostText.isEmpty && !userInfo.isEmpty then .error .emptyHost
    else
      let port := if port == specialPorts.lookup scheme then none else port
      .ok ({ userInfo, host := hostText, port }, rest)

/-! ## The parts together -/

/-- Splits a text where its path ends. -/
def splitPath (s : List Char) : List Char × List Char :=
  (s.takeWhile fun c => !endsPath c, s.dropWhile fun c => !endsPath c)

/-- Builds a URL whose path starts after its authority. -/
def ofAuthority (scheme : String) (a : Authority) (rest : List Char) : Url :=
  let kind := SchemeKind.ofScheme scheme
  let (text, tail) := splitPath rest
  let path :=
    if kind == .other then
      match text with
      | [] => []
      | '/' :: _ => (buildPath kind [] text).path
      | text => (buildPath kind ['/'] text).path
    else
      match text with
      | c :: r => if isSeparator kind c then (buildPath kind ['/'] r).path
        else (buildPath kind ['/'] text).path
      | [] => ['/']
  withTail kind { scheme, authority := some a, path } tail

/-- Reads what follows a scheme without rules of its own. -/
def parseOther (scheme : String) (s : List Char) : Except UrlError Url := do
  match s with
  | '/' :: '/' :: r =>
    let (a, rest) ← readAuthority scheme r
    .ok (ofAuthority scheme a rest)
  | '/' :: r =>
    let (text, tail) := splitPath r
    .ok (withTail .other { scheme, path := (buildPath .other ['/'] text).path } tail)
  | s =>
    let (text, tail) := splitPath s
    .ok (withTail .other
      { scheme, path := percentEncode encodedInControls text, isOpaque := true } tail)

/-- The host of a file URL; the local one is not written. -/
def parseFileHost (s : List Char) : Except UrlError (List Char) := do
  if s.isEmpty || isDriveLetter s then .ok []
  else
    let host ← parseHost s
    .ok (if host == .domain "localhost".toList then [] else host.render)

/-- Reads what follows the scheme of a file URL. -/
def parseFile (s : List Char) : Except UrlError Url := do
  let build (host beginning rest : List Char) : Url :=
    let (text, tail) := splitPath rest
    let state := buildPath .file beginning text
    let host := if state.dropsHost then [] else host
    withTail .file { scheme := "file", authority := some { host }, path := state.path } tail
  match s with
  | a :: b :: r =>
    if isSeparator .file a && isSeparator .file b then
      let hostText := r.takeWhile fun c => !endsAuthority .file c
      let host ← parseFileHost hostText
      let rest := if isDriveLetter hostText then r else r.drop hostText.length
      if host.isEmpty then .ok (build [] ['/'] rest)
      else
        match rest with
        | c :: rest' =>
          .ok (build host ['/'] (if isSeparator .file c then rest' else rest))
        | [] => .ok (build host ['/'] [])
    else if isSeparator .file a then .ok (build [] [] s)
    else .ok (build [] ['/'] s)
  | [a] => .ok (if isSeparator .file a then build [] [] s else build [] ['/'] s)
  | [] => .ok (build [] ['/'] [])

/-- Reads an absolute URL. -/
def parse (text : String) : Except UrlError Url := do
  match splitScheme? (prepare text.toList) with
  | none => .error .noScheme
  | some (scheme, rest) =>
    match SchemeKind.ofScheme scheme with
    | .file => parseFile rest
    | .special =>
      let (a, rest) ← readAuthority scheme (rest.dropWhile fun c => c = '/' || c = '\\')
      .ok (ofAuthority scheme a rest)
    | .other => parseOther scheme rest

end Url
end HtmlToLatex
