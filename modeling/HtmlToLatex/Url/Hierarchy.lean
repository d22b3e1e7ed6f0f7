import HtmlToLatex.Url.Percent

set_option autoImplicit false

/-! # Paths of URLs

A path is built up segment by segment: single dots vanish, double dots take the last segment
away, everything else is percent encoded. Drive letters at the front of a path are kept from
being taken away. -/

namespace HtmlToLatex.Url

/-- The rules that a scheme follows. -/
inductive SchemeKind where
  | file
  /-- Schemes that need a host and treat backslashes as slashes. -/
  | special
  | other
  deriving Repr, BEq, DecidableEq

/-- The special schemes with their default ports. -/
def specialPorts : List (String × Nat) :=
  [("http", 80), ("https", 443), ("ws", 80), ("wss", 443), ("ftp", 21)]

/-- The rules that a scheme follows. -/
def SchemeKind.ofScheme (scheme : String) : SchemeKind :=
  if scheme = "file" then .file
  else if (specialPorts.lookup scheme).isSome then .special
  else .other

/-- Whether a character separates the segments of a path. -/
def isSeparator (kind : SchemeKind) (c : Char) : Bool :=
  c == '/' || (c == '\\' && kind != .other)

/-- Whether a character ends the path. -/
def endsPath (c : Char) : Bool :=
  c == '?' || c == '#'

/-! ## Drive letters -/

/-- A letter with a colon or bar. -/
def isDriveLetter : List Char → Bool
  | [a, b] => a.isAlpha && (b == ':' || b == '|')
  | _ => false

/-- A letter with a colon. -/
def isNormalDriveLetter (s : List Char) : Bool :=
  isDriveLetter s && s.getLast? == some ':'

/-- Whether a text starts with a drive letter that is a segment of its own. -/
def startsWithDriveLetter : List Char → Bool
  | a :: b :: r =>
    isDriveLetter [a, b] && (r.head?.all fun c => c == '/' || c == '\\' || c == '?' || c == '#')
  | _ => false

/-! ## Dot segments -/

/-- The spellings of a dot in a segment that is made of dots only. -/
def dotCount? : List Char → Option Nat
  | [] => some 0
  | '.' :: r => (dotCount? r).map (· + 1)
  | '%' :: '2' :: 'e' :: r => (dotCount? r).map (· + 1)
  | '%' :: '2' :: 'E' :: r => (dotCount? r).map (· + 1)
  | _ => none

/-- The text up to the last slash, which is included. -/
def upToLastSlash (path : List Char) : List Char :=
  (path.reverse.dropWhile (· ≠ '/')).reverse

/-- What follows the last slash. -/
def afterLastSlash (path : List Char) : List Char :=
  (path.reverse.takeWhile (· ≠ '/')).reverse

/-- Whether the last slash of a path may go: there is a slash before it, and what stands between
    is no drive letter. -/
def lastSlashMayGo (path : List Char) : Bool :=
  let front := upToLastSlash path.dropLast
  !front.isEmpty && !startsWithDriveLetter (path.drop front.length)

/-- Takes the last segment of a path away, but no drive letter of a file path. -/
def dropLastSegment (kind : SchemeKind) (path : List Char) : List Char :=
  if kind == .file && isNormalDriveLetter (afterLastSlash path) then path else upToLastSlash path

/-- The path after a double dot. `slash` says whether a separator follows. -/
def ascend (kind : SchemeKind) (slash : Bool) (path : List Char) : List Char :=
  let path :=
    if path.getLast? == some '/' && lastSlashMayGo path then path.dropLast else path
  let path := dropLastSegment kind path
  if slash && path.getLast? != some '/' then path ++ ['/'] else path

/-! ## Segments -/

/-- Appends the characters of a segment of a file path, encoded. A drive letter that was taken for
    a whole segment gets its slash when more characters follow; the second part of the result
    counts these slashes. -/
def appendFileSegment : List Char → List Char → List Char × Nat
  | path, [] => (path, 0)
  | path, c :: r =>
    let gap := isNormalDriveLetter (path.drop 1)
    let path := (if gap then path ++ ['/'] else path) ++ percentEncodeChar encodedInPath c
    let (path, gaps) := appendFileSegment path r
    (path, gaps + if gap then 1 else 0)

/-- Appends the characters of a segment, encoded, and counts the slashes put in between. -/
def appendSegment (kind : SchemeKind) (path segment : List Char) : List Char × Nat :=
  if kind == .file then appendFileSegment path segment
  else (path ++ percentEncode encodedInPath segment, 0)

/-- A path under construction. -/
structure PathState where
  path : List Char
  /-- A drive letter takes the place of the host. -/
  dropsHost : Bool := false

/-- Adds a segment. `slash` says whether a separator follows it. -/
def PathState.add (kind : SchemeKind) (state : PathState) (slash : Bool) (segment : List Char) :
    PathState :=
  let (path, gaps) := appendSegment kind state.path segment
  let start := state.path.length + gaps
  let written := path.drop start
  let front := path.take start
  let slashes := if slash then ['/'] else []
  match dotCount? written with
  | some 2 => { state with path := ascend kind slash front }
  | some 1 =>
    { state with path := if front.getLast? == some '/' then front else front ++ ['/'] }
  | _ =>
    if kind == .file && isDriveLetter written then
      { path := front ++ written.take 1 ++ ':' :: slashes, dropsHost := true }
    else { state with path := path ++ slashes }

/-- Splits a text at its separators. -/
def splitSegments (kind : SchemeKind) : List Char → List (List Char)
  | [] => [[]]
  | c :: r =>
    if isSeparator kind c then [] :: splitSegments kind r
    else
      match splitSegments kind r with
      | [] => [[c]]
      | segment :: segments => (c :: segment) :: segments

/-- Adds all segments; a separator follows each but the last. -/
def PathState.addAll (kind : SchemeKind) (state : PathState) : List (List Char) → PathState
  | [] => state
  | [last] => state.add kind false last
  | segment :: segments => (state.add kind true segment).addAll kind segments

/-- Builds the path that a text stands for onto the beginning of one. A file path starts with
    exactly one slash. -/
def buildPath (kind : SchemeKind) (beginning text : List Char) : PathState :=
  let state := PathState.addAll kind { path := beginning } (splitSegments kind text)
  if kind == .file then { state with path := '/' :: state.path.dropWhile (· = '/') } else state

end HtmlToLatex.Url
