import HtmlToLatex.Html.Entity
import HtmlToLatex.Markup.Node

set_option autoImplicit false

/-! # Tokens of markup

What a source text is cut into: runs of text, tags, comments and declarations. How the text after
a start tag is cut depends on the element, so the next token is read in one of five modes. -/

namespace HtmlToLatex.Html

/-- The name and attributes of a start tag. -/
structure TagToken where
  name : String
  attributes : List Attribute := []
  selfClosing : Bool := false
  deriving Repr, BEq, Inhabited

/-- A piece of the source. -/
inductive Token where
  /-- Text without null characters. -/
  | text (content : String)
  /-- A null character in text. -/
  | null
  | startTag (tag : TagToken)
  | endTag (name : String)
  | comment
  | doctype
  /-- Markup that is not written as it should be, met without yielding anything itself. -/
  | malformed
  deriving Repr, BEq, Inhabited

/-- How text is read. -/
inductive TextMode where
  /-- Tags and references count. -/
  | data
  /-- References count, and the end tag of the element. -/
  | escapable
  /-- Only the end tag of the element counts. -/
  | raw
  /-- As `raw`, but comments may hide the end tag. -/
  | script
  /-- Everything is text. -/
  | plain
  deriving Repr, BEq, DecidableEq, Inhabited

/-- Tokens with what follows them. -/
structure Scan where
  tokens : List Token
  rest : List Char

/-! ## Tags -/

/-- A blank between the parts of a tag. -/
def isTagBlank (c : Char) : Bool :=
  c == '\t' || c == '\n' || c == '\x0c' || c == ' '

/-- Puts a character of a name in lower case and replaces a null character. -/
def nameChar (c : Char) : Char :=
  if c = '\x00' then replacementChar else c.toLower

/-- Where the reading of attributes stands. Names and values are kept in reverse. -/
inductive AttributeState where
  | beforeName
  | name (name : List Char)
  | afterName (name : List Char)
  | beforeValue (name : List Char)
  | quoted (name : List Char) (quote : Char) (value : List Char)
  | unquoted (name value : List Char)
  | afterSlash

/-- Adds an attribute to those read so far, the last of which comes first. Of attributes of one
    name the first one stays. -/
def addAttribute (attributes : List Attribute) (name value : List Char) : List Attribute :=
  let name := String.ofList name.reverse
  if attributes.any (·.name == name) then attributes
  else { name, value := String.ofList (decodeAttribute value.reverse) } :: attributes

/-- The result of reading attributes: in order, with whether the tag closes itself, and what
    follows the tag. -/
abbrev AttributeReading := Option (List Attribute × Bool × List Char)

/-- Reads attributes up to the end of the tag. There is no result if the source ends first. -/
def readAttributesFrom (attributes : List Attribute) : AttributeState → List Char → AttributeReading
  | _, [] => none
  | state, c :: r =>
    let finish (attributes : List Attribute) : AttributeReading :=
      some (attributes.reverse, false, r)
    let startName (attributes : List Attribute) : AttributeReading :=
      if isTagBlank c then readAttributesFrom attributes .beforeName r
      else if c = '/' then readAttributesFrom attributes .afterSlash r
      else if c = '>' then finish attributes
      else readAttributesFrom attributes (.name [nameChar c]) r
    match state with
    | .beforeName => startName attributes
    | .afterSlash =>
      if c = '>' then some (attributes.reverse, true, r) else startName attributes
    | .name name =>
      if isTagBlank c then readAttributesFrom attributes (.afterName name) r
      else if c = '=' then readAttributesFrom attributes (.beforeValue name) r
      else if c = '/' ∨ c = '>' then startName (addAttribute attributes name [])
      else readAttributesFrom attributes (.name (nameChar c :: name)) r
    | .afterName name =>
      if isTagBlank c then readAttributesFrom attributes (.afterName name) r
      else if c = '=' then readAttributesFrom attributes (.beforeValue name) r
      else startName (addAttribute attributes name [])
    | .beforeValue name =>
      if isTagBlank c then readAttributesFrom attributes (.beforeValue name) r
      else if c = '"' ∨ c = '\'' then readAttributesFrom attributes (.quoted name c []) r
      else if c = '>' then finish (addAttribute attributes name [])
      else readAttributesFrom attributes (.unquoted name [c]) r
    | .quoted name quote value =>
      if c = quote then readAttributesFrom (addAttribute attributes name value) .beforeName r
      else readAttributesFrom attributes (.quoted name quote (c :: value)) r
    | .unquoted name value =>
      if isTagBlank c then readAttributesFrom (addAttribute attributes name value) .beforeName r
      else if c = '>' then finish (addAttribute attributes name value)
      else readAttributesFrom attributes (.unquoted name (c :: value)) r

/-- Reads the attributes of a tag. -/
def readAttributes (s : List Char) : AttributeReading :=
  readAttributesFrom [] .beforeName s

/-- A character that is part of the name of a tag. -/
def isTagNameChar (c : Char) : Bool :=
  !isTagBlank c && c != '/' && c != '>'

/-- Reads the rest of a tag from its name on. A tag that the source does not end is dropped. -/
def readTag (make : TagToken → Token) (s : List Char) : Scan :=
  let name := String.ofList ((s.takeWhile isTagNameChar).map nameChar)
  match readAttributes (s.dropWhile isTagNameChar) with
  | some (attributes, selfClosing, rest) => ⟨[make { name, attributes, selfClosing }], rest⟩
  | none => ⟨[], []⟩

/-- An end tag; its attributes do not count. -/
def makeEndTag (tag : TagToken) : Token :=
  .endTag tag.name

/-! ## Comments and declarations -/

/-- What follows the next closing angle bracket. -/
def afterBracket (s : List Char) : List Char :=
  (s.dropWhile (· ≠ '>')).drop 1

/-- Where the reading of a comment stands. -/
inductive CommentState where
  | start
  | startDash
  | inside
  /-- After one dash. -/
  | dash
  /-- After two dashes. -/
  | dashes
  /-- After two dashes and an exclamation mark. -/
  | bang

/-- What follows a comment. -/
def afterComment : CommentState → List Char → List Char
  | _, [] => []
  | state, c :: r =>
    match state with
    | .start =>
      if c = '-' then afterComment .startDash r else if c = '>' then r else afterComment .inside r
    | .startDash =>
      if c = '-' then afterComment .dashes r else if c = '>' then r else afterComment .inside r
    | .inside => if c = '-' then afterComment .dash r else afterComment .inside r
    | .dash => if c = '-' then afterComment .dashes r else afterComment .inside r
    | .dashes =>
      if c = '>' then r
      else if c = '!' then afterComment .bang r
      else if c = '-' then afterComment .dashes r
      else afterComment .inside r
    | .bang =>
      if c = '-' then afterComment .dash r else if c = '>' then r else afterComment .inside r

/-- Splits a text into the runs between null characters; an empty run is left out. -/
def textTokens (s : List Char) : List Token :=
  match splitOnElement '\x00' s with
  | [] => []
  | first :: others =>
    let run (part : List Char) : List Token :=
      if part.isEmpty then [] else [.text (String.ofList part)]
    run first ++ others.flatMap fun part => .null :: run part

/-- Splits a text before the end of a character data section; the end is dropped. -/
def splitSection : List Char → List Char × List Char
  | ']' :: ']' :: '>' :: r => ([], r)
  | c :: r => let (inside, rest) := splitSection r; (c :: inside, rest)
  | [] => ([], [])

/-- Whether a text starts with a word, in any case of its letters. -/
def startsWithWord (word : String) (s : List Char) : Bool :=
  word.toList.isPrefixOf ((s.take word.length).map Char.toLower)

/-- Reads what follows the opening angle bracket and exclamation mark. Character data sections
    count in foreign content only. -/
def readDeclaration (foreign : Bool) (s : List Char) : Scan :=
  match s with
  | '-' :: '-' :: r => ⟨[.comment], afterComment .start r⟩
  | s =>
    if startsWithWord "doctype" s then ⟨[.doctype], afterBracket s⟩
    else if foreign && "[CDATA[".toList.isPrefixOf s then
      let (inside, rest) := splitSection (s.drop 7)
      ⟨textTokens inside, rest⟩
    else ⟨[.comment], afterBracket s⟩

/-- Reads what follows an opening angle bracket in text of the mode `data`. -/
def readMarkup (foreign : Bool) (s : List Char) : Scan :=
  match s with
  | '!' :: r => readDeclaration foreign r
  | '?' :: r => ⟨[.comment], afterBracket r⟩
  | '/' :: '>' :: r => ⟨[.malformed], r⟩
  | ['/'] => ⟨[.text "</"], []⟩
  | '/' :: c :: r =>
    if c.isAlpha then readTag makeEndTag (c :: r) else ⟨[.comment], afterBracket (c :: r)⟩
  | c :: r => if c.isAlpha then readTag .startTag (c :: r) else ⟨[.text "<"], c :: r⟩
  | [] => ⟨[.text "<"], []⟩

/-! ## Text -/

/-- Reads what follows an ampersand in text. -/
def readTextReference (s : List Char) : Scan :=
  match readEntity? false s with
  | some reading =>
    ⟨(if reading.wellFormed then [] else [.malformed]) ++ [.text (String.ofList reading.value)],
      reading.rest⟩
  | none => ⟨[.text "&"], s⟩

/-- Whether a text starts with the end tag of an element. -/
def startsWithEndTag (element : String) (s : List Char) : Bool :=
  match s with
  | '<' :: '/' :: r =>
    startsWithWord element r &&
      (r.drop element.length).head?.any fun c => isTagBlank c || c == '/' || c == '>'
  | _ => false

/-- Replaces null characters in text that holds no markup. -/
def rawText (s : List Char) : List Token :=
  if s.isEmpty then []
  else [.text (String.ofList (s.map fun c => if c = '\x00' then replacementChar else c))]

/-- Splits a text before the end tag of an element, or before a character that satisfies
    `stops`. -/
def splitRaw (element : String) (stops : Char → Bool) : List Char → List Char × List Char
  | [] => ([], [])
  | c :: r =>
    if startsWithEndTag element (c :: r) || stops c then ([], c :: r)
    else let (inside, rest) := splitRaw element stops r; (c :: inside, rest)

/-- Where the reading of a script stands; the numbers count the dashes just read, up to two. -/
inductive ScriptState where
  | code
  /-- In a comment. -/
  | escaped (dashes : Nat)
  /-- In a script element in a comment. -/
  | nested (dashes : Nat)

/-- Whether a text starts with an opening angle bracket, the word `script` after an optional
    slash, and the end of the word. -/
def startsWithScriptWord (slash : Bool) (s : List Char) : Bool :=
  let after := if slash then "</script" else "<script"
  startsWithWord after s &&
    (s.drop after.length).head?.any fun c => isTagBlank c || c == '/' || c == '>'

/-- The number of dashes just read, after one more character. -/
def countDash (dashes : Nat) (c : Char) : Nat :=
  if c = '-' then min 2 (dashes + 1) else 0

/-- Splits a script before the end tag of its element. -/
def splitScript (element : String) : ScriptState → List Char → List Char × List Char
  | _, [] => ([], [])
  | state, c :: r =>
    let s := c :: r
    let next (state : ScriptState) : List Char × List Char :=
      let (inside, rest) := splitScript element state r
      (c :: inside, rest)
    match state with
    | .code =>
      if startsWithEndTag element s then ([], s)
      else if "<!--".toList.isPrefixOf s then
        match r with
        | a :: b :: d :: r =>
          let (inside, rest) := splitScript element (.escaped 2) r
          (c :: a :: b :: d :: inside, rest)
        | _ => next .code
      else next .code
    | .escaped dashes =>
      if startsWithEndTag element s then ([], s)
      else if startsWithScriptWord false s then next (.nested 0)
      else if c = '>' ∧ dashes = 2 then next .code
      else next (.escaped (countDash dashes c))
    | .nested dashes =>
      if startsWithScriptWord true s then next (.escaped 0)
      else if c = '>' ∧ dashes = 2 then next .code
      else next (.nested (countDash dashes c))

/-- A character that ends a run of ordinary text. -/
def endsTextRun (c : Char) : Bool :=
  c == '<' || c == '&' || c == '\x00'

/-- Reads the end tag that a text starts with, or else the raw text before one. -/
def readRaw (element : String) (split : List Char → List Char × List Char) (s : List Char) : Scan :=
  if startsWithEndTag element s then readTag makeEndTag (s.drop 2)
  else
    let (inside, rest) := split s
    ⟨rawText inside, rest⟩

/-- Reads the next tokens of a text that is not empty. `element` is the element whose end tag ends
    text that is not of the mode `data`. -/
def scan (mode : TextMode) (element : String) (foreign : Bool) (s : List Char) : Scan :=
  match mode, s with
  | .plain, s => ⟨rawText s, []⟩
  | .raw, s => readRaw element (splitRaw element fun _ => false) s
  | .script, s => readRaw element (splitScript element .code) s
  | .escapable, '&' :: r => readTextReference r
  | .escapable, s => readRaw element (splitRaw element (· = '&')) s
  | .data, '<' :: r => readMarkup foreign r
  | .data, '&' :: r => readTextReference r
  | .data, '\x00' :: r => ⟨[.null], r⟩
  | .data, s =>
    ⟨[.text (String.ofList (s.takeWhile fun c => !endsTextRun c))],
      s.dropWhile fun c => !endsTextRun c⟩

/-! ## Line ends -/

/-- Writes every line end as a line feed. -/
def normalizeLineEnds : List Char → List Char
  | '\r' :: '\n' :: r => '\n' :: normalizeLineEnds r
  | '\r' :: r => '\n' :: normalizeLineEnds r
  | c :: r => c :: normalizeLineEnds r
  | [] => []

/-- The characters of a source: without a byte order mark, with line feeds as line ends. -/
def sourceChars (source : String) : List Char :=
  normalizeLineEnds (match source.toList with
    | '\ufeff' :: r => r
    | s => s)

end HtmlToLatex.Html
