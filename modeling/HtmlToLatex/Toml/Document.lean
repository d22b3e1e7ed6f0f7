import HtmlToLatex.Toml.DateTime
import HtmlToLatex.Toml.Table

set_option autoImplicit false

/-! # Documents of TOML

Reads values, lines and whole documents. -/

namespace HtmlToLatex.Toml

/-! ## Values -/

/-- Reads elements with commas between them, at most `limit` of them. A comma that no element
    follows is left. -/
def readSeparated {α : Type} (element : List Char → Option (α × List Char)) :
    Nat → List Char → List α × List Char
  | 0, s => ([], s)
  | limit + 1, s =>
    match element s with
    | none => ([], s)
    | some (x, ',' :: r) =>
      match readSeparated element limit r with
      | ([], _) => ([x], ',' :: r)
      | (xs, r) => (x :: xs, r)
    | some (x, r) => ([x], r)

/-- Reads the rest of an array. A comma may follow the last element. -/
def readArray (value : List Char → Option (Value × List Char)) (s : List Char) :
    Option (Value × List Char) :=
  let element (s : List Char) : Option (Value × List Char) := do
    let (v, r) ← value (skipLayout s)
    some (v, skipLayout r)
  let (items, r) := readSeparated element s.length s
  let r :=
    match items, r with
    | _ :: _, ',' :: r => r
    | _, r => r
  match skipLayout r with
  | ']' :: r => some (.array items, r)
  | _ => none

/-- Reads a key with its value. -/
def readEntry (value : List Char → Option (Value × List Char)) (s : List Char) :
    Option ((List String × Value) × List Char) := do
  let (key, r) ← readKey s
  let (v, r) ← value (skipBlanks (← after? '=' r))
  some ((key, v), r)

/-- Adds a value under the parts of a key. -/
def Table.insertAt (t : Table) (key : List String) (v : Value) : Option Table :=
  key.getLast?.bind fun last => t.insert key.dropLast last v

/-- Reads the rest of a table between braces, which stands on one line. -/
def readInlineTable (value : List Char → Option (Value × List Char)) (s : List Char) :
    Option (Value × List Char) :=
  let element (s : List Char) : Option ((List String × Value) × List Char) := do
    let (entry, r) ← readEntry value s
    some (entry, skipBlanks r)
  let (entries, r) := readSeparated element s.length s
  match skipBlanks r with
  | '\x7d' :: r => do
    let t ← entries.foldlM (fun t (key, v) => t.insertAt key v) Table.empty
    some (.table t.toEntries, r)
  | _ => none

/-- Reads a truth value. -/
def readBoolean (s : List Char) : Option (Bool × List Char) :=
  if "true".toList.isPrefixOf s then some (true, s.drop 4)
  else if "false".toList.isPrefixOf s then some (false, s.drop 5)
  else none

/-- Reads a number, a date or a time. -/
def readNumeric (s : List Char) : Option (Value × List Char) :=
  match afterDateTime? s with
  | some r => some (.dateTime, r)
  | none =>
    match readFloat s with
    | some (value, r) => some (.float value, r)
    | none => (readInteger s).map fun (value, r) => (.integer value, r)

/-- Reads a value. Arrays and tables are nested at most `depth` levels deep. -/
def readValue : Nat → List Char → Option (Value × List Char)
  | depth, s =>
    match s with
    | '"' :: _ | '\'' :: _ => (readString s).map fun (content, r) => (.string content, r)
    | 't' :: _ | 'f' :: _ => (readBoolean s).map fun (value, r) => (.boolean value, r)
    | 'i' :: _ | 'n' :: _ => (readSpecial false s).map fun (value, r) => (.float value, r)
    | '[' :: r =>
      match depth with
      | 0 => none
      | depth + 1 => readArray (readValue depth) r
    | '\x7b' :: r =>
      match depth with
      | 0 => none
      | depth + 1 => readInlineTable (readValue depth) r
    | c :: _ => if c.isDigit || c = '+' || c = '-' then readNumeric s else none
    | [] => none

/-- How deep arrays and tables are nested at most. -/
def maxDepth : Nat := 79

/-! ## Tables with headers -/

/-- A document that is read. The table that the lines belong to is kept apart until the next header,
    and put in its place then. -/
structure Builder where
  root : Table := Table.empty
  current : Table := Table.empty
  /-- Where the open table belongs; the root if there are no names. -/
  path : List String := []
  /-- The open table is one of an array. -/
  inArray : Bool := false

/-- Puts the open table in its place. -/
def Builder.close (b : Builder) : Option Table :=
  match b.path.getLast? with
  | none => some b.current
  | some key =>
    Table.modifyAt false (fun parent =>
      if b.inArray then
        match parent.find? key with
        | some (.tables ts) => some (parent.replace key (.tables (b.current :: ts)))
        | _ => none
      else
        match parent.find? key with
        | none => some (parent.add key (.table b.current))
        | some _ => none) b.path.dropLast b.root

/-- The entries with which the table of a header starts: those that headers of tables inside it have
    given it. A table has one header. -/
def headerEntries? : Option Item → Option (List (String × Item))
  | none => some []
  | some (.table t) => if t.implicit && !t.dotted then some t.entries else none
  | some _ => none

/-- The table at the end of a path, if there is one. -/
def Table.at? : List String → Table → Option Table
  | [], t => some t
  | key :: path, t =>
    match t.find? key with
    | some (.table inner) => Table.at? path inner
    | some (.tables (last :: _)) => Table.at? path last
    | _ => none

/-- Opens the table of a header. -/
def Builder.openTable (b : Builder) (path : List String) : Option Builder := do
  let root ← b.close
  let key ← path.getLast?
  let entries ← headerEntries? ((Table.at? path.dropLast root).bind (·.find? key))
  let root ← Table.modifyAt false (fun parent => some (parent.remove key)) path.dropLast root
  some { root, current := .mk false false entries, path }

/-- Opens the next table of an array. -/
def Builder.openArrayTable (b : Builder) (path : List String) : Option Builder := do
  let root ← b.close
  let key ← path.getLast?
  let root ← Table.modifyAt false (fun parent =>
    match parent.find? key with
    | none => some (parent.add key (.tables []))
    | some (.tables _) => some parent
    | some _ => none) path.dropLast root
  some { root, current := Table.empty, path, inArray := true }

/-! ## Lines -/

/-- Reads a header: what it opens, and what follows its line. -/
def readHeader (b : Builder) (s : List Char) : Option (Builder × List Char) :=
  match s with
  | '[' :: '[' :: r => do
    let (path, r) ← readKey r
    let r ← afterLine? (← after? ']' (← after? ']' r))
    some (← b.openArrayTable path, r)
  | '[' :: r => do
    let (path, r) ← readKey r
    let r ← afterLine? (← after? ']' r)
    some (← b.openTable path, r)
  | _ => none

/-- Reads a line with a key and its value. -/
def readEntryLine (b : Builder) (s : List Char) : Option (Builder × List Char) := do
  let ((key, v), r) ← readEntry (readValue maxDepth) s
  let r ← afterLine? r
  some ({ b with current := ← b.current.insertAt key v }, r)

/-- Reads lines, at most `limit` of them. -/
def readLines : Nat → Builder → List Char → Option Builder
  | 0, _, _ => none
  | limit + 1, b, s =>
    match skipBlanks s with
    | [] => some b
    | '[' :: r => do
      let (b, r) ← readHeader b ('[' :: r)
      readLines limit b r
    | s =>
      if s.head? = some '#' ∨ (afterLineEnd? s).isSome then do
        readLines limit b (← afterLine? s)
      else do
        let (b, r) ← readEntryLine b s
        readLines limit b r

/-- Reads a document. There is none if the text is not written as it should be or gives a key
    twice. -/
def parse (text : String) : Option (List (String × Value)) := do
  let s :=
    match text.toList with
    | '\ufeff' :: r => r
    | s => s
  let b ← readLines (s.length + 1) {} s
  some (← b.close).toEntries

end HtmlToLatex.Toml
