import HtmlToLatex.Html.Builder

set_option autoImplicit false

/-! # Closing formatting elements

Formatting elements may be closed in another order than they were opened, and across blocks. Closing
one splits the elements that stand between it and the block inside it, so that the block is taken
out of the formatting element and its content is wrapped anew. -/

namespace HtmlToLatex.Html.Builder

/-- Closes the innermost element of a name, unless an element stands in between that no end tag
    reaches across. -/
def closeGeneric (b : Builder) (name : String) : Builder :=
  let rec reaches : List OpenElement → Bool
    | [] => false
    | e :: outer => e.isNamed name || (!e.isOneOf specialNames && reaches outer)
  if reaches b.opened then (b.closeImpliedExcept name).popNamed name else b

/-- Where the entry of a new formatting element goes in the list. -/
inductive Bookmark where
  /-- In the place of the closed element. -/
  | inPlace
  /-- After the entry of another element. -/
  | after (id : NodeId)

/-- The elements between a formatting element and a block while they are split. -/
structure Splitting where
  builder : Builder
  /-- The outermost node of the part that is taken out. -/
  last : NodeId
  bookmark : Bookmark
  /-- The elements that stay open, outermost first. -/
  kept : List OpenElement

/-- Replaces the entry of a node. -/
def replaceEntry (b : Builder) (id : NodeId) (entry : FormattingEntry) : Builder :=
  { b with formatting := b.formatting.map fun old => if isEntryOf id old then entry else old }

/-- The tag that a formatting element was opened with. -/
def entryTag? (b : Builder) (id : NodeId) : Option TagToken :=
  b.formatting.findSome? fun
    | .marker => none
    | .element other tag => if other == id then some tag else none

/-- Makes a node the last child of another, wherever it was. -/
def moveInto (b : Builder) (parent id : NodeId) : Builder :=
  b.updateTree fun arena => (arena.detach id).append parent id

/-- Splits one element between a formatting element and the block `block`. It is the `count`-th one
    from the block; only three are split. -/
def splitElement (block : NodeId) (s : Splitting) (count : Nat) (e : OpenElement) : Splitting :=
  let b := s.builder
  match b.entryTag? e.id with
  | none => s
  | some tag =>
    if 3 < count then { s with builder := b.removeEntry e.id }
    else
      let (b, copy) := b.createElement .html tag.name tag.attributes
      let b := b.replaceEntry e.id (.element copy.id tag)
      { builder := b.moveInto copy.id s.last
        last := copy.id
        bookmark := if s.last == block then .after copy.id else s.bookmark
        kept := copy :: s.kept }

/-- Splits the elements between a formatting element and a block, from the block on outwards. -/
def splitElements (block : NodeId) (s : Splitting) (count : Nat) : List OpenElement → Splitting
  | [] => s
  | e :: outer => splitElements block (splitElement block s count e) (count + 1) outer

/-- Puts the entry of a new formatting element into the list, in which the last entry comes first,
    and forgets that of the closed one. -/
def placeEntry (entries : List FormattingEntry) (closed : NodeId) (entry : FormattingEntry) :
    Bookmark → List FormattingEntry
  | .inPlace => entries.map fun old => if isEntryOf closed old then entry else old
  | .after id =>
    (entries.flatMap fun old => if isEntryOf id old then [entry, old] else [old]).eraseP
      (isEntryOf closed)

/-- Takes the block `block` out of the formatting element `closed`. The open elements are `deeper`,
    the block, `between`, the formatting element and `outer`, innermost first. -/
def takeOut (b : Builder) (tag : TagToken) (closed block : OpenElement)
    (deeper between outer : List OpenElement) : Builder :=
  let ancestor := outer.headD b.root
  let s := splitElements block.id
    { builder := b, last := block.id, bookmark := .inPlace, kept := [] } 1 between
  let b := { s.builder.updateTree (·.detach s.last) with
    opened := deeper ++ block :: s.kept.reverse ++ closed :: outer }
  let b := b.putNode (b.placeIn ancestor) s.last
  let (b, copy) := b.createElement .html tag.name tag.attributes
  let b := b.updateTree fun arena =>
    (arena.moveChildren block.id copy.id).append block.id copy.id
  { b with
    formatting := placeEntry b.formatting closed.id (.element copy.id tag) s.bookmark
    opened := deeper ++ copy :: block :: s.kept.reverse ++ outer }

/-- The last entry of a name since the last mark. -/
def formattingEntry? (b : Builder) (name : String) : Option (NodeId × TagToken) :=
  (entriesToMarker b.formatting).findSome? fun
    | .marker => none
    | .element id tag => if tag.name == name then some (id, tag) else none

/-- Closes the last formatting element of a name, and does so again for each element that the
    closing opens, at most `rounds` times in all. -/
def closeFormattingRounds (name : String) : Nat → Builder → Builder
  | 0, b => b
  | rounds + 1, b =>
    match b.formattingEntry? name with
    | none => b.closeGeneric name
    | some (id, tag) =>
      let inner := b.opened.takeWhile (·.id ≠ id)
      match b.opened.drop inner.length with
      | [] => b.removeEntry id
      | closed :: outer =>
        if !inScope boundsScope (·.id = id) b.opened then b
        else
          let between := (inner.reverse.takeWhile fun e => !e.isOneOf specialNames).reverse
          match (inner.take (inner.length - between.length)).reverse with
          | [] => { b with opened := outer }.removeEntry id
          | block :: deeper =>
            closeFormattingRounds name rounds
              (b.takeOut tag closed block deeper.reverse between outer)

/-- Applies the end tag of a formatting element. -/
def closeFormatting (b : Builder) (name : String) : Builder :=
  if b.current.isNamed name && !b.hasEntry b.current.id then b.pop
  else closeFormattingRounds name 8 b

end HtmlToLatex.Html.Builder
