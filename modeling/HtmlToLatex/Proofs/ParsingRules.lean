import Mathlib.Tactic.SplitIfs
import HtmlToLatex.Proofs.NamedNodes

set_option autoImplicit false

/-! # The names that the rules of parsing give

The rules take most names of elements from start tags and supply a few where the source leaves out
a tag. Each rule keeps `Builder.NamedBy`, so a token does, whatever the state is, by
`Builder.NamedBy.apply`. -/

namespace HtmlToLatex.Html

/-! ## Rules -/

/-- Names of elements that are made where the source leaves out a start tag. -/
def impliedNames : List String := ["br", "colgroup", "html", "p", "tbody", "tr"]

/-- A property that the names of all elements have if those of all start tags have it. -/
structure ClosedUnderRules (P : String → Prop) : Prop where
  implied : ∀ name ∈ impliedNames, P name
  /-- One element is given another name than its tag. -/
  image : P "image" → P "img"
  /-- A finished tree has its names in lower case. -/
  lower : ∀ name, P name → P (lowerAscii name)

/-- All names that a rule leads to satisfy `P`. -/
def Step.NamedBy (P : String → Prop) : Step → Prop
  | .done b => b.NamedBy P
  | .again b token => b.NamedBy P ∧ token.NamedBy P
  | .read _ b => b.NamedBy P

variable {P : String → Prop}

theorem Step.NamedBy.ite {c : Prop} [Decidable c] {s t : Step} (hs : s.NamedBy P)
    (ht : t.NamedBy P) : (if c then s else t).NamedBy P := by
  split
  · exact hs
  · exact ht

namespace Builder

variable {b : Builder}

theorem NamedBy.switchTo (h : b.NamedBy P) (mode : InsertionMode) : (b.switchTo mode).NamedBy P := h

theorem NamedBy.resetMode (h : b.NamedBy P) : b.resetMode.NamedBy P := h

/-! ### Body content -/

theorem NamedBy.endTemplate (h : b.NamedBy P) : b.endTemplate.NamedBy P := by
  unfold Builder.endTemplate
  split
  · exact ((h.closeImplied _).popNamed "template").clearToMarker
  · exact h

theorem NamedBy.openText (h : b.NamedBy P) {tag : TagToken} (htag : P tag.name) (mode : TextMode) :
    (b.openText tag mode).NamedBy P :=
  h.openTag htag

theorem NamedBy.startHead (h : b.NamedBy P) {tag : TagToken} (htag : P tag.name) :
    (b.startHead tag).NamedBy P := by
  unfold Builder.startHead
  split
  case h_1 | h_2 | h_3 | h_4 => exact h.openText htag _
  case h_5 => exact (h.openTag htag).mark
  case h_6 => exact h.addTag htag

theorem NamedBy.startItem (h : b.NamedBy P) {tag : TagToken} (htag : P tag.name) :
    (b.startItem tag).NamedBy P := by
  unfold Builder.startItem
  refine (NamedBy.closeOpenParagraph ?_).openTag htag
  split <;> exact h

theorem NamedBy.startHeading (h : b.NamedBy P) {tag : TagToken} (htag : P tag.name) :
    (b.startHeading tag).NamedBy P := by
  unfold Builder.startHeading
  refine NamedBy.openTag ?_ htag
  split <;> exact h.closeOpenParagraph

theorem NamedBy.startForm (h : b.NamedBy P) {tag : TagToken} (htag : P tag.name) :
    (b.startForm tag).NamedBy P := by
  have hopened := h.closeOpenParagraph.openElement .html htag tag.attributes
  unfold Builder.startForm
  dsimp only
  split
  · exact h
  split <;> exact hopened

theorem NamedBy.startButton (h : b.NamedBy P) {tag : TagToken} (htag : P tag.name) :
    (b.startButton tag).NamedBy P := by
  unfold Builder.startButton
  refine (NamedBy.reopenFormatting ?_).openTag htag
  split <;> exact h

theorem NamedBy.startLink (h : b.NamedBy P) {tag : TagToken} (htag : P tag.name) :
    (b.startLink tag).NamedBy P := by
  unfold Builder.startLink
  refine (NamedBy.reopenFormatting ?_).openFormatting htag
  split
  · exact h
  · exact (h.closeFormatting "a").removeEntry _

theorem NamedBy.startNoBreak (h : b.NamedBy P) {tag : TagToken} (htag : P tag.name) :
    (b.startNoBreak tag).NamedBy P := by
  unfold Builder.startNoBreak
  refine NamedBy.openFormatting ?_ htag
  split
  · exact (h.reopenFormatting.closeFormatting "nobr").reopenFormatting
  · exact h.reopenFormatting

theorem NamedBy.startSelect (h : b.NamedBy P) {tag : TagToken} (htag : P tag.name) :
    (b.startSelect tag).NamedBy P := by
  unfold Builder.startSelect
  dsimp only
  split <;> exact h.reopenFormatting.openTag htag

theorem NamedBy.startOption (h : b.NamedBy P) {tag : TagToken} (htag : P tag.name) :
    (b.startOption tag).NamedBy P := by
  unfold Builder.startOption
  refine (NamedBy.reopenFormatting ?_).openTag htag
  split <;> exact h

theorem NamedBy.startRuby (h : b.NamedBy P) {tag : TagToken} (htag : P tag.name)
    {close : Builder → Builder} (hclose : (close b).NamedBy P) :
    (b.startRuby tag close).NamedBy P := by
  unfold Builder.startRuby
  refine NamedBy.openTag ?_ htag
  split
  · exact hclose
  · exact h

theorem NamedBy.openForeign (h : b.NamedBy P) (vocabulary : Vocabulary) {tag : TagToken}
    (htag : P tag.name) : (b.openForeign vocabulary tag).NamedBy P := by
  have hadded := h.addElement vocabulary htag (foreignAttributes vocabulary tag.attributes)
  unfold Builder.openForeign
  dsimp only
  split <;> exact hadded

theorem NamedBy.startInBody (hP : ClosedUnderRules P) (h : b.NamedBy P) {tag : TagToken}
    (htag : P tag.name) : (b.startInBody tag).NamedBy P := by
  have hparagraph := h.closeOpenParagraph
  have hreopened := h.reopenFormatting
  unfold Builder.startInBody
  dsimp only
  split_ifs
  · exact h.startHead htag
  · exact hparagraph.openTag htag
  · exact h.startHeading htag
  · exact hreopened.openFormatting htag
  · exact h
  split
  case h_8 => exact h.startForm htag
  case h_9 | h_10 | h_11 => exact h.startItem htag
  case h_13 => exact h.startButton htag
  case h_14 => exact h.startLink htag
  case h_15 => exact h.startNoBreak htag
  case h_16 | h_17 | h_18 => exact (hreopened.openTag htag).mark
  case h_27 himage => exact hreopened.addTag (hP.image (himage ▸ htag))
  case h_28 | h_29 | h_30 => exact h.addTag htag
  case h_31 => exact hparagraph.addTag htag
  case h_32 =>
    refine NamedBy.openText ?_ htag _
    exact h
  case h_33 => exact hparagraph.reopenFormatting.openText htag _
  case h_34 | h_35 | h_36 => exact h.openText htag _
  case h_37 => exact h.startSelect htag
  case h_38 | h_39 => exact h.startOption htag
  case h_40 | h_41 | h_42 | h_43 => exact h.startRuby htag h
  case h_44 | h_45 => exact hreopened.openForeign _ htag
  case h_46 => exact hreopened.openTag htag
  case h_1 | h_2 | h_3 | h_4 | h_5 => exact h
  case h_6 | h_7 | h_12 | h_19 => exact hparagraph.openTag htag
  case h_20 | h_21 | h_22 | h_23 | h_24 | h_25 | h_26 => exact hreopened.addTag htag

theorem NamedBy.endForm (h : b.NamedBy P) : b.endForm.NamedBy P := by
  unfold Builder.endForm
  split
  · split <;> exact h
  split
  · exact h
  · dsimp only
    split <;> exact h

theorem NamedBy.endParagraph (hP : ClosedUnderRules P) (h : b.NamedBy P) :
    b.endParagraph.NamedBy P := by
  have hp : P "p" := hP.implied "p" (by decide)
  unfold Builder.endParagraph
  refine NamedBy.closeParagraph ?_
  split
  · exact h
  · exact h.openImplied hp

theorem NamedBy.endItem (h : b.NamedBy P) (name : String) : (b.endItem name).NamedBy P := by
  unfold Builder.endItem
  dsimp only
  split_ifs <;> exact h

theorem NamedBy.endInBody (hP : ClosedUnderRules P) (h : b.NamedBy P) (name : String) :
    (b.endInBody name).NamedBy P := by
  unfold Builder.endInBody
  split
  · split
    · exact (h.closeImplied _).popNamed name
    · exact h
  split
  · exact h.closeFormatting name
  split
  · split
    · exact (h.closeImplied _).popThrough _
    · exact h
  split
  case h_1 => exact h.endTemplate
  case h_2 | h_3 => exact h
  case h_4 => exact h.endForm
  case h_5 => exact h.endParagraph hP
  case h_6 | h_7 | h_8 => exact h.endItem _
  case h_9 | h_10 => exact h.closeFormatting _
  case h_11 | h_12 | h_13 =>
    split
    · exact ((h.closeImplied _).popNamed _).clearToMarker
    · exact h
  case h_14 => exact h.reopenFormatting.addTag (hP.implied "br" (by decide))
  case h_15 => exact h.closeGeneric name

theorem NamedBy.stepInBody (hP : ClosedUnderRules P) (h : b.NamedBy P) {token : Token}
    (htoken : token.NamedBy P) : (b.stepInBody token).NamedBy P := by
  cases token with
  | text content => exact h.reopenFormatting.addText content
  | comment => exact h.addComment
  | startTag tag => exact h.startInBody hP htoken
  | endTag name => exact h.endInBody hP name
  | null | doctype | malformed => exact h

theorem NamedBy.stepInRawText (h : b.NamedBy P) (token : Token) :
    (b.stepInRawText token).NamedBy P := by
  cases token with
  | text content => exact h.addText content
  | _ => exact h

/-! ### Tables -/

theorem NamedBy.stepFostered (hP : ClosedUnderRules P) (h : b.NamedBy P) {token : Token}
    (htoken : token.NamedBy P) : (b.stepFostered token).NamedBy P := by
  have hfostering : ({ b with fostering := true } : Builder).NamedBy P := h
  have hstep := hfostering.stepInBody hP htoken
  unfold Builder.stepFostered
  split
  all_goals
    next heq =>
      rw [heq] at hstep
      exact hstep

theorem NamedBy.addFostered (h : b.NamedBy P) (content : String) :
    (b.addFostered content).NamedBy P := by
  have hfostering : ({ b with fostering := true } : Builder).NamedBy P := h
  exact hfostering.reopenFormatting.addText content

theorem NamedBy.flushTableText (h : b.NamedBy P) : b.flushTableText.NamedBy P := by
  have hstart : ({ b with tableText := [] } : Builder).NamedBy P := h
  unfold Builder.flushTableText
  dsimp only
  split
  · exact List.foldlRecOn (motive := fun b : Builder => b.NamedBy P) _ _ hstart
      fun b hb piece _ => hb.addText piece
  · exact List.foldlRecOn (motive := fun b : Builder => b.NamedBy P) _ _ hstart
      fun b hb piece _ => hb.addFostered piece

theorem NamedBy.stepInTableText (h : b.NamedBy P) {token : Token} (htoken : token.NamedBy P) :
    (b.stepInTableText token).NamedBy P := by
  cases token with
  | text content => exact h
  | null => exact h
  | _ => exact ⟨h.flushTableText.switchTo _, htoken⟩

theorem NamedBy.popToTable (h : b.NamedBy P) : b.popToTable.NamedBy P := h

theorem NamedBy.popToSection (h : b.NamedBy P) : b.popToSection.NamedBy P := h

theorem NamedBy.popToRow (h : b.NamedBy P) : b.popToRow.NamedBy P := h

theorem NamedBy.startTableText (hP : ClosedUnderRules P) (h : b.NamedBy P) {token : Token}
    (htoken : token.NamedBy P) : (b.startTableText token).NamedBy P := by
  unfold Builder.startTableText
  split
  · exact ⟨h, htoken⟩
  · exact h.stepFostered hP htoken

theorem NamedBy.startInTable (hP : ClosedUnderRules P) (h : b.NamedBy P) {tag : TagToken}
    (htag : P tag.name) : (b.startInTable tag).NamedBy P := by
  have hfostered : (b.stepFostered (.startTag tag)).NamedBy P := h.stepFostered hP htag
  have hcolgroup : P "colgroup" := hP.implied _ (by decide)
  have htbody : P "tbody" := hP.implied _ (by decide)
  unfold Builder.startInTable
  split
  case h_1 => exact (h.popToTable.mark.openTag htag).switchTo _
  case h_2 => exact (h.popToTable.openTag htag).switchTo _
  case h_3 => exact ⟨(h.popToTable.openImplied hcolgroup).switchTo _, htag⟩
  case h_4 | h_5 | h_6 => exact (h.popToTable.openTag htag).switchTo _
  case h_7 | h_8 | h_9 => exact ⟨(h.popToTable.openImplied htbody).switchTo _, htag⟩
  case h_10 =>
    split
    · exact ⟨(h.popNamed "table").resetMode, htag⟩
    · exact h
  case h_11 | h_12 | h_13 => exact h.startHead htag
  case h_14 =>
    split
    · exact h.addTag htag
    · exact hfostered
  case h_15 =>
    split
    · exact h
    · exact h.addElement .html htag tag.attributes
  case h_16 => exact hfostered

theorem NamedBy.stepInTable (hP : ClosedUnderRules P) (h : b.NamedBy P) {token : Token}
    (htoken : token.NamedBy P) : (b.stepInTable token).NamedBy P := by
  unfold Builder.stepInTable
  split
  case h_1 => exact h.startInTable hP htoken
  case h_2 =>
    refine (?_ : Builder.NamedBy _ P)
    split
    · exact (h.popNamed "table").resetMode
    · exact h
  case h_3 => exact h.endTemplate
  case h_4 =>
    split
    · exact h
    · exact h.stepFostered hP htoken
  case h_5 => exact h.addComment
  case h_6 => exact h.startTableText hP htoken
  case h_7 => exact h.startTableText hP htoken
  case h_8 | h_9 => exact h

/-! ### Captions and columns -/

theorem NamedBy.closeCaption (h : b.NamedBy P) : b.closeCaption.NamedBy P :=
  ((h.closeImplied _).popNamed "caption").clearToMarker.switchTo .inTable

theorem NamedBy.stepInCaption (hP : ClosedUnderRules P) (h : b.NamedBy P) {token : Token}
    (htoken : token.NamedBy P) : (b.stepInCaption token).NamedBy P := by
  have hbody := h.stepInBody hP htoken
  unfold Builder.stepInCaption
  dsimp only
  split
  case h_1 => exact .ite (.ite ⟨h.closeCaption, htoken⟩ h) hbody
  case h_2 => exact NamedBy.ite h.closeCaption h
  case h_3 => exact .ite ⟨h.closeCaption, htoken⟩ h
  case h_4 => exact .ite h hbody
  case h_5 => exact hbody

theorem NamedBy.stepInColumnGroup (h : b.NamedBy P) {token : Token} (htoken : token.NamedBy P) :
    (b.stepInColumnGroup token).NamedBy P := by
  have hleave : ∀ {d : Builder} {other : Token}, d.NamedBy P → other.NamedBy P →
      (if b.current.isNamed "colgroup" then Step.again (d.pop.switchTo .inTable) other
        else .done d).NamedBy P :=
    fun hd hother => .ite ⟨hd.pop.switchTo _, hother⟩ hd
  unfold Builder.stepInColumnGroup
  split
  case h_1 content =>
    have hblank : ∀ blank : List Char,
        (if blank.isEmpty then b else b.addText (String.ofList blank)).NamedBy P :=
      fun blank => NamedBy.ite h (h.addText _)
    exact .ite (hblank _) (hleave (hblank _) trivial)
  case h_2 => exact h.addComment
  case h_3 tag =>
    dsimp only
    split
    case h_1 => exact h
    case h_2 => exact h.addTag htoken
    case h_3 => exact h.startHead htoken
    case h_4 => exact hleave h htoken
  case h_4 => exact NamedBy.ite (h.pop.switchTo _) h
  case h_5 => exact h
  case h_6 => exact h.endTemplate
  case h_7 => exact hleave h htoken

/-! ### Sections, rows and cells -/

theorem NamedBy.closeSection (h : b.NamedBy P) : b.closeSection.NamedBy P :=
  h.popToSection.pop.switchTo .inTable

theorem NamedBy.stepInTableBody (hP : ClosedUnderRules P) (h : b.NamedBy P) {token : Token}
    (htoken : token.NamedBy P) : (b.stepInTableBody token).NamedBy P := by
  have htable := h.stepInTable hP htoken
  have hleave : (if inScope boundsTableScope (·.isOneOf ["table", "tbody", "tfoot"]) b.opened then
      Step.again b.closeSection token else .done b).NamedBy P :=
    .ite ⟨h.closeSection, htoken⟩ h
  have htr : P "tr" := hP.implied _ (by decide)
  unfold Builder.stepInTableBody
  dsimp only
  split
  case h_1 tag =>
    split
    case h_1 => exact (h.popToSection.openTag htoken).switchTo _
    case h_2 | h_3 => exact ⟨(h.popToSection.openImplied htr).switchTo _, htoken⟩
    case h_10 => exact htable
    all_goals exact hleave
  case h_2 name =>
    split
    case h_1 | h_2 | h_3 => exact NamedBy.ite h.closeSection h
    case h_4 => exact hleave
    case h_13 => exact htable
    all_goals exact h
  case h_3 => exact htable

theorem NamedBy.closeRow (h : b.NamedBy P) : b.closeRow.NamedBy P :=
  h.popToRow.pop.switchTo .inTableBody

theorem NamedBy.stepInRow (hP : ClosedUnderRules P) (h : b.NamedBy P) {token : Token}
    (htoken : token.NamedBy P) : (b.stepInRow token).NamedBy P := by
  have htable := h.stepInTable hP htoken
  have hleave : (if b.hasInScope boundsTableScope "tr" then Step.again b.closeRow token
      else .done b).NamedBy P :=
    .ite ⟨h.closeRow, htoken⟩ h
  unfold Builder.stepInRow
  split
  case h_1 tag =>
    dsimp only
    split
    case h_1 | h_2 => exact (h.popToRow.openTag htoken).mark.switchTo _
    case h_10 => exact htable
    all_goals exact hleave
  case h_2 name =>
    dsimp only
    split
    case h_1 => exact NamedBy.ite h.closeRow h
    case h_2 => exact hleave
    case h_3 | h_4 | h_5 => exact .ite hleave h
    case h_13 => exact htable
    all_goals exact h
  case h_3 => exact htable

theorem NamedBy.closeCell (h : b.NamedBy P) : b.closeCell.NamedBy P :=
  ((h.closeImplied _).popThrough _).clearToMarker.switchTo .inRow

theorem NamedBy.stepInCell (hP : ClosedUnderRules P) (h : b.NamedBy P) {token : Token}
    (htoken : token.NamedBy P) : (b.stepInCell token).NamedBy P := by
  have hbody := h.stepInBody hP htoken
  unfold Builder.stepInCell
  split
  case h_1 => exact .ite (.ite ⟨h.closeCell, htoken⟩ h) hbody
  case h_2 name =>
    split
    case h_1 | h_2 =>
      exact NamedBy.ite (((h.closeImplied _).popNamed _).clearToMarker.switchTo _) h
    case h_8 | h_9 | h_10 | h_11 | h_12 => exact .ite ⟨h.closeCell, htoken⟩ h
    case h_13 => exact hbody
    all_goals exact h
  case h_3 => exact hbody

/-! ### Selections and templates -/

theorem NamedBy.closeSelect (h : b.NamedBy P) : b.closeSelect.NamedBy P :=
  (h.popNamed "select").resetMode

theorem NamedBy.closeOption (h : b.NamedBy P) : b.closeOption.NamedBy P :=
  NamedBy.ite h.pop h

theorem NamedBy.closeGroup (h : b.NamedBy P) : b.closeGroup.NamedBy P :=
  NamedBy.ite h.pop h

theorem NamedBy.endGroup (h : b.NamedBy P) : b.endGroup.NamedBy P := by
  unfold Builder.endGroup
  split
  · exact (NamedBy.ite h.pop h).closeGroup
  · exact h.closeGroup

theorem NamedBy.stepInSelect (h : b.NamedBy P) {token : Token} (htoken : token.NamedBy P) :
    (b.stepInSelect token).NamedBy P := by
  unfold Builder.stepInSelect
  split
  case h_1 content => exact h.addText content
  case h_2 => exact h.addComment
  case h_3 tag =>
    dsimp only
    split
    case h_1 => exact h.closeOption.openTag htoken
    case h_2 => exact h.closeOption.closeGroup.openTag htoken
    case h_3 => exact NamedBy.ite h.closeSelect h
    case h_4 | h_5 | h_6 => exact .ite ⟨h.closeSelect, htoken⟩ h
    case h_7 | h_8 => exact h.startHead htoken
    case h_9 => exact h
  case h_4 => exact h.endGroup
  case h_5 => exact h.closeOption
  case h_6 => exact NamedBy.ite h.closeSelect h
  case h_7 => exact h.endTemplate
  all_goals exact h

theorem NamedBy.stepInSelectInTable (h : b.NamedBy P) {token : Token} (htoken : token.NamedBy P) :
    (b.stepInSelectInTable token).NamedBy P := by
  have hselect := h.stepInSelect htoken
  unfold Builder.stepInSelectInTable
  split
  case h_1 => exact .ite ⟨h.closeSelect, htoken⟩ hselect
  case h_2 => exact .ite (.ite ⟨h.closeSelect, htoken⟩ h) hselect
  case h_3 => exact hselect

theorem NamedBy.stepInTemplate (hP : ClosedUnderRules P) (h : b.NamedBy P) {token : Token}
    (htoken : token.NamedBy P) : (b.stepInTemplate token).NamedBy P := by
  unfold Builder.stepInTemplate
  split
  case h_1 => exact h.stepInBody hP htoken
  case h_2 => exact h.addComment
  case h_3 => exact .ite (h.startHead htoken) ⟨h, htoken⟩
  case h_4 => exact h.endTemplate
  all_goals exact h

/-! ### All rules -/

theorem NamedBy.stepInMode (hP : ClosedUnderRules P) (h : b.NamedBy P) {token : Token}
    (htoken : token.NamedBy P) : (b.stepInMode token).NamedBy P := by
  unfold Builder.stepInMode
  split
  case h_1 => exact h.stepInBody hP htoken
  case h_2 => exact h.stepInRawText token
  case h_3 => exact h.stepInTable hP htoken
  case h_4 => exact h.stepInTableText htoken
  case h_5 => exact h.stepInCaption hP htoken
  case h_6 => exact h.stepInColumnGroup htoken
  case h_7 => exact h.stepInTableBody hP htoken
  case h_8 => exact h.stepInRow hP htoken
  case h_9 => exact h.stepInCell hP htoken
  case h_10 => exact h.stepInSelect htoken
  case h_11 => exact h.stepInSelectInTable htoken
  case h_12 => exact h.stepInTemplate hP htoken

theorem NamedBy.leaveForeign (h : b.NamedBy P) : b.leaveForeign.NamedBy P := h

theorem NamedBy.stepInForeign (hP : ClosedUnderRules P) (h : b.NamedBy P) {token : Token}
    (htoken : token.NamedBy P) : (b.stepInForeign token).NamedBy P := by
  have hleft := h.leaveForeign.stepInMode hP htoken
  unfold Builder.stepInForeign
  split
  case h_1 => exact h.addText _
  case h_2 => exact h.addText _
  case h_3 => exact h.addComment
  case h_4 => exact .ite hleft (h.openForeign _ htoken)
  case h_5 =>
    refine .ite hleft ?_
    split
    · exact h
    · exact h.stepInMode hP htoken
  all_goals exact h

theorem NamedBy.settle (hP : ClosedUnderRules P) (limit : Nat) (h : b.NamedBy P) {token : Token}
    (htoken : token.NamedBy P) : (settle limit b token).1.NamedBy P := by
  induction limit generalizing b token with
  | zero => exact h
  | succ limit ih =>
      have hstep : (if isForeignIn b.current token then b.stepInForeign token
          else b.stepInMode token).NamedBy P :=
        .ite (h.stepInForeign hP htoken) (h.stepInMode hP htoken)
      unfold Builder.settle
      generalize (if isForeignIn b.current token then b.stepInForeign token
          else b.stepInMode token) = step at hstep
      cases step with
      | done b => exact hstep
      | read mode b => exact hstep
      | again b token => exact ih hstep.1 hstep.2

/-- **A token adds no element but one of its own name or one that is left out.** -/
theorem NamedBy.apply (hP : ClosedUnderRules P) (h : b.NamedBy P) {token : Token}
    (htoken : token.NamedBy P) : (b.apply token).1.NamedBy P := by
  have hkept : ({ b with skipsLineFeed := false } : Builder).NamedBy P := h
  have hhandle : ∀ token : Token, token.NamedBy P →
      (Builder.handle { b with skipsLineFeed := false } token).1.NamedBy P :=
    fun _ htoken => hkept.settle hP _ htoken
  unfold Builder.apply
  dsimp only
  split
  case h_1 | h_2 => exact h
  case h_3 =>
    split
    all_goals
      split
      · exact h
      · exact hhandle (.text _) trivial
  case h_4 => exact hhandle _ htoken

theorem NamedBy.finish (h : b.NamedBy P) : b.finish.NamedBy P :=
  NamedBy.ite h.flushTableText h

end Builder

end HtmlToLatex.Html
