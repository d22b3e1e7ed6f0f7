import HtmlToLatex.Html.Fragment

set_option autoImplicit false

/-! # The names of the elements of a document under construction

`Builder.NamedBy` says that every element made so far, and every formatting element that may be
opened again, has a name that satisfies `P`. Each step of the construction keeps this if the names
it is given satisfy `P`, and there is one lemma for each step, named like it. -/

namespace HtmlToLatex.Html

variable {P : String → Prop}

/-! ## Nodes -/

/-- The name of an element satisfies `P`; other nodes have none. -/
def NodeKind.NamedBy (P : String → Prop) : NodeKind → Prop
  | .element name _ => P name
  | _ => True

namespace Arena

/-- The names of all elements made so far satisfy `P`. -/
def NamedBy (a : Arena) (P : String → Prop) : Prop :=
  ∀ (id : NodeId) (cell : Cell), a.cells[id]? = some cell → cell.kind.NamedBy P

variable {a : Arena}

theorem NamedBy.create (h : a.NamedBy P) {kind : NodeKind} (hkind : kind.NamedBy P) :
    (a.create kind).1.NamedBy P := by
  intro id cell hcell
  simp only [Arena.create, Array.getElem?_push] at hcell
  split at hcell
  · obtain rfl := Option.some.inj hcell
    exact hkind
  · exact h id cell hcell

theorem NamedBy.modify (h : a.NamedBy P) (id : NodeId) {f : Cell → Cell}
    (hf : ∀ cell, cell.kind.NamedBy P → (f cell).kind.NamedBy P) : (a.modify id f).NamedBy P := by
  intro other cell hcell
  simp only [Arena.modify, Array.getElem?_modify] at hcell
  split at hcell
  · obtain ⟨before, hbefore, rfl⟩ := Option.map_eq_some_iff.1 hcell
    exact hf before (h other before hbefore)
  · exact h other cell hcell

theorem NamedBy.detach (h : a.NamedBy P) (id : NodeId) : (a.detach id).NamedBy P := by
  unfold Arena.detach
  split
  · exact h
  · refine (h.modify _ ?_).modify id ?_ <;> exact fun _ hcell => hcell

theorem NamedBy.append (h : a.NamedBy P) (parent id : NodeId) : (a.append parent id).NamedBy P := by
  unfold Arena.append
  refine (h.modify parent ?_).modify id ?_ <;> exact fun _ hcell => hcell

theorem NamedBy.insertBefore (h : a.NamedBy P) (parent sibling id : NodeId) :
    (a.insertBefore parent sibling id).NamedBy P := by
  unfold Arena.insertBefore
  refine (h.modify parent ?_).modify id ?_ <;> exact fun _ hcell => hcell

theorem NamedBy.moveChildren (h : a.NamedBy P) (source target : NodeId) :
    (a.moveChildren source target).NamedBy P := by
  unfold Arena.moveChildren
  refine List.foldlRecOn (motive := fun a : Arena => a.NamedBy P) _ _ ?_ fun a ha id _ => ?_
  · refine (h.modify source ?_).modify target ?_ <;> exact fun _ hcell => hcell
  · refine ha.modify id ?_
    exact fun _ hcell => hcell

end Arena

/-! ## Tokens -/

/-- The name of a start tag satisfies `P`. -/
def Token.NamedBy (P : String → Prop) : Token → Prop
  | .startTag tag => P tag.name
  | _ => True

/-- The name of a formatting element satisfies `P`. -/
def FormattingEntry.NamedBy (P : String → Prop) : FormattingEntry → Prop
  | .marker => True
  | .element _ tag => P tag.name

namespace Builder

/-- The names of all elements satisfy `P`, also of those that may be opened again. -/
def NamedBy (b : Builder) (P : String → Prop) : Prop :=
  b.arena.NamedBy P ∧ ∀ entry ∈ b.formatting, entry.NamedBy P

variable {b : Builder}

theorem NamedBy.ite {c : Prop} [Decidable c] {d e : Builder} (hd : d.NamedBy P)
    (he : e.NamedBy P) : (if c then d else e).NamedBy P := by
  split
  · exact hd
  · exact he

/-! ### The tree -/

theorem NamedBy.updateTree (h : b.NamedBy P) {f : Arena → Arena}
    (hf : b.arena.NamedBy P → (f b.arena).NamedBy P) : (b.updateTree f).NamedBy P :=
  ⟨hf h.1, h.2⟩

theorem NamedBy.createNode (h : b.NamedBy P) (kind : NodeKind) (hkind : kind.NamedBy P) :
    (b.createNode kind).1.NamedBy P :=
  ⟨h.1.create hkind, h.2⟩

theorem NamedBy.putNode (h : b.NamedBy P) (place : Place) (id : NodeId) :
    (b.putNode place id).NamedBy P := by
  unfold Builder.putNode
  split
  · exact h.updateTree fun ha => ha.append _ id
  split
  · exact h.updateTree fun ha => ha.insertBefore _ _ id
  · exact h.updateTree fun ha => ha.append _ id

theorem NamedBy.addText (h : b.NamedBy P) (content : String) : (b.addText content).NamedBy P := by
  unfold Builder.addText
  dsimp only
  split
  · exact h.updateTree fun ha => ha.modify _ fun _ _ => trivial
  · exact (h.createNode (.text content) trivial).putNode _ _

theorem NamedBy.addComment (h : b.NamedBy P) : b.addComment.NamedBy P :=
  (h.createNode .comment trivial).putNode _ _

theorem NamedBy.createElement (h : b.NamedBy P) (vocabulary : Vocabulary) {name : String}
    (hname : P name) (attributes : List Attribute) :
    (b.createElement vocabulary name attributes).1.NamedBy P := by
  unfold Builder.createElement
  dsimp only
  split
  · exact (h.createNode (.element name attributes) hname).createNode .contents trivial
  · exact h.createNode (.element name attributes) hname

theorem NamedBy.addElement (h : b.NamedBy P) (vocabulary : Vocabulary) {name : String}
    (hname : P name) (attributes : List Attribute) :
    (b.addElement vocabulary name attributes).1.NamedBy P :=
  (h.createElement vocabulary hname attributes).putNode _ _

theorem NamedBy.openElement (h : b.NamedBy P) (vocabulary : Vocabulary) {name : String}
    (hname : P name) (attributes : List Attribute) :
    (b.openElement vocabulary name attributes).1.NamedBy P :=
  h.addElement vocabulary hname attributes

theorem NamedBy.openTag (h : b.NamedBy P) {tag : TagToken} (htag : P tag.name) :
    (b.openTag tag).NamedBy P :=
  h.openElement .html htag tag.attributes

theorem NamedBy.addTag (h : b.NamedBy P) {tag : TagToken} (htag : P tag.name) :
    (b.addTag tag).NamedBy P :=
  h.addElement .html htag tag.attributes

theorem NamedBy.openImplied (h : b.NamedBy P) {name : String} (hname : P name) :
    (b.openImplied name).NamedBy P :=
  h.openElement .html hname []

/-! ### Closing elements

No node is changed by closing elements, so these hold by definition. They are stated nevertheless
because steps are chained. -/

theorem NamedBy.pop (h : b.NamedBy P) : b.pop.NamedBy P := h

theorem NamedBy.popBefore (h : b.NamedBy P) (p : OpenElement → Bool) :
    (b.popBefore p).NamedBy P := h

theorem NamedBy.popThrough (h : b.NamedBy P) (p : OpenElement → Bool) :
    (b.popThrough p).NamedBy P := h

theorem NamedBy.popNamed (h : b.NamedBy P) (name : String) : (b.popNamed name).NamedBy P := h

theorem NamedBy.closeImplied (h : b.NamedBy P) (names : List String) :
    (b.closeImplied names).NamedBy P := h

theorem NamedBy.closeImpliedExcept (h : b.NamedBy P) (name : String) :
    (b.closeImpliedExcept name).NamedBy P := h

theorem NamedBy.closeParagraph (h : b.NamedBy P) : b.closeParagraph.NamedBy P := h

theorem NamedBy.removeOpen (h : b.NamedBy P) (id : NodeId) : (b.removeOpen id).NamedBy P := h

theorem NamedBy.closeOpenParagraph (h : b.NamedBy P) : b.closeOpenParagraph.NamedBy P := by
  unfold Builder.closeOpenParagraph
  split <;> exact h

/-! ### Formatting elements -/

/-- Entries may be forgotten. -/
theorem NamedBy.forget (h : b.NamedBy P) {formatting : List FormattingEntry}
    (hsub : formatting ⊆ b.formatting) : { b with formatting }.NamedBy P :=
  ⟨h.1, fun entry hentry => h.2 entry (hsub hentry)⟩

theorem NamedBy.mark (h : b.NamedBy P) : b.mark.NamedBy P :=
  ⟨h.1, List.forall_mem_cons.2 ⟨trivial, h.2⟩⟩

theorem NamedBy.clearToMarker (h : b.NamedBy P) : b.clearToMarker.NamedBy P :=
  h.forget fun _ hentry => List.dropWhile_subset _ (List.drop_subset _ _ hentry)

theorem NamedBy.removeEntry (h : b.NamedBy P) (id : NodeId) : (b.removeEntry id).NamedBy P :=
  h.forget List.eraseP_subset

theorem limitAlike_subset (tag : TagToken) (entries : List FormattingEntry) :
    limitAlike tag entries ⊆ entries := by
  unfold limitAlike
  dsimp only
  split
  · intro entry hentry
    simp only [List.mem_append, List.mem_reverse] at hentry
    rcases hentry with hrecent | hearlier
    · exact List.takeWhile_subset _ (List.mem_reverse.1 (List.mem_of_mem_eraseP hrecent))
    · exact List.drop_subset _ _ hearlier
  · exact List.Subset.refl _

theorem NamedBy.openFormatting (h : b.NamedBy P) {tag : TagToken} (htag : P tag.name) :
    (b.openFormatting tag).NamedBy P := by
  have hopened := (h.forget (limitAlike_subset tag b.formatting)).openElement .html htag
    tag.attributes
  exact ⟨hopened.1, List.forall_mem_cons.2 ⟨htag, hopened.2⟩⟩

theorem NamedBy.reopenAll (h : b.NamedBy P) (entries : List FormattingEntry)
    (hentries : ∀ entry ∈ entries, entry.NamedBy P) :
    (b.reopenAll entries).1.NamedBy P ∧ ∀ entry ∈ (b.reopenAll entries).2, entry.NamedBy P := by
  induction entries with
  | nil => exact ⟨h, hentries⟩
  | cons entry earlier ih =>
      obtain ⟨hentry, hearlier⟩ := List.forall_mem_cons.1 hentries
      obtain ⟨hb, hreopened⟩ := ih hearlier
      cases entry with
      | marker => exact ⟨hb, List.forall_mem_cons.2 ⟨trivial, hreopened⟩⟩
      | element id tag =>
          exact ⟨hb.openElement .html hentry tag.attributes,
            List.forall_mem_cons.2 ⟨hentry, hreopened⟩⟩

theorem NamedBy.reopenFormatting (h : b.NamedBy P) : b.reopenFormatting.NamedBy P := by
  obtain ⟨hb, hreopened⟩ := h.reopenAll (b.formatting.takeWhile fun entry => !b.isSettled entry)
    fun entry hentry => h.2 entry (List.takeWhile_subset _ hentry)
  refine ⟨hb.1, fun entry hentry => ?_⟩
  rcases List.mem_append.1 hentry with hnew | hold
  · exact hreopened entry hnew
  · exact h.2 entry (List.drop_subset _ _ hold)

/-! ### Closing formatting elements -/

theorem NamedBy.closeGeneric (h : b.NamedBy P) (name : String) :
    (b.closeGeneric name).NamedBy P := by
  unfold Builder.closeGeneric
  split <;> exact h

theorem NamedBy.replaceEntry (h : b.NamedBy P) (id : NodeId) (entry : FormattingEntry)
    (hentry : entry.NamedBy P) : (b.replaceEntry id entry).NamedBy P := by
  refine ⟨h.1, List.forall_mem_map.2 fun old hold => ?_⟩
  split
  · exact hentry
  · exact h.2 old hold

theorem NamedBy.entryTag? (h : b.NamedBy P) {id : NodeId} :
    ∀ tag ∈ b.entryTag? id, P tag.name := by
  intro tag htag
  obtain ⟨entry, hmem, hentry⟩ := List.exists_of_findSome?_eq_some htag
  have hnamed := h.2 entry hmem
  cases entry with
  | marker => cases hentry
  | element other tag =>
      dsimp only at hentry
      split at hentry
      · obtain rfl := Option.some.inj hentry
        exact hnamed
      · cases hentry

theorem NamedBy.formattingEntry? (h : b.NamedBy P) {name : String} :
    ∀ found ∈ b.formattingEntry? name, P found.2.name := by
  intro found hfound
  obtain ⟨entry, hmem, hentry⟩ := List.exists_of_findSome?_eq_some hfound
  have hnamed := h.2 entry (List.takeWhile_subset _ hmem)
  cases entry with
  | marker => cases hentry
  | element other tag =>
      dsimp only at hentry
      split at hentry
      · obtain rfl := Option.some.inj hentry
        exact hnamed
      · cases hentry

theorem NamedBy.moveInto (h : b.NamedBy P) (parent id : NodeId) :
    (b.moveInto parent id).NamedBy P :=
  h.updateTree fun ha => (ha.detach id).append parent id

theorem NamedBy.splitElement {s : Splitting} (h : s.builder.NamedBy P) (block : NodeId)
    (count : Nat) (e : OpenElement) : (splitElement block s count e).builder.NamedBy P := by
  unfold Builder.splitElement
  dsimp only
  split
  next => exact h
  next tag htag =>
    have hname := h.entryTag? tag htag
    split
    · exact h.removeEntry e.id
    · have hcopy := h.createElement .html hname tag.attributes
      exact (hcopy.replaceEntry e.id (.element _ tag) hname).moveInto _ _

theorem NamedBy.splitElements {s : Splitting} (h : s.builder.NamedBy P) (block : NodeId)
    (count : Nat) (between : List OpenElement) :
    (splitElements block s count between).builder.NamedBy P := by
  induction between generalizing s count with
  | nil => exact h
  | cons e outer ih => exact ih (h.splitElement block count e) (count + 1)

theorem placeEntry_namedBy {entries : List FormattingEntry}
    (h : ∀ entry ∈ entries, entry.NamedBy P) (entry : FormattingEntry) (hentry : entry.NamedBy P)
    (closed : NodeId) (bookmark : Bookmark) :
    ∀ placed ∈ placeEntry entries closed entry bookmark, placed.NamedBy P := by
  intro placed hplaced
  cases bookmark with
  | inPlace =>
      obtain ⟨old, hold, rfl⟩ := List.mem_map.1 hplaced
      split
      · exact hentry
      · exact h old hold
  | after id =>
      obtain ⟨old, hold, hmem⟩ := List.mem_flatMap.1 (List.mem_of_mem_eraseP hplaced)
      split at hmem
      · rcases List.mem_cons.1 hmem with rfl | hmem
        · exact hentry
        · obtain rfl := List.mem_singleton.1 hmem
          exact h _ hold
      · obtain rfl := List.mem_singleton.1 hmem
        exact h _ hold

theorem NamedBy.takeOut (h : b.NamedBy P) {tag : TagToken} (htag : P tag.name)
    (closed block : OpenElement) (deeper between outer : List OpenElement) :
    (b.takeOut tag closed block deeper between outer).NamedBy P := by
  unfold Builder.takeOut
  extract_lets ancestor s detached opened moved
  have hsplit : s.builder.NamedBy P := NamedBy.splitElements h block.id 1 between
  have hdetached : detached.NamedBy P := hsplit.updateTree fun ha => ha.detach s.last
  have hmoved : moved.NamedBy P := NamedBy.putNode (b := opened) hdetached _ s.last
  have hcopy := hmoved.createElement .html htag tag.attributes
  generalize moved.createElement .html tag.name tag.attributes = made at hcopy ⊢
  obtain ⟨made, copy⟩ := made
  have hfilled : (made.updateTree fun arena =>
      (arena.moveChildren block.id copy.id).append block.id copy.id).NamedBy P :=
    NamedBy.updateTree hcopy fun ha => (ha.moveChildren block.id copy.id).append block.id copy.id
  exact ⟨hfilled.1,
    placeEntry_namedBy hfilled.2 (.element copy.id tag) htag closed.id s.bookmark⟩

theorem NamedBy.closeFormattingRounds (name : String) (rounds : Nat) (h : b.NamedBy P) :
    (closeFormattingRounds name rounds b).NamedBy P := by
  induction rounds generalizing b with
  | zero => exact h
  | succ rounds ih =>
      unfold Builder.closeFormattingRounds
      split
      next => exact h.closeGeneric name
      next id tag hfound =>
        have htag := h.formattingEntry? _ hfound
        dsimp only
        split
        next => exact h.removeEntry id
        next closed outer hopened =>
          split
          · exact h
          split
          next => exact NamedBy.removeEntry h id
          next block deeper hinner => exact ih (h.takeOut htag closed block _ _ outer)

theorem NamedBy.closeFormatting (h : b.NamedBy P) (name : String) :
    (b.closeFormatting name).NamedBy P := by
  unfold Builder.closeFormatting
  split
  · exact h
  · exact NamedBy.closeFormattingRounds name 8 h

end Builder
end HtmlToLatex.Html
