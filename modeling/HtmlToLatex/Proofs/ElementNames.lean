import HtmlToLatex.Proofs.Forest
import HtmlToLatex.Proofs.ParsingRules
import HtmlToLatex.Proofs.StartTags

set_option autoImplicit false

/-! # Where the names of elements come from

A source is read piece by piece, the start tags of each piece are written in it, and the rules of
parsing name elements by start tags. Together this is `parseFragment_named`: the elements of a
fragment are named by the start tags of its source. -/

namespace HtmlToLatex.Html

variable {P : String → Prop}

/-! ## Sources -/

theorem Reading.apply_namedBy (hP : ClosedUnderRules P) {r : Reading} (h : r.builder.NamedBy P)
    {token : Token} (htoken : token.NamedBy P) : (r.apply token).builder.NamedBy P := by
  have happlied := h.apply hP htoken
  cases token with
  | _ => exact happlied

theorem Scan.ReadFrom.namedBy {piece : Scan} {s : List Char} (h : piece.ReadFrom s)
    (hs : ∀ name, WritesTag name s → P name) : ∀ token ∈ piece.tokens, token.NamedBy P := by
  intro token htoken
  cases token with
  | startTag tag => exact hs tag.name (h.startTags tag htoken)
  | _ => trivial

/-- **The elements built from a text are named by the start tags written in it.** -/
theorem Reading.run_namedBy (hP : ClosedUnderRules P) (limit : Nat) {r : Reading}
    (h : r.builder.NamedBy P) {s : List Char} (hs : ∀ name, WritesTag name s → P name) :
    (Reading.run limit r s).builder.NamedBy P := by
  induction limit generalizing r s with
  | zero => exact h
  | succ limit ih =>
      cases s with
      | nil => exact h
      | cons c s =>
          have hpiece := scan_readFrom r.textMode r.element
            (r.builder.current.vocabulary != .html) (c :: s)
          refine ih ?_ fun name hname => hs name (hname.mono hpiece.rest)
          exact List.foldlRecOn (motive := fun r : Reading => r.builder.NamedBy P) _ _ h
            fun r hr token htoken => Reading.apply_namedBy hP hr (hpiece.namedBy hs token htoken)

/-! ## The finished tree -/

/-- The name of an element satisfies `P`; a text has none. -/
def NamedNode (P : String → Prop) (node : Node) : Prop :=
  ∀ name ∈ node.name?, P name

theorem prependNode_named {node : Node} {rest : List Node} (hnode : ∀ n ∈ node.nodes, NamedNode P n)
    (hrest : ∀ n ∈ nodesIn rest, NamedNode P n) :
    ∀ n ∈ nodesIn (prependNode node rest), NamedNode P n := by
  unfold prependNode
  split
  next a b rest =>
    rw [forall_nodesIn_cons] at hrest ⊢
    refine ⟨?_, hrest.2⟩
    simp [Node.nodes, NamedNode, Node.name?]
  next => exact forall_nodesIn_cons.2 ⟨hnode, hrest⟩

theorem fragmentOf_named {nodes : List DomNode}
    (h : ∀ node ∈ nodes, ∀ kept ∈ node.toNode?, ∀ n ∈ kept.nodes, NamedNode P n) :
    ∀ n ∈ nodesIn (fragmentOf nodes), NamedNode P n := by
  induction nodes with
  | nil => simp [fragmentOf, nodesIn]
  | cons node rest ih =>
      obtain ⟨hnode, hrest⟩ := List.forall_mem_cons.1 h
      unfold fragmentOf
      split
      next kept hkept => exact prependNode_named (hnode kept hkept) (ih hrest)
      next => exact ih hrest

theorem Arena.NamedBy.treeOf (hP : ClosedUnderRules P) {a : Arena} (h : a.NamedBy P) (depth : Nat)
    {id : NodeId} :
    ∀ node ∈ a.treeOf depth id, ∀ kept ∈ node.toNode?, ∀ n ∈ kept.nodes, NamedNode P n := by
  induction depth generalizing id with
  | zero => simp [Arena.treeOf]
  | succ depth ih =>
      intro node hnode kept hkept
      unfold Arena.treeOf at hnode
      split at hnode
      next => cases hnode
      next cell hcell =>
        have hkind := h id cell hcell
        split at hnode
        next content =>
          cases hnode
          cases hkept
          simp [Node.nodes, NamedNode, Node.name?]
        next name attributes heq =>
          cases hnode
          cases hkept
          rw [heq] at hkind
          refine List.forall_mem_cons.2 ⟨?_, fragmentOf_named fun child hchild => ?_⟩
          · rintro _ ⟨⟩
            exact hP.lower name hkind
          · obtain ⟨other, -, hother⟩ := List.mem_filterMap.1 hchild
            exact ih child hother
        next =>
          cases hnode
          cases hkept
        next => cases hnode

/-- The names that the elements of a source can have: those of its start tags and those that rules
    of parsing supply. -/
def CanName (source : String) (name : String) : Prop :=
  name ∈ impliedNames ∨ WritesTag name (sourceChars source)
    ∨ name = "img" ∧ WritesTag "image" (sourceChars source)

theorem canName_closedUnderRules (source : String) : ClosedUnderRules (CanName source) where
  implied := fun name hname => .inl hname
  image := by
    rintro (himplied | hwritten | ⟨heq, -⟩)
    · exact absurd himplied (by decide)
    · exact .inr (.inr ⟨rfl, hwritten⟩)
    · exact absurd heq (by decide)
  lower := by
    rintro name (himplied | hwritten | ⟨rfl, hwritten⟩)
    · have hlower : ∀ name ∈ impliedNames, lowerAscii name ∈ impliedNames := by decide
      exact .inl (hlower name himplied)
    · rw [lowerAscii_of_writesTag hwritten]
      exact .inr (.inl hwritten)
    · exact .inr (.inr ⟨by decide, hwritten⟩)

/-- **The elements of a fragment are named by the start tags of its source**, but for those that a
    rule of parsing supplies. -/
theorem parseFragment_named (source : String) :
    ∀ n ∈ nodesIn (parseFragment source), NamedNode (CanName source) n := by
  have hP := canName_closedUnderRules source
  have hempty : Builder.empty.NamedBy (CanName source) := by
    refine ⟨Arena.NamedBy.create ?_ (hP.implied "html" (by decide)), List.forall_mem_nil _⟩
    intro id cell hcell
    cases hcell
  refine fragmentOf_named fun node hnode => ?_
  obtain ⟨id, -, htree⟩ := List.mem_filterMap.1 hnode
  refine Arena.NamedBy.treeOf hP ?_ _ node htree
  exact (Reading.run_namedBy hP _ hempty fun name hname => .inr (.inl hname)).finish.1

end HtmlToLatex.Html
