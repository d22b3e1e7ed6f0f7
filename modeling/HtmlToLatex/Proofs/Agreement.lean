import HtmlToLatex.Proofs.Conversion
import HtmlToLatex.Proofs.Forest

set_option autoImplicit false

/-! # Two walks over one forest

`convert_agree` compares the conversions of one forest under two settings. If the settings treat
each single node alike, `AlikeAt`, the texts are the same, and a relation between the worlds that
the single steps keep is kept by the whole walk. -/

namespace HtmlToLatex

open Conversion

/-- Two settings treat a node alike, as far as it is shown by itself: texts, line breaks and images
    look the same, and the images keep a relation between the worlds. For a paragraph this is about
    what is done with the finished text. -/
structure AlikeAt (R : World → World → Prop) (s s' : Setting) (node : Node) : Prop where
  text : ∀ content, node = .text content →
    normalizeText s.options content = normalizeText s'.options content
  lineBreak : node.tag? = some .br → lineBreak s.options = lineBreak s'.options
  image : ∀ name attributes children, node = .element name attributes children →
    node.tag? = some .img →
    Agree R (convertImage s attributes) (convertImage s' attributes)
  paragraph : node.tag? = some .p → ∀ w,
    let text := trim ((convertInlines s node.children).run w).1
    paragraphOf s.options text = paragraphOf s'.options text

variable {R : World → World → Prop} {s s' : Setting}

/-- The messages of a walk keep a relation between the worlds: that about an anchor that leads
    nowhere, and what is traced about blocks. -/
structure KeptByMessages (R : World → World → Prop) : Prop where
  anchor : Agree R (logAll [bareAnchorMessage]) (logAll [bareAnchorMessage])
  block : ∀ name, Agree R (trace (blockMessage name)) (trace (blockMessage name))

theorem keptByMessages_eq : KeptByMessages (· = ·) :=
  ⟨.of_eq rfl, fun _ => .of_eq rfl⟩

theorem keptByMessages_true : KeptByMessages fun _ _ => True :=
  ⟨fun _ _ _ => ⟨rfl, trivial⟩, fun _ _ _ _ => ⟨rfl, trivial⟩⟩

theorem styledText_agree (hlog : KeptByMessages R) (tag : Tag) (attributes : List Attribute)
    (text : String) :
    Agree R (styledText tag attributes text) (styledText tag attributes text) := by
  rw [styledText_eq]
  split
  · exact hlog.anchor.map _
  · exact Agree.pure _

/-! ## Lines -/

mutual

theorem convertInline_agree (hlog : KeptByMessages R) :
    ∀ node, (∀ n ∈ node.nodes, AlikeAt R s s' n) →
      Agree R (convertInline s node) (convertInline s' node)
  | .text content, h => by
      unfold convertInline
      rw [(h _ (mem_nodes_self _)).text content rfl]
      exact Agree.pure _
  | .element name attributes children, h => by
      have hself := h _ (mem_nodes_self _)
      have hbelow := forall_nodesIn_children h
      rw [convertInline_element, convertInline_element]
      split
      next hbr =>
        rw [hself.lineBreak (by simp [Node.tag?, hbr])]
        exact Agree.pure _
      split
      next himg =>
        exact (hself.image name attributes children rfl (by simp [Node.tag?, himg])).map _
      split
      · exact Agree.pure _
      · exact (convertInlines_agree hlog children hbelow).bind (styledText_agree hlog _ attributes)

theorem convertInlines_agree (hlog : KeptByMessages R) :
    ∀ nodes, (∀ n ∈ nodesIn nodes, AlikeAt R s s' n) →
      Agree R (convertInlines s nodes) (convertInlines s' nodes)
  | [], _ => by
      unfold convertInlines
      exact Agree.pure _
  | node :: rest, h => by
      rw [forall_nodesIn_cons] at h
      unfold convertInlines
      exact (convertInline_agree hlog node h.1).bind fun shown =>
        (convertInlines_agree hlog rest h.2).map _

end

/-! ## Tables -/

theorem convertTable_agree (hlog : KeptByMessages R) {table : List Node}
    (h : ∀ n ∈ nodesIn table, AlikeAt R s s' n) :
    Agree R (convertTable s table) (convertTable s' table) := by
  refine (Agree.mapM _ fun row hrow => ?_).map tableOf?
  have hcells := forall_nodesIn_tableRows h hrow
  refine Agree.mapM _ fun cell hcell => ?_
  have hmem := (List.mem_filter.1 hcell).1
  exact (convertInlines_agree hlog _
    (forall_nodesIn_children (forall_nodes_of_mem hcells hmem))).map trim

/-! ## Blocks -/

/-- A paragraph is finished alike if its text is. -/
theorem convertParagraph_agree {children : List Node}
    (h : Agree R (convertInlines s children) (convertInlines s' children))
    (hfinish : ∀ w, let text := trim ((convertInlines s children).run w).1
      paragraphOf s.options text = paragraphOf s'.options text) :
    Agree R (convertParagraph s children) (convertParagraph s' children) := by
  intro w w' hw
  obtain ⟨hval, hworld⟩ := h w w' hw
  refine ⟨?_, hworld⟩
  simp only [convertParagraph, run_bind]
  rw [← hval]
  exact hfinish w

mutual

theorem convertBlock_agree (hlog : KeptByMessages R) :
    ∀ node, (∀ n ∈ node.nodes, AlikeAt R s s' n) →
      Agree R (convertBlock s node) (convertBlock s' node)
  | .text content, h => by
      unfold convertBlock
      rw [(h _ (mem_nodes_self _)).text content rfl]
      exact Agree.pure _
  | .element name attributes children, h => by
      have hself := h _ (mem_nodes_self _)
      have hbelow := forall_nodesIn_children h
      have hline := convertInlines_agree hlog children hbelow
      have hinline := convertInline_agree hlog _ h
      rw [convertBlock_element, convertBlock_element]
      refine (hlog.block name).bind fun _ => ?_
      cases hrole : (Tag.ofName name).blockRole
      case heading => exact (hline.map _).map some
      case paragraph =>
        have hp := Tag.eq_p_of_blockRole hrole
        exact (convertParagraph_agree hline (hself.paragraph (by simp [Node.tag?, hp]))).map some
      case listing => exact (hline.map _).map some
      case list => exact (convertItems_agree hlog children hbelow).map _
      case table => exact convertTable_agree hlog hbelow
      case container =>
        exact (convertBlocksAfter_agree hlog none children hbelow).map fun blocks =>
          some (joinBlocks blocks)
      case image =>
        have himg := Tag.eq_img_of_blockRole hrole
        exact hself.image name attributes children rfl (by simp [Node.tag?, himg])
      case rule => exact Agree.pure _
      case inline => exact hinline.map fun text => some (trim text)

theorem convertBlocksAfter_agree (hlog : KeptByMessages R) (run : Option String) :
    ∀ nodes, (∀ n ∈ nodesIn nodes, AlikeAt R s s' n) →
      Agree R (convertBlocksAfter s run nodes) (convertBlocksAfter s' run nodes)
  | [], _ => by
      unfold convertBlocksAfter
      exact Agree.pure _
  | node :: rest, h => by
      rw [forall_nodesIn_cons] at h
      unfold convertBlocksAfter
      split
      · exact (convertBlock_agree hlog node h.1).bind fun block =>
          (convertBlocksAfter_agree hlog none rest h.2).map _
      · exact (convertInline_agree hlog node h.1).bind fun shown =>
          convertBlocksAfter_agree hlog _ rest h.2

theorem convertItems_agree (hlog : KeptByMessages R) :
    ∀ nodes, (∀ n ∈ nodesIn nodes, AlikeAt R s s' n) →
      Agree R (convertItems s nodes) (convertItems s' nodes)
  | [], _ => by
      unfold convertItems
      exact Agree.pure _
  | .text content :: rest, h => by
      rw [forall_nodesIn_cons] at h
      unfold convertItems
      exact convertItems_agree hlog rest h.2
  | .element name attributes children :: rest, h => by
      rw [forall_nodesIn_cons] at h
      have hitems := convertItems_agree hlog rest h.2
      unfold convertItems
      split
      · exact (convertBlocksAfter_agree hlog none children (forall_nodesIn_children h.1)).bind
          fun blocks => hitems.map _
      · exact hitems

end

/-- **Settings that treat every node alike give one text.** -/
theorem convert_agree {nodes : List Node} (hlog : KeptByMessages R)
    (hwrap : wrapDocument s.options = wrapDocument s'.options)
    (h : ∀ n ∈ nodesIn nodes, AlikeAt R s s' n) :
    Agree R (convert s nodes) (convert s' nodes) := by
  unfold convert
  rw [hwrap]
  exact (convertBlocksAfter_agree hlog none nodes h).map _

end HtmlToLatex
