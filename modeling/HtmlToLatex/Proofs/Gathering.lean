import HtmlToLatex.Proofs.Conversion
import HtmlToLatex.Proofs.OutputLaw

set_option autoImplicit false

/-! # Gathering along a walk

What is gathered from a forest in document order, such as the texts that are shown in it, is related
to the output by a law if the law holds at each node by itself. In lines the law may be a stronger
one than among blocks. The converters are walked through once here, for all laws and for every way
to gather: `convert_gathers`. -/

namespace HtmlToLatex

open Conversion

/-! ## Ways to gather -/

/-- Whether the first row of a table has no cells. Such a table is not shown. -/
def opensWithoutCells (table : List Node) : Bool :=
  (tableRows table).head?.any fun row => (tagged [.td, .th] row).isEmpty

/-- Tables are entered from among blocks only. -/
theorem Place.inside_ne_table {place : Place} (h : place ≠ .block) (tag : Tag) :
    place.inside tag ≠ some .table := by
  revert h
  cases place <;> cases tag <;> decide

/-- What `f` gathers from the children of an element, if the walk gets to them. -/
def gatherBelow (f : Place → Node → List String) (place : Place) (tag : Tag)
    (children : List Node) : List String :=
  match place.inside tag with
  | some inner =>
    if inner = .table ∧ opensWithoutCells children then [] else children.flatMap (f inner)
  | none => []

section GatherBelow

variable {f : Place → Node → List String} {place : Place} {tag : Tag} {children : List Node}

/-- A table that is not shown is met among blocks only. -/
theorem gatherBelow_of_shows_eq_false (h : place.shows = false) :
    gatherBelow f place tag children =
      match place.inside tag with
      | some inner => children.flatMap (f inner)
      | none => [] := by
  have hblock : place ≠ .block := by
    rintro rfl
    cases h
  have htable := Place.inside_ne_table hblock tag
  unfold gatherBelow
  cases hinside : place.inside tag with
  | none => rfl
  | some inner =>
      rw [hinside] at htable
      exact if_neg fun h => htable (congrArg some h.1)

theorem gatherBelow_line :
    gatherBelow f .line tag children =
      if tag = .br ∨ tag = .img then [] else children.flatMap (f .line) := by
  by_cases h : tag = .br ∨ tag = .img <;> simp [gatherBelow, Place.inside, h]

theorem gatherBelow_block_of_inline (h : tag.blockRole = .inline) :
    gatherBelow f .block tag children = gatherBelow f .line tag children := by
  unfold gatherBelow
  rw [Place.inside_block_of_inline h]

end GatherBelow

/-- A way to gather texts along a walk. Most blocks have nothing to add to what is gathered from
    their children. -/
structure Gathering (f : Place → Node → List String) : Prop where
  inside : GathersInside f
  inline : ∀ node : Node, node.isBlock = false → f .block node = f .line node
  block : ∀ name attributes children, (Tag.ofName name).blockRole ≠ .inline →
    (Tag.ofName name).blockRole ≠ .image → (Tag.ofName name).blockRole ≠ .listing →
    f .block (.element name attributes children) =
      gatherBelow f .block (Tag.ofName name) children

/-! ## Lines -/

section Lines

variable {Q : List String → String → Prop} {setting : Setting} {g : Node → List String}

/-- What a law needs of a node that is set in a line: it holds for a text and its running text, and
    for an element if it holds for the children. -/
def Node.FollowsInLine (Q : List String → String → Prop) (setting : Setting)
    (g : Node → List String) : Node → Prop
  | .text content => Q (g (.text content)) (normalizeText setting.options content)
  | .element name attributes children =>
    Yields (convertInlines setting children) (Q (children.flatMap g)) →
      Yields (convertInline setting (.element name attributes children))
        (Q (g (.element name attributes children)))

mutual

theorem convertInline_gathers (law : LineLaw Q) :
    ∀ node : Node, (∀ n ∈ node.nodes, n.FollowsInLine Q setting g) →
      Yields (convertInline setting node) (Q (g node))
  | .text content, h => by
      unfold convertInline
      exact Yields.pure (h _ (mem_nodes_self _))
  | .element name attributes children, h =>
      (h _ (mem_nodes_self _)) (convertInlines_gathers law children (forall_nodesIn_children h))

theorem convertInlines_gathers (law : LineLaw Q) :
    ∀ nodes : List Node, (∀ n ∈ nodesIn nodes, n.FollowsInLine Q setting g) →
      Yields (convertInlines setting nodes) (Q (nodes.flatMap g))
  | [], _ => by
      unfold convertInlines
      exact Yields.pure law.empty
  | node :: rest, h => by
      rw [forall_nodesIn_cons] at h
      unfold convertInlines
      rw [List.flatMap_cons]
      exact (convertInline_gathers law node h.1).bind fun shown hshown =>
        (convertInlines_gathers law rest h.2).map fun text htext => law.append hshown htext

end

end Lines

/-! ## Two laws -/

/-- A law of blocks together with a law of lines that is at least as strong. -/
structure WalkLaw (Q P : List String → String → Prop) : Prop where
  line : LineLaw Q
  block : BlockLaw P
  of_line : ∀ {a t}, Q a t → P a t

/-- A law of blocks may be its own law of lines. -/
theorem BlockLaw.walk {P : List String → String → Prop} (law : BlockLaw P) : WalkLaw P P :=
  ⟨law.toLineLaw, law, id⟩

/-- What two laws need of a node. The law of lines holds for a text and its running text, and for an
element in a line if it holds for the children. The law of blocks holds for an image and for a
listing. -/
structure Node.Follows (Q P : List String → String → Prop) (setting : Setting)
    (f : Place → Node → List String) (node : Node) : Prop where
  inLine : node.FollowsInLine Q setting (f .line)
  image : node.tag? = some .img → Yields (convertImage setting node.attributes) fun image =>
    Rendered P (f .block node) image.toList
  listing : node.tag? = some .code → ∀ t, Q (node.children.flatMap (f .line)) t →
    P (f .block node) (Latex.listing t)

variable {Q P : List String → String → Prop} {setting : Setting} {f : Place → Node → List String}
  (law : WalkLaw Q P) (hf : Gathering f)

include law hf

/-! ## Tables -/

/-- A row has a text for each of its cells. -/
theorem convertCells_gathers {row : List Node} (h : ∀ n ∈ nodesIn row, n.Follows Q P setting f) :
    Yields (convertCells setting row) fun cells =>
      Rendered P (row.flatMap (f .row)) cells ∧
        cells.isEmpty = (tagged [.td, .th] row).isEmpty := by
  have hcells : Yields (convertCells setting row)
      (List.Forall₂ (fun cell t => P (cell.children.flatMap (f .line)) t)
        (tagged [.td, .th] row)) := by
    refine Yields.mapM _ fun cell hcell => ?_
    have hmem := (List.mem_filter.1 hcell).1
    have hbelow := forall_nodesIn_children (forall_nodes_of_mem h hmem)
    exact (convertInlines_gathers law.line _ fun n hn => (hbelow n hn).inLine).map
      fun t ht => law.block.trim (law.of_line ht)
  intro w
  have hw := hcells w
  -- All that a row has is in its cells; nothing else in it is entered.
  constructor
  · rw [hf.inside.flatMap_row, List.flatMap_def]
    exact .of_forall₂ (List.forall₂_map_left_iff.2 hw)
  · rw [Bool.eq_iff_iff, List.isEmpty_iff_length_eq_zero, List.isEmpty_iff_length_eq_zero,
      hw.length_eq]

theorem convertTable_gathers {table : List Node}
    (h : ∀ n ∈ nodesIn table, n.Follows Q P setting f) :
    Yields (convertTable setting table) fun shown =>
      Rendered P (if opensWithoutCells table then [] else table.flatMap (f .table))
        shown.toList := by
  refine (Yields.mapM _ fun row hrow =>
    convertCells_gathers law hf (forall_nodesIn_tableRows h hrow)).map fun rows hrows => ?_
  have hopens : rows.head?.any List.isEmpty = opensWithoutCells table := by
    unfold opensWithoutCells
    generalize tableRows table = trs at hrows
    cases hrows with
    | nil => rfl
    | cons hfirst hrest => exact hfirst.2
  rw [hf.inside.flatMap_table, List.flatMap_def, ← hopens]
  exact law.block.tableOf? (List.forall₂_map_left_iff.2 (hrows.imp fun _ _ hrow => hrow.1))

/-! ## Blocks -/

omit law hf in
/-- The run that is set before a block is trimmed. -/
theorem BlockLaw.trimRun (law : BlockLaw P) {a : List String} {run : Option String}
    (h : Rendered P a run.toList) : Rendered P a (run.map HtmlToLatex.trim).toList := by
  rw [Option.toList_map]
  exact h.map law.trim

mutual

theorem convertBlock_gathers :
    ∀ node : Node, (∀ n ∈ node.nodes, n.Follows Q P setting f) →
      Yields (convertBlock setting node) fun block =>
        Rendered P (f .block node) block.toList
  | .text content, h => by
      unfold convertBlock
      rw [hf.inline _ rfl]
      have htext := (h _ (mem_nodes_self _)).inLine
      exact Yields.pure (.single (law.block.trim (law.of_line htext)))
  | .element name attributes children, h => by
      have hbelow := forall_nodesIn_children h
      have hline := convertInlines_gathers law.line children fun n hn => (hbelow n hn).inLine
      obtain ⟨-, himage, hlisting⟩ := h _ (mem_nodes_self _)
      have hblock := hf.block name attributes children
      rw [convertBlock_element]
      refine Yields.after ?_ _
      cases hrole : (Tag.ofName name).blockRole
      case inline =>
        rw [hf.inline _ (by simp [Node.isBlock, Tag.isBlock_eq, hrole])]
        exact (convertInline_gathers law.line _ fun n hn => (h n hn).inLine).map
          fun t ht => .single (law.block.trim (law.of_line ht))
      case image => exact himage (congrArg some (Tag.eq_img_of_blockRole hrole))
      case listing =>
        have hcode := congrArg some (Tag.eq_code_of_blockRole hrole)
        exact (hline.map fun t => hlisting hcode t).map fun t => .single
      all_goals
        rw [hblock (by simp [hrole]) (by simp [hrole]) (by simp [hrole])]
        simp only [gatherBelow, Place.inside, hrole, reduceCtorEq, false_and, true_and, if_false]
      case heading =>
        exact (hline.map fun t ht =>
          law.block.headingOf _ (law.block.trim (law.of_line ht))).map fun t => .single
      case paragraph =>
        exact (hline.map fun t ht =>
          law.block.paragraphOf setting.options (law.block.trim (law.of_line ht))).map
          fun t => .single
      case list =>
        exact (convertItems_gathers children hbelow).map fun items => law.block.listOf? _
      case table => exact convertTable_gathers law hf hbelow
      case container =>
        exact (convertBlocksAfter_gathers .nil children hbelow).map fun blocks hblocks =>
          .single (law.block.joinBlocks hblocks)
      case rule => exact Yields.pure (.single law.block.rule)

theorem convertBlocksAfter_gathers {a : List String} {run : Option String}
    (hrun : Rendered P a run.toList) :
    ∀ nodes : List Node, (∀ n ∈ nodesIn nodes, n.Follows Q P setting f) →
      Yields (convertBlocksAfter setting run nodes)
        (Rendered P (a ++ nodes.flatMap (f .block)))
  | [], _ => by
      unfold convertBlocksAfter
      rw [List.flatMap_nil, List.append_nil]
      exact Yields.pure (law.block.trimRun hrun)
  | node :: rest, h => by
      rw [forall_nodesIn_cons] at h
      unfold convertBlocksAfter
      rw [List.flatMap_cons, ← List.append_assoc]
      split
      · refine (convertBlock_gathers node h.1).bind fun block hblock => ?_
        refine (convertBlocksAfter_gathers .nil rest h.2).map fun blocks hblocks => ?_
        exact ((law.block.trimRun hrun).append hblock).append hblocks
      next hinline =>
        -- The run goes on, so what it shows so far is kept in front.
        refine (convertInline_gathers law.line node fun n hn => (h.1 n hn).inLine).bind
          fun shown hshown => ?_
        have hgrown := law.block.append (law.block.getD hrun) (law.of_line hshown)
        rw [hf.inline node (by simpa using hinline)]
        exact convertBlocksAfter_gathers (.single hgrown) rest h.2

theorem convertItems_gathers :
    ∀ nodes : List Node, (∀ n ∈ nodesIn nodes, n.Follows Q P setting f) →
      Yields (convertItems setting nodes) (Rendered P (nodes.flatMap (f .list)))
  | [], _ => by
      unfold convertItems
      exact Yields.pure .nil
  | .text content :: rest, h => by
      rw [forall_nodesIn_cons] at h
      unfold convertItems
      rw [List.flatMap_cons, hf.inside .list _ rfl]
      exact convertItems_gathers rest h.2
  | .element name attributes children :: rest, h => by
      rw [forall_nodesIn_cons] at h
      have hitems := convertItems_gathers rest h.2
      have hbelow := forall_nodesIn_children h.1
      unfold convertItems
      rw [List.flatMap_cons, hf.inside .list _ rfl]
      by_cases hli : Tag.ofName name = .li
      · simp only [hli, if_true, Node.tag?, Node.children, Option.bind_some, Place.inside]
        exact (convertBlocksAfter_gathers .nil children hbelow).bind fun blocks hblocks =>
          hitems.map fun items => .cons (law.block.item (law.block.joinBlocks hblocks))
      · simpa [hli, Node.tag?, Place.inside] using hitems

end

/-- **A law holds between what is gathered from a forest and the output,** with or without a
document around it, if it holds at each node and for the texts of the options. -/
theorem convert_gathers {nodes : List Node} (h : ∀ n ∈ nodesIn nodes, n.Follows Q P setting f)
    (hoptions : ∀ text ∈ setting.options.texts, P [] text) :
    Yields (convert setting nodes) (P (nodes.flatMap (f .block))) :=
  (convertBlocksAfter_gathers law hf .nil nodes h).map fun _ hblocks =>
    law.block.wrapDocument hoptions (law.block.joinBlocks hblocks)

theorem convertNodes_gathers {nodes : List Node}
    (h : ∀ n ∈ nodesIn nodes, n.Follows Q P setting f) :
    Yields (convertNodes setting nodes) (P (nodes.flatMap (f .block))) :=
  (convertBlocksAfter_gathers law hf .nil nodes h).map fun _ => law.block.joinBlocks

end HtmlToLatex
