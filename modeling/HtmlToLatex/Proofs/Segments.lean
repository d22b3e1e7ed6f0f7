import Mathlib.Data.List.ReduceOption
import Mathlib.Data.List.SplitBy
import HtmlToLatex.Proofs.Conversion
import HtmlToLatex.Proofs.Forest

set_option autoImplicit false

/-! # Runs and blocks

Siblings walked as blocks fall into segments: blocks, and the maximal runs of nodes between them.
`convertBlocks_append` says where a walk may be cut in two, effects included, and `convertBlocks_eq`
says that it converts one segment after the other. A walk that keeps the nodes of a run back until
the run ends, `walkSiblings`, does the same. -/

namespace HtmlToLatex

variable (setting : Setting)

/-! ## Runs -/

/-- Nodes that are no blocks only lengthen the run that was begun. -/
theorem convertBlocksAfter_run (text : String) {run : List Node}
    (hrun : ∀ node ∈ run, node.isBlock = false) (rest : List Node) :
    convertBlocksAfter setting (some text) (run ++ rest) =
      convertInlines setting run >>= fun shown =>
        convertBlocksAfter setting (some (text ++ shown)) rest := by
  induction run generalizing text with
  | nil => simp [convertInlines]
  | cons node run ih =>
      rw [List.forall_mem_cons] at hrun
      rw [List.cons_append, convertBlocksAfter, convertInlines]
      simp only [hrun.1, Bool.false_eq_true, if_false, bind_assoc, pure_bind, Option.getD_some,
        ih _ hrun.2, String.append_assoc]

/-- A run is set as one block. -/
theorem convertBlocks_run {run : List Node} (hne : run ≠ [])
    (hrun : ∀ node ∈ run, node.isBlock = false) :
    convertBlocks setting run = do return [trim (← convertInlines setting run)] := by
  cases run with
  | nil => contradiction
  | cons node rest =>
      rw [List.forall_mem_cons] at hrun
      have hrest := fun text => convertBlocksAfter_run setting text hrun.2 []
      simp only [List.append_nil, convertBlocksAfter] at hrest
      rw [convertBlocks, convertBlocksAfter, convertInlines]
      simp only [hrun.1, Bool.false_eq_true, if_false, bind_assoc, pure_bind, hrest,
        Option.getD_none, String.empty_append, Option.map_some, Option.toList_some]

/-! ## Where a walk may be cut -/

/-- There is no run that goes on from the end of some siblings into those after them. -/
def Parted (front back : List Node) : Prop :=
  front.getLast?.all Node.isBlock = true ∨ back.head?.all Node.isBlock = true

instance (front back : List Node) : Decidable (Parted front back) :=
  inferInstanceAs (Decidable (_ ∨ _))

/-- A block ends the run before it. -/
theorem convertBlocksAfter_append (run : Option String) (front : List Node) {back : List Node}
    (hback : back.head?.all Node.isBlock = true) :
    convertBlocksAfter setting run (front ++ back) = do
      let before ← convertBlocksAfter setting run front
      return before ++ (← convertBlocks setting back) := by
  unfold convertBlocks
  induction front generalizing run with
  | nil =>
      cases back with
      | nil => simp [convertBlocksAfter]
      | cons block rest =>
          have hblock : block.isBlock = true := by simpa using hback
          simp [convertBlocksAfter, hblock]
  | cons node rest ih =>
      rw [List.cons_append, convertBlocksAfter, convertBlocksAfter]
      split
      · simp only [ih, bind_assoc, pure_bind, List.append_assoc]
      · simp only [ih, bind_assoc]

theorem convertBlocks_nil : convertBlocks setting [] = pure [] := by
  rw [convertBlocks, convertBlocksAfter, Option.map_none, Option.toList_none]

theorem convertBlocks_cons {block : Node} (hblock : block.isBlock = true) (rest : List Node) :
    convertBlocks setting (block :: rest) = do
      let shown ← convertBlock setting block
      return shown.toList ++ (← convertBlocks setting rest) := by
  simp [convertBlocks, convertBlocksAfter, hblock]

/-- **A walk may be cut wherever no run is.** -/
theorem convertBlocks_append {front back : List Node} (hparted : Parted front back) :
    convertBlocks setting (front ++ back) = do
      let before ← convertBlocks setting front
      return before ++ (← convertBlocks setting back) := by
  rcases hparted with hfront | hback
  · cases hlast : front.getLast? with
    | none =>
        rw [List.getLast?_eq_none_iff] at hlast
        simp only [hlast, convertBlocks_nil, List.nil_append, pure_bind, bind_pure]
    | some block =>
        -- The block at the end stands between the run before it and the siblings after it.
        have hblock : block.isBlock = true := by simpa [hlast] using hfront
        obtain ⟨before, rfl⟩ := List.getLast?_eq_some_iff.1 hlast
        have hcut : ∀ rest, convertBlocks setting (before ++ block :: rest) = do
            let shown ← convertBlocks setting before
            return shown ++ (← convertBlocks setting (block :: rest)) :=
          fun rest => convertBlocksAfter_append setting none before (by simpa using hblock)
        rw [List.append_assoc, List.singleton_append, hcut, hcut]
        simp only [convertBlocks_cons _ hblock, convertBlocks_nil, bind_assoc, pure_bind,
          List.append_assoc, List.append_nil]
  · exact convertBlocksAfter_append setting none front hback

/-- A block cuts a walk in two. -/
theorem convertBlocks_block (front : List Node) {block : Node} (hblock : block.isBlock = true)
    (back : List Node) :
    convertBlocks setting (front ++ block :: back) = do
      let before ← convertBlocks setting front
      let shown ← convertBlock setting block
      let after ← convertBlocks setting back
      return before ++ shown.toList ++ after := by
  have hparted : Parted front (block :: back) := .inr hblock
  rw [convertBlocks_append setting hparted, convertBlocks_cons setting hblock]
  simp only [bind_assoc, pure_bind, List.append_assoc]

/-! ## Segments -/

/-- A block of its own, or a run. -/
def IsSegment (part : List Node) : Prop :=
  (∃ block : Node, block.isBlock = true ∧ part = [block]) ∨
    part ≠ [] ∧ ∀ node ∈ part, node.isBlock = false

/-- Blocks and maximal runs: no run goes on in the next part. -/
structure Segmentation (parts : List (List Node)) : Prop where
  isSegment : ∀ part ∈ parts, IsSegment part
  parted : parts.IsChain Parted

/-- Two neighbours in one run. -/
def sameRun (a b : Node) : Bool :=
  !a.isBlock && !b.isBlock

/-- Siblings cut into blocks and maximal runs. -/
def segments (nodes : List Node) : List (List Node) :=
  nodes.splitBy sameRun

theorem isSegment_of_isChain {part : List Node} (hne : part ≠ [])
    (hchain : part.IsChain fun a b => sameRun a b = true) : IsSegment part := by
  induction part with
  | nil => contradiction
  | cons node rest ih =>
      cases rest with
      | nil =>
          cases hnode : node.isBlock with
          | true => exact .inl ⟨node, hnode, rfl⟩
          | false => exact .inr ⟨hne, by simpa using hnode⟩
      | cons next rest =>
          rw [List.isChain_cons_cons, sameRun, Bool.and_eq_true, Bool.not_eq_true',
            Bool.not_eq_true'] at hchain
          obtain ⟨⟨hnode, hnext⟩, hrest⟩ := hchain
          right
          rcases ih (by simp) hrest with ⟨block, hblock, heq⟩ | ⟨-, hrun⟩
          · cases heq
            simp [hnext] at hblock
          · exact ⟨hne, List.forall_mem_cons.2 ⟨hnode, hrun⟩⟩

theorem segmentation_segments (nodes : List Node) : Segmentation (segments nodes) where
  isSegment part hpart :=
    isSegment_of_isChain (List.ne_nil_of_mem_splitBy hpart) (List.isChain_of_mem_splitBy hpart)
  parted := by
    refine (List.isChain_getLast_head_splitBy sameRun nodes).imp fun front back hborder => ?_
    obtain ⟨hfront, hback, h⟩ := hborder
    rw [sameRun, Bool.and_eq_false_iff, Bool.not_eq_false', Bool.not_eq_false'] at h
    refine h.imp ?_ ?_
    · simp [List.getLast?_eq_some_getLast hfront]
    · simp [List.head?_eq_some_head hback]

/-- Converts a segment. -/
def convertSegment (part : List Node) : Conversion (Option String) :=
  match part.find? Node.isBlock with
  | some block => convertBlock setting block
  | none => do return some (trim (← convertInlines setting part))

theorem convertBlocks_segment {part : List Node} (hpart : IsSegment part) :
    convertBlocks setting part = do return (← convertSegment setting part).toList := by
  unfold convertSegment
  rcases hpart with ⟨block, hblock, rfl⟩ | ⟨hne, hrun⟩
  · simp only [convertBlocks_cons setting hblock, convertBlocks_nil, List.find?_cons, hblock,
      pure_bind, List.append_nil]
  · have hnone : part.find? Node.isBlock = none :=
      List.find?_eq_none.2 fun node hnode => by simp [hrun node hnode]
    simp only [convertBlocks_run setting hne hrun, hnone, bind_assoc, pure_bind,
      Option.toList_some]

/-- Segments are converted one after the other. -/
theorem Segmentation.convertBlocks_flatten {parts : List (List Node)}
    (hparts : Segmentation parts) :
    convertBlocks setting parts.flatten = do
      return (← parts.mapM (convertSegment setting)).reduceOption := by
  induction parts with
  | nil =>
      simp only [List.flatten_nil, List.mapM_nil, pure_bind, convertBlocks_nil,
        List.reduceOption_nil]
  | cons first others ih =>
      obtain ⟨hsegment, hchain⟩ := hparts
      rw [List.forall_mem_cons] at hsegment
      have hothers := ih ⟨hsegment.2, hchain.tail⟩
      have hparted : Parted first others.flatten := by
        cases others with
        | nil => exact .inr rfl
        | cons second others =>
            have hsecond : second ≠ [] := by
              rcases (List.forall_mem_cons.1 hsegment.2).1 with ⟨block, -, rfl⟩ | ⟨hne, -⟩
              · simp
              · exact hne
            simpa [Parted, List.head?_append_of_ne_nil _ hsecond] using hchain.rel
      rw [List.flatten_cons, convertBlocks_append setting hparted, hothers,
        convertBlocks_segment setting hsegment.1, List.mapM_cons]
      simp only [bind_assoc, pure_bind]
      refine bind_congr fun shown => bind_congr fun rest => ?_
      cases shown with
      | none => rw [List.reduceOption_cons_of_none, Option.toList_none, List.nil_append]
      | some text => rw [List.reduceOption_cons_of_some, Option.toList_some, List.singleton_append]

/-- **A walk converts the segments of its siblings.** -/
theorem convertBlocks_eq (nodes : List Node) :
    convertBlocks setting nodes = do
      return (← (segments nodes).mapM (convertSegment setting)).reduceOption := by
  have hsegments := (segmentation_segments nodes).convertBlocks_flatten setting
  rwa [segments, List.flatten_splitBy] at hsegments

/-! ## The walk in two states -/

/-- What a walk that keeps runs back has met since the last block. -/
inductive WalkState where
  | emittingBlock
  | accumulatingInline (run : List Node) (hne : run ≠ [])
      (hrun : ∀ node ∈ run, node.isBlock = false)

namespace WalkState

/-- The nodes kept back. -/
def pending : WalkState → List Node
  | .emittingBlock => []
  | .accumulatingInline run .. => run

theorem isBlock_of_mem_pending {state : WalkState} :
    ∀ node ∈ state.pending, node.isBlock = false := by
  cases state with
  | emittingBlock => simp [pending]
  | accumulatingInline run hne hrun => exact hrun

/-- Keeps a node back. -/
def push (state : WalkState) (node : Node) (hnode : node.isBlock = false) : WalkState :=
  .accumulatingInline (state.pending ++ [node]) (by simp) (by
    intro other hother
    rcases List.mem_append.1 hother with h | h
    · exact isBlock_of_mem_pending other h
    · rwa [List.mem_singleton.1 h])

@[simp]
theorem pending_emittingBlock : emittingBlock.pending = [] := rfl

@[simp]
theorem pending_push (state : WalkState) (node : Node) (hnode : node.isBlock = false) :
    (state.push node hnode).pending = state.pending ++ [node] := rfl

/-- Sets the run that was kept back. -/
def flush (setting : Setting) : WalkState → Conversion (List String)
  | .emittingBlock => pure []
  | .accumulatingInline run .. => do return [trim (← convertInlines setting run)]

theorem flush_eq (state : WalkState) :
    state.flush setting = convertBlocks setting state.pending := by
  cases state with
  | emittingBlock => exact (convertBlocks_nil setting).symm
  | accumulatingInline run hne hrun => exact (convertBlocks_run setting hne hrun).symm

end WalkState

/-- One step of a walk, given the state and the blocks so far. A run is set before the effects of
    the block that ends it. -/
def walkSibling (setting : Setting) (walk : WalkState × List String) (node : Node) :
    Conversion (WalkState × List String) :=
  if hnode : node.isBlock then do
    let run ← walk.1.flush setting
    let block ← convertBlock setting node
    return (.emittingBlock, walk.2 ++ run ++ block.toList)
  else return (walk.1.push node (by simpa using hnode), walk.2)

/-- Walks siblings in two states. -/
def walkSiblings (setting : Setting) (nodes : List Node) : Conversion (List String) := do
  let walk ← nodes.foldlM (walkSibling setting) (.emittingBlock, [])
  return walk.2 ++ (← walk.1.flush setting)

/-- What comes out of a walk that has siblings left. -/
def walkRest (setting : Setting) (rest : List Node) (walk : WalkState × List String) :
    Conversion (List String) := do
  return walk.2 ++ (← convertBlocks setting (walk.1.pending ++ rest))

/-- One step does not change what comes out. -/
theorem walkSibling_rest (walk : WalkState × List String) (node : Node) (rest : List Node) :
    (walkSibling setting walk node >>= walkRest setting rest) =
      walkRest setting (node :: rest) walk := by
  obtain ⟨state, blocks⟩ := walk
  by_cases hnode : node.isBlock = true
  · have hparted : Parted state.pending (node :: rest) := .inr hnode
    simp only [walkSibling, walkRest, dif_pos hnode, convertBlocks_append setting hparted,
      convertBlocks_cons setting hnode, WalkState.flush_eq, WalkState.pending_emittingBlock,
      bind_assoc, pure_bind, List.append_assoc, List.nil_append]
  · simp only [walkSibling, walkRest, dif_neg hnode, WalkState.pending_push, pure_bind,
      List.append_assoc, List.singleton_append]

theorem foldlM_walkSibling (nodes : List Node) (walk : WalkState × List String) :
    (nodes.foldlM (walkSibling setting) walk >>= walkRest setting []) =
      walkRest setting nodes walk := by
  induction nodes generalizing walk with
  | nil => rw [List.foldlM_nil, pure_bind]
  | cons node rest ih =>
      rw [List.foldlM_cons, bind_assoc, ← walkSibling_rest]
      exact bind_congr fun next => ih next

/-- **A walk that keeps runs back does the same.** -/
theorem walkSiblings_eq (nodes : List Node) :
    walkSiblings setting nodes = convertBlocks setting nodes := by
  have hwalk := foldlM_walkSibling setting nodes (.emittingBlock, [])
  have hall : walkRest setting nodes (.emittingBlock, []) = convertBlocks setting nodes := by
    simp only [walkRest, WalkState.pending_emittingBlock, List.nil_append, bind_pure]
  rw [← hall, ← hwalk, walkSiblings]
  refine bind_congr fun walk => ?_
  rw [walkRest, List.append_nil, WalkState.flush_eq]

/-! ## The specification of a walk -/

/-- **A walk sets each maximal run and each block once, in order.** Without blocks there is the one
run, if any node at all. A block cuts a walk in two, with all effects: what comes before it is done
first, then the block, then what comes after it. The segments are all of the siblings, and a walk
that keeps the nodes of a run back until the next block is the same walk. -/
theorem convertBlocks_segmentation :
    convertBlocks setting [] = pure [] ∧
    (∀ run : List Node, run ≠ [] → (∀ node ∈ run, node.isBlock = false) →
      convertBlocks setting run = do return [trim (← convertInlines setting run)]) ∧
    (∀ (front : List Node) (block : Node) (back : List Node), block.isBlock = true →
      convertBlocks setting (front ++ [block] ++ back) = do
        let before ← convertBlocks setting front
        let shown ← convertBlock setting block
        let after ← convertBlocks setting back
        return before ++ shown.toList ++ after) ∧
    ∀ nodes : List Node,
      (segments nodes).flatten = nodes ∧ Segmentation (segments nodes) ∧
      (convertBlocks setting nodes = do
        return (← (segments nodes).mapM (convertSegment setting)).reduceOption) ∧
      convertBlocks setting nodes = walkSiblings setting nodes := by
  refine ⟨convertBlocks_nil setting, fun run => convertBlocks_run setting, ?_, fun nodes => ?_⟩
  · intro front block back hblock
    rw [List.append_assoc]
    exact convertBlocks_block setting front hblock back
  · exact ⟨List.flatten_splitBy sameRun nodes, segmentation_segments nodes,
      convertBlocks_eq setting nodes, (walkSiblings_eq setting nodes).symm⟩

/-- A paragraph cuts a walk in two; the texts around it are runs of their own. -/
theorem convertBlocks_segmentation_paragraph :
    let setting : Setting := { ids := fun _ => "id" }
    let front : List Node := [.text "a ", .element "b" [] [.text "b"]]
    let block : Node := .element "p" [] [.text "c"]
    let back : List Node := [.text " d"]
    ((convertBlocks setting front).run {}).1 = ["a \\textbf\x7bb\x7d"] ∧
      ((convertBlocks setting (front ++ [block] ++ back)).run {}).1 =
        ["a \\textbf\x7bb\x7d", "c", "d"] := by
  intro setting front block back
  obtain ⟨-, hrun, hblock, -⟩ := convertBlocks_segmentation setting
  rw [hblock front block back (by decide), hrun front (by decide) (by decide)]
  decide +kernel

end HtmlToLatex
