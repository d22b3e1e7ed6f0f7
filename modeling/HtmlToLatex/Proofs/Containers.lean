import Mathlib.Logic.Relation
import HtmlToLatex.Proofs.Segments
import HtmlToLatex.Proofs.Tracing

set_option autoImplicit false

/-! # Containers are seen through

A container shows what its children would show in its place, as long as no run of text grows
together with another one when the container goes away. Blocks are joined with an empty line
between them, and a joined group of blocks counts as one block: joining is associative, with empty
blocks as units. All effects are the same, too, but for the message that traces the container,
`convertNodes_containers`. -/

namespace HtmlToLatex

open Conversion

/-! ## Joining blocks -/

/-- The blocks that show. -/
def filledBlocks (blocks : List String) : List String :=
  blocks.filter (· ≠ "")

@[simp]
theorem filledBlocks_append (front back : List String) :
    filledBlocks (front ++ back) = filledBlocks front ++ filledBlocks back :=
  List.filter_append ..

theorem joinBlocks_eq (blocks : List String) :
    joinBlocks blocks = "\n\n".intercalate (filledBlocks blocks) := rfl

/-- Only the blocks that show count. -/
theorem joinBlocks_congr {blocks blocks' : List String}
    (h : filledBlocks blocks = filledBlocks blocks') : joinBlocks blocks = joinBlocks blocks' := by
  rw [joinBlocks_eq, joinBlocks_eq, h]

theorem intercalate_ne_empty {sep t : String} (ht : t ≠ "") (ts : List String) :
    sep.intercalate (t :: ts) ≠ "" := by
  cases ts with
  | nil => simpa using ht
  | cons u us =>
      rw [String.intercalate_cons_cons]
      simp [ht]

/-- Texts that are joined first are joined all the same. -/
theorem intercalate_intercalate {sep : String} {inner : List String} (hinner : inner ≠ [])
    (front back : List String) :
    sep.intercalate (front ++ sep.intercalate inner :: back) =
      sep.intercalate (front ++ inner ++ back) := by
  have hhead : sep.intercalate (sep.intercalate inner :: back) =
      sep.intercalate (inner ++ back) := by
    cases back with
    | nil => simp
    | cons t ts =>
        rw [String.intercalate_cons_cons, String.intercalate_append_of_ne_nil hinner (by simp)]
  cases front with
  | nil => exact hhead
  | cons t ts =>
      rw [List.append_assoc, String.intercalate_append_of_ne_nil (by simp) (by simp),
        String.intercalate_append_of_ne_nil (by simp) (by simp [hinner]), hhead]

/-- **A joined group of blocks counts as one block.** -/
theorem joinBlocks_joinBlocks (front inner back : List String) :
    joinBlocks (front ++ joinBlocks inner :: back) = joinBlocks (front ++ inner ++ back) := by
  simp only [joinBlocks_eq, filledBlocks_append]
  cases hinner : filledBlocks inner with
  | nil => simp [filledBlocks]
  | cons t ts =>
      have ht : t ≠ "" := by
        have hmem : t ∈ filledBlocks inner := by simp [hinner]
        simpa using (List.mem_filter.1 hmem).2
      have hfilled : filledBlocks ("\n\n".intercalate (t :: ts) :: back) =
          "\n\n".intercalate (t :: ts) :: filledBlocks back :=
        List.filter_cons_of_pos (by simpa using intercalate_ne_empty ht ts)
      rw [hfilled, intercalate_intercalate (by simp)]

/-! ## Containers -/

variable (setting : Setting)

theorem convertBlock_container {name : String} (hname : (Tag.ofName name).isContainer = true)
    (attributes : List Attribute) (children : List Node) :
    convertBlock setting (.element name attributes children) = do
      Conversion.trace (blockMessage name)
      return some (joinBlocks (← convertBlocks setting children)) := by
  have hrole : (Tag.ofName name).blockRole = .container := by
    revert hname
    cases Tag.ofName name <;> decide
  rw [convertBlock_element, hrole]

/-- One container among siblings gives way to its children. No two runs grow together. -/
inductive Unwraps : List Node → List Node → Prop where
  | container {name : String} {attributes : List Attribute} {front children back : List Node}
      (hname : (Tag.ofName name).isContainer = true)
      (hbefore : Parted front (children ++ back)) (hafter : Parted (front ++ children) back) :
      Unwraps (front ++ [.element name attributes children] ++ back) (front ++ children ++ back)

/-- Where no two runs grow together, what is cut off can be walked by itself. -/
theorem convertBlocks_between {front inner back : List Node}
    (hbefore : Parted front (inner ++ back)) (hafter : Parted (front ++ inner) back) :
    convertBlocks setting (front ++ inner ++ back) = do
      let before ← convertBlocks setting front
      let shown ← convertBlocks setting inner
      let after ← convertBlocks setting back
      return before ++ shown ++ after := by
  have hinner : Parted front inner := by
    cases inner with
    | nil => exact .inr rfl
    | cons node rest => exact hbefore
  rw [convertBlocks_append setting hafter, convertBlocks_append setting hinner]
  simp only [bind_assoc, pure_bind]

/-- The children of a container are walked in its place after the container is traced. -/
theorem convertNodes_container {name : String} (hname : (Tag.ofName name).isContainer = true)
    (attributes : List Attribute) (front children back : List Node) :
    convertNodes setting (front ++ [.element name attributes children] ++ back) = do
      let before ← convertBlocks setting front
      Conversion.trace (blockMessage name)
      let shown ← convertBlocks setting children
      let after ← convertBlocks setting back
      return joinBlocks (before ++ shown ++ after) := by
  have hblock : Node.isBlock (.element name attributes children) = true :=
    Tag.isBlock_of_isContainer hname
  rw [convertNodes, List.append_assoc, List.singleton_append,
    convertBlocks_block setting front hblock]
  simp only [convertBlock_container setting hname, bind_assoc, pure_bind, Option.toList_some,
    List.append_assoc, List.singleton_append, joinBlocks_joinBlocks]

/-- Without the container the text and the effects are the same. -/
theorem convertNodes_unwraps {nodes flat : List Node} (h : Unwraps nodes flat) :
    Agree SameButTrace (convertNodes setting nodes) (convertNodes setting flat) := by
  cases h with
  | @container name attributes front children back hname hbefore hafter =>
      rw [convertNodes_container setting hname, convertNodes,
        convertBlocks_between setting hbefore hafter]
      simp only [bind_assoc, pure_bind]
      refine (convertBlocks_agree_traced setting front).bind fun before => ?_
      have hrest := (convertBlocks_agree_traced setting children).bind fun shown =>
        (convertBlocks_agree_traced setting back).map fun after =>
          joinBlocks (before ++ shown ++ after)
      exact hrest.traced (blockMessage name)

theorem tracedIn_among {name : String} (hname : (Tag.ofName name).isContainer = true)
    (attributes : List Attribute) (front children back : List Node) :
    tracedIn (front ++ [.element name attributes children] ++ back) =
      tracedIn front ++ blockMessage name :: tracedIn (children ++ back) := by
  rw [List.append_assoc, tracedIn_append, tracedIn_append [_], tracedIn_container hname,
    tracedIn_append children, List.cons_append]

/-- What is traced besides some other messages, which stay in their order, is about containers. -/
def TracesContainers (traced others : List String) : Prop :=
  others.Sublist traced ∧ ∃ containers : List String,
    (∀ name ∈ containers, (Tag.ofName name).isContainer = true) ∧
      traced.Perm (containers.map blockMessage ++ others)

namespace TracesContainers

variable {traced others rest : List String}

theorem refl (traced : List String) : TracesContainers traced traced :=
  ⟨.refl traced, [], nofun, .refl traced⟩

theorem trans (h : TracesContainers traced others) (h' : TracesContainers others rest) :
    TracesContainers traced rest := by
  obtain ⟨hsub, containers, hcontainers, hperm⟩ := h
  obtain ⟨hsub', containers', hcontainers', hperm'⟩ := h'
  refine ⟨hsub'.trans hsub, containers ++ containers', ?_, ?_⟩
  · exact List.forall_mem_append.2 ⟨hcontainers, hcontainers'⟩
  · rw [List.map_append, List.append_assoc]
    exact hperm.trans (hperm'.append_left _)

theorem append_left (front : List String) (h : TracesContainers traced others) :
    TracesContainers (front ++ traced) (front ++ others) := by
  obtain ⟨hsub, containers, hcontainers, hperm⟩ := h
  refine ⟨hsub.append_left front, containers, hcontainers, ?_⟩
  refine (hperm.append_left front).trans ?_
  rw [← List.append_assoc, ← List.append_assoc]
  exact List.perm_append_comm.append_right others

end TracesContainers

theorem tracesContainers_unwraps {nodes flat : List Node} (h : Unwraps nodes flat) :
    TracesContainers (tracedIn nodes) (tracedIn flat) := by
  cases h with
  | @container name attributes front children back hname =>
      rw [tracedIn_among hname, List.append_assoc, tracedIn_append front]
      refine .append_left _ ⟨List.sublist_cons_self .., [name], ?_, .refl _⟩
      simpa using hname

theorem convertNodes_flattens {nodes flat : List Node}
    (h : Relation.ReflTransGen Unwraps nodes flat) (w : World) :
    ((convertNodes setting nodes).run w).1 = ((convertNodes setting flat).run w).1 ∧
      SameButTrace ((convertNodes setting nodes).run w).2 ((convertNodes setting flat).run w).2 ∧
      TracesContainers (tracedIn nodes) (tracedIn flat) := by
  induction h with
  | refl => exact ⟨rfl, .refl _, .refl _⟩
  | tail _ hstep ih =>
      obtain ⟨htext, hworld, htraced⟩ := ih
      obtain ⟨htext', hworld'⟩ := convertNodes_unwraps setting hstep w w (.refl w)
      exact ⟨htext.trans htext', hworld.trans hworld',
        htraced.trans (tracesContainers_unwraps hstep)⟩

/-- **Containers are transparent.** A container among siblings and its children in its place give
the same text with the same effects, if no two runs grow together; only the container is traced as
well, before its children. Hence a fragment may be flattened by unwrapping containers one after the
other, however deep they are nested, as long as no step lets two runs grow together. -/
theorem convertNodes_containers :
    (∀ (name : String) (attributes : List Attribute) (front children back : List Node) (w : World),
      (Tag.ofName name).isContainer = true →
      Parted front (children ++ back) → Parted (front ++ children) back →
      let container : Node := .element name attributes children
      let kept := (convertNodes setting (front ++ [container] ++ back)).run w
      let flat := (convertNodes setting (front ++ children ++ back)).run w
      kept.1 = flat.1 ∧ SameButTrace kept.2 flat.2 ∧
        kept.2.trace =
          w.trace ++ (tracedIn front ++ blockMessage name :: tracedIn (children ++ back)) ∧
        flat.2.trace = w.trace ++ (tracedIn front ++ tracedIn (children ++ back))) ∧
    ∀ (nodes nodes' : List Node) (w : World), Relation.ReflTransGen Unwraps nodes nodes' →
      let kept := (convertNodes setting nodes).run w
      let flat := (convertNodes setting nodes').run w
      kept.1 = flat.1 ∧ SameButTrace kept.2 flat.2 ∧
        TracesContainers kept.2.trace flat.2.trace := by
  constructor
  · intro name attributes front children back w hname hbefore hafter container kept flat
    have hunwraps := @Unwraps.container name attributes front children back hname hbefore hafter
    obtain ⟨htext, hworld⟩ := convertNodes_unwraps setting hunwraps w w (.refl w)
    refine ⟨htext, hworld, ?_, ?_⟩
    · rw [← tracedIn_among hname attributes]
      exact trace_convertNodes setting _ w
    · rw [← tracedIn_append, ← List.append_assoc]
      exact trace_convertNodes setting _ w
  · intro nodes nodes' w h kept flat
    obtain ⟨htext, hworld, htraced⟩ := convertNodes_flattens setting h w
    refine ⟨htext, hworld, ?_⟩
    rw [trace_convertNodes, trace_convertNodes]
    exact htraced.append_left w.trace

/-- Two containers, one in the other, go away step by step. -/
theorem convertNodes_containers_nested :
    let setting : Setting := { ids := fun _ => "id" }
    let paragraph (text : String) : Node := .element "p" [] [.text text]
    let inner : Node := .element "div" [] [paragraph "a", .text "b"]
    let outer : Node := .element "section" [] [inner, paragraph "c"]
    let flat := [paragraph "a", .text "b", paragraph "c"]
    let kept := (convertNodes setting [outer]).run {}
    kept.1 = ((convertNodes setting flat).run {}).1 ∧ kept.1 = "a\n\nb\n\nc" ∧
      SameButTrace kept.2 ((convertNodes setting [inner, paragraph "c"]).run {}).2 ∧
      TracesContainers ["block <section>", "block <div>", "block <p>", "block <p>"]
        ["block <p>", "block <p>"] := by
  intro setting paragraph inner outer flat kept
  obtain ⟨hstep, hflatten⟩ := convertNodes_containers setting
  have houter := hstep "section" [] [] [inner, paragraph "c"] [] {} (by decide) (by decide)
    (by decide)
  have hinner : Unwraps [inner, paragraph "c"] flat :=
    @Unwraps.container "div" [] [] [paragraph "a", .text "b"] [paragraph "c"] rfl (by decide)
      (by decide)
  have hunwrapped : Unwraps [outer] [inner, paragraph "c"] :=
    @Unwraps.container "section" [] [] [inner, paragraph "c"] [] rfl (by decide) (by decide)
  obtain ⟨htext, -, htraced⟩ := hflatten _ _ {} (.tail (.single hunwrapped) hinner)
  exact ⟨htext, by decide +kernel, houter.2.1, htraced⟩

/-- What goes away with a container shows in what is traced. And where two runs would grow together,
a container inside another one cannot go away: it keeps them apart. -/
theorem convertNodes_containers_show :
    let setting : Setting := { ids := fun _ => "id" }
    let run (nodes : List Node) := (convertNodes setting nodes).run {}
    let paragraph : Node := .element "p" [] [.text "a"]
    let inner : Node := .element "div" [] [.text "a"]
    let outer : Node := .element "div" [] [inner, .text "b"]
    (Tag.ofName "div").isContainer = true ∧
      Parted [] ([paragraph] ++ []) ∧ Parted ([] ++ [paragraph]) [] ∧
      (run [.element "div" [] [paragraph]]).2.trace = ["block <div>", "block <p>"] ∧
      (run [paragraph]).2.trace = ["block <p>"] ∧
      (run [outer]).1 = "a\n\nb" ∧ (run [inner, .text "b"]).1 = "a\n\nb" ∧
      (run [.text "a", .text "b"]).1 = "ab" := by
  decide +kernel

end HtmlToLatex
