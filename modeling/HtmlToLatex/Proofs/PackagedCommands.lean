import HtmlToLatex.Proofs.Rendering

set_option autoImplicit false

/-! # Commands that packages define

Most commands of the output are part of LaTeX, but text that is struck through, links, images and
listings need a package. `commandsIn` collects these commands from a forest in document order, as
`eventsIn` collects the effects of a walk. A document has all of them, by `convert_writes`. -/

namespace HtmlToLatex

open Conversion

/-! ## Commands -/

/-- The commands of the output that a package defines. -/
inductive PackagedCommand where
  | strikethrough
  | hyperlink
  | graphic
  | listing
  deriving DecidableEq

namespace PackagedCommand

/-- The package that defines a command. -/
def package : PackagedCommand → String
  | strikethrough => "ulem"
  | hyperlink => "hyperref"
  | graphic => "graphicx"
  | listing => "listings"

/-- The tag of the elements that a command is written for. -/
def tag : PackagedCommand → Tag
  | strikethrough => .s
  | hyperlink => .a
  | graphic => .img
  | listing => .code

/-- How a command starts in the output. -/
def opening : PackagedCommand → String
  | strikethrough => "\\sout\x7b"
  | hyperlink => "\\href\x7b"
  | graphic => "\\includegraphics"
  | listing => "\\begin\x7blstlisting\x7d"

/-- A command is written in a text. -/
def IsWrittenIn (c : PackagedCommand) (t : String) : Prop :=
  c.opening.toList <:+: t.toList

theorem isWrittenIn_append (c : PackagedCommand) (before after : String) :
    c.IsWrittenIn (before ++ (c.opening ++ after)) := by
  unfold IsWrittenIn
  rw [String.toList_append, String.toList_append, ← List.append_assoc]
  exact List.infix_append _ _ _

theorem isWrittenIn_opening_append (c : PackagedCommand) (after : String) :
    c.IsWrittenIn (c.opening ++ after) := by
  simpa using c.isWrittenIn_append "" after

end PackagedCommand

/-! ## Commands that a walk writes -/

/-- The command that an element writes for itself where it is shown. -/
def ownCommand? (place : Place) (tag : Tag) (attributes : List Attribute) (children : List Node) :
    Option PackagedCommand :=
  match tag with
  | .s => if children.isEmpty then none else some .strikethrough
  | .a =>
    if children.isEmpty || (attribute? attributes "href").isNone then none else some .hyperlink
  | .img => if (attribute? attributes "src").isNone then none else some .graphic
  | .code => if place = .block then some .listing else none
  | _ => none

mutual

/-- The packaged commands that a walk writes for a node that stands in a place and for the
    elements below it. -/
def commands (place : Place) : Node → List PackagedCommand
  | .text _ => []
  | .element name attributes children =>
    (if place.shows then
      (ownCommand? place (Tag.ofName name) attributes children).toList else [])
    ++ match place.inside (Tag.ofName name) with
      | some inner =>
        if inner = .table ∧ opensWithoutCells children then [] else commandsIn inner children
      | none => []

/-- The packaged commands that a walk writes for sibling nodes that stand in a place. -/
def commandsIn (place : Place) : List Node → List PackagedCommand
  | [] => []
  | node :: rest => commands place node ++ commandsIn place rest

end

theorem ownCommand?_tag {place : Place} {tag : Tag} {attributes : List Attribute}
    {children : List Node} {c : PackagedCommand}
    (h : ownCommand? place tag attributes children = some c) : tag = c.tag := by
  unfold ownCommand? at h
  split at h
  case h_5 => cases h
  all_goals
    split at h
    all_goals cases h
    all_goals rfl

mutual

/-- A command is written for an element of its tag. -/
theorem exists_of_mem_commands {c : PackagedCommand} (place : Place) :
    ∀ node : Node, c ∈ commands place node → ∃ n ∈ node.nodes, n.tag? = some c.tag
  | .text _, h => by
      unfold commands at h
      cases h
  | .element name attributes children, h => by
      unfold commands at h
      rcases List.mem_append.1 h with hown | hbelow
      · split at hown
        · have htag := ownCommand?_tag (Option.mem_toList.1 hown)
          exact ⟨_, mem_nodes_self _, congrArg some htag⟩
        · cases hown
      · split at hbelow
        · split at hbelow
          · cases hbelow
          · obtain ⟨n, hn, htag⟩ := exists_of_mem_commandsIn _ children hbelow
            exact ⟨n, List.mem_cons_of_mem _ hn, htag⟩
        · cases hbelow

theorem exists_of_mem_commandsIn {c : PackagedCommand} (place : Place) :
    ∀ nodes : List Node, c ∈ commandsIn place nodes → ∃ n ∈ nodesIn nodes, n.tag? = some c.tag
  | [], h => by
      unfold commandsIn at h
      cases h
  | node :: rest, h => by
      unfold commandsIn at h
      unfold nodesIn
      rcases List.mem_append.1 h with hnode | hrest
      · obtain ⟨n, hn, htag⟩ := exists_of_mem_commands place node hnode
        exact ⟨n, List.mem_append_left _ hn, htag⟩
      · obtain ⟨n, hn, htag⟩ := exists_of_mem_commandsIn place rest hrest
        exact ⟨n, List.mem_append_right _ hn, htag⟩

end

/-! ## What the converters write -/

theorem command_eq (name argument : String) :
    Latex.command name argument = "\\" ++ name ++ "\x7b" ++ (argument ++ "\x7d") := by
  simp only [Latex.command, Latex.group, String.append_assoc]

theorem isWrittenIn_image (path : String) (layout : Latex.ImageLayout) :
    PackagedCommand.graphic.IsWrittenIn (Latex.image path layout) := by
  obtain ⟨after, hcommand⟩ : ∃ after, Latex.includeGraphics path layout =
      PackagedCommand.graphic.opening ++ after := by
    unfold Latex.includeGraphics
    exact ⟨_, String.append_assoc ..⟩
  unfold Latex.image
  dsimp only
  rw [hcommand]
  split
  · simp only [Latex.center, Latex.environment, String.append_assoc]
    rw [← String.append_assoc, ← String.append_assoc]
    exact PackagedCommand.graphic.isWrittenIn_append _ _
  · exact PackagedCommand.graphic.isWrittenIn_opening_append _

theorem isWrittenIn_listing (code : String) :
    PackagedCommand.listing.IsWrittenIn (Latex.listing code) := by
  have hopening : Latex.command "begin" "lstlisting" = PackagedCommand.listing.opening := rfl
  rw [Latex.listing, Latex.environment, hopening]
  simp only [String.append_assoc]
  exact PackagedCommand.listing.isWrittenIn_opening_append _

variable (setting : Setting)

/-- An image with a source is set by the command for images. -/
theorem convertImage_writes {attributes : List Attribute}
    (hsource : (attribute? attributes "src").isNone = false) :
    Yields (convertImage setting attributes) fun image =>
      ∃ t ∈ image, PackagedCommand.graphic.IsWrittenIn t := by
  unfold convertImage
  cases hsrc : attribute? attributes "src" with
  | none => simp [hsrc] at hsource
  | some source =>
      refine Yields.map (P := PackagedCommand.graphic.IsWrittenIn) (fun w => ?_)
        fun t ht => ⟨t, rfl, ht⟩
      rw [run_convertSource]
      exact isWrittenIn_image _ _

/-- An element with content, set in a line, writes its own command. -/
theorem isWrittenIn_styled {tag : Tag} {attributes : List Attribute} {children : List Node}
    {c : PackagedCommand} (h : ownCommand? .line tag attributes children = some c)
    (himg : tag ≠ .img) (t : String) : c.IsWrittenIn (styled tag attributes t) := by
  unfold ownCommand? at h
  split at h
  case h_1 =>
    obtain ⟨-, hc⟩ := Option.ite_none_left_eq_some.1 h
    obtain rfl : PackagedCommand.strikethrough = c := by simpa using hc
    rw [styled, Latex.strikethrough, command_eq]
    exact PackagedCommand.strikethrough.isWrittenIn_opening_append _
  case h_2 =>
    obtain ⟨hhref, hc⟩ := Option.ite_none_left_eq_some.1 h
    obtain rfl : PackagedCommand.hyperlink = c := by simpa using hc
    cases htarget : attribute? attributes "href" with
    | none => simp [htarget] at hhref
    | some target =>
        rw [styled, htarget]
        dsimp only
        rw [Latex.hyperlink, command_eq, String.append_assoc]
        exact PackagedCommand.hyperlink.isWrittenIn_opening_append _
  case h_3 => exact absurd rfl himg
  case h_4 => cases h
  case h_5 => cases h

/-- An element without children has no command of its own in a line, unless it is an image. -/
theorem isEmpty_of_ownCommand? {tag : Tag} {attributes : List Attribute} {children : List Node}
    {c : PackagedCommand} (h : ownCommand? .line tag attributes children = some c)
    (himg : tag ≠ .img) : children.isEmpty = false := by
  cases children with
  | cons node rest => rfl
  | nil => cases tag <;> first | cases h | exact absurd rfl himg

/-- **An element that is set in a line writes its own command.** -/
theorem convertInline_writes {name : String} {attributes : List Attribute} {children : List Node}
    {c : PackagedCommand} (h : ownCommand? .line (Tag.ofName name) attributes children = some c) :
    Yields (convertInline setting (.element name attributes children))
      c.IsWrittenIn := by
  have htag := ownCommand?_tag h
  rw [convertInline_element]
  generalize Tag.ofName name = tag at h htag ⊢
  have hbr : tag ≠ .br := by
    rw [htag]
    cases c <;> decide
  rw [if_neg hbr]
  by_cases himg : tag = .img
  · subst himg
    obtain ⟨hsource, hc⟩ := Option.ite_none_left_eq_some.1 h
    obtain rfl : PackagedCommand.graphic = c := by simpa using hc
    refine (convertImage_writes setting (Bool.eq_false_iff.2 hsource)).map fun image himage => ?_
    obtain ⟨t, rfl, ht⟩ := himage
    exact ht
  · rw [if_neg himg, isEmpty_of_ownCommand? h himg]
    have hstyled := isWrittenIn_styled h himg
    refine Yields.bind (P := fun _ => True) (fun _ => trivial) fun t _ => ?_
    rw [styledText_eq]
    split
    · exact Yields.map (P := fun _ => True) (fun _ => trivial) fun _ _ => hstyled t
    · exact Yields.pure (hstyled t)

end HtmlToLatex
