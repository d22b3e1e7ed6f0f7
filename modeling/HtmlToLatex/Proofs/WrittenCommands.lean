import HtmlToLatex.Proofs.PackagedCommands
import HtmlToLatex.Proofs.RunningText

set_option autoImplicit false

/-! # Packaged commands in the output

`commandsIn` collects the packaged commands of a forest by places only. No pass over finished text
takes such a command away, so that its opening is a law of the output, `writesAll_law`. The openings
are gathered along the walk, and `convert_writes` finds all of `commandsIn` in the document. -/

namespace HtmlToLatex

open Conversion

/-! ## Parts of a text -/

/-- A part stays when characters are dropped from the front that it does not start with. -/
theorem infix_dropWhile {part s : List Char} {p : Char → Bool} (h : part <:+: s)
    (hpart : part.head?.any (fun c => !p c) = true) : part <:+: s.dropWhile p := by
  induction s with
  | nil => exact h
  | cons c r ih =>
      by_cases hc : p c = true
      · rw [List.dropWhile_cons_of_pos hc]
        rcases List.infix_cons_iff.1 h with hprefix | hrest
        · cases part with
          | nil => cases hpart
          | cons d rest =>
              obtain ⟨rfl, -⟩ := List.cons_prefix_cons.1 hprefix
              simp [hc] at hpart
        · exact ih hrest
      · rw [List.dropWhile_cons_of_neg hc]
        exact h

/-- A part stays when blanks are dropped at both ends if it has none at its ends. -/
theorem infix_trimChars {part s : List Char} (h : part <:+: s)
    (hhead : part.head?.any (fun c => !isBlank c) = true)
    (hlast : part.reverse.head?.any (fun c => !isBlank c) = true) : part <:+: trimChars s := by
  rw [trimChars, ← List.reverse_infix, List.reverse_reverse]
  exact infix_dropWhile (List.reverse_infix.2 (infix_dropWhile h hhead)) hlast

namespace PackagedCommand

theorem IsWrittenIn.mono {c : PackagedCommand} {t u : String} (h : c.IsWrittenIn t)
    (htu : t.toList <:+: u.toList) : c.IsWrittenIn u :=
  List.IsInfix.trans h htu

theorem IsWrittenIn.trim {c : PackagedCommand} {t : String} (h : c.IsWrittenIn t) :
    c.IsWrittenIn (trim t) := by
  unfold IsWrittenIn
  rw [toList_trim]
  exact infix_trimChars h (by cases c <;> decide) (by cases c <;> decide)

/-- No command starts in the opening delimiter of a formula. -/
theorem infix_of_opening (c : PackagedCommand) {delimiter s : List Char}
    (hdelimiter : delimiter ∈ [['$'], ['\\', '(']])
    (h : c.opening.toList <:+: delimiter ++ s) : c.opening.toList <:+: s := by
  simp only [List.mem_cons, List.not_mem_nil, or_false] at hdelimiter
  rcases hdelimiter with rfl | rfl <;> cases c <;> simpa [opening, List.infix_cons_iff] using h

/-- No command ends in the closing delimiter of a formula. -/
theorem infix_of_closing (c : PackagedCommand) {delimiter s : List Char}
    (hdelimiter : delimiter ∈ [['$'], ['\\', ')']])
    (h : c.opening.toList <:+: s ++ delimiter) : c.opening.toList <:+: s := by
  rw [← List.reverse_infix, List.reverse_append] at h
  rw [← List.reverse_infix]
  simp only [List.mem_cons, List.not_mem_nil, or_false] at hdelimiter
  rcases hdelimiter with rfl | rfl <;> cases c <;> simpa [opening, List.infix_cons_iff] using h

theorem IsWrittenIn.soleEquation {c : PackagedCommand} {t : String} (h : c.IsWrittenIn t) :
    c.IsWrittenIn (wrapSoleEquation t) := by
  unfold IsWrittenIn at h ⊢
  rw [wrapSoleEquation, String.toList_ofList, wrapSoleEquationChars]
  split
  next interior hinterior =>
    split
    · exact h
    · obtain ⟨front, hfront, back, hback, heq⟩ := formulaInterior?_spec hinterior
      rw [heq, List.append_assoc] at h
      have hinside := c.infix_of_closing hback (c.infix_of_opening hfront h)
      exact hinside.trans ⟨['\\', '['], ['\\', ']'], by simp⟩
  next => exact h

end PackagedCommand

/-! ## Commands as a law of the output -/

/-- The commands whose openings are given are written in a text. -/
def WritesAll (openings : List String) (t : String) : Prop :=
  ∀ c : PackagedCommand, c.opening ∈ openings → c.IsWrittenIn t

theorem writesAll_nil (t : String) : WritesAll [] t := fun _ h => absurd h (by simp)

theorem writesAll_nil_option (text? : Option String) : Rendered WritesAll [] text?.toList := by
  cases text? with
  | none => exact .nil
  | some text => exact .single (writesAll_nil text)

theorem WritesAll.mono {a : List String} {t u : String} (h : WritesAll a t)
    (htu : t.toList <:+: u.toList) : WritesAll a u :=
  fun c hc => (h c hc).mono htu

theorem WritesAll.and {a b : List String} {t : String} (ha : WritesAll a t) (hb : WritesAll b t) :
    WritesAll (a ++ b) t := by
  intro c hc
  rcases List.mem_append.1 hc with hc | hc
  · exact ha c hc
  · exact hb c hc

theorem writesAll_law : OutputLaw WritesAll where
  append := by
    intro a b t u ht hu
    refine (ht.mono ?_).and (hu.mono ?_)
    · rw [String.toList_append]
      exact (List.prefix_append _ _).isInfix
    · rw [String.toList_append]
      exact (List.suffix_append _ _).isInfix
  trim := fun h c hc => (h c hc).trim
  plain := fun _ => writesAll_nil _
  commandName := fun _ => writesAll_nil _
  rowEnd := writesAll_nil _
  group := by
    intro a t h
    refine h.mono ?_
    simp only [Latex.group, String.toList_append]
    exact List.infix_append _ _ _
  environment := by
    intro a t name _ h
    refine h.mono ?_
    simp only [String.toList_append]
    exact List.infix_append _ _ _
  soleEquation := fun h c hc => (h c hc).soleEquation

theorem PackagedCommand.opening_injective : Function.Injective PackagedCommand.opening := by
  intro c d h
  revert h
  cases c <;> cases d <;> decide

/-- A single command, if there is one. -/
theorem writesAll_toList {c? : Option PackagedCommand} {t : String}
    (h : ∀ c, c? = some c → c.IsWrittenIn t) :
    WritesAll (c?.toList.map PackagedCommand.opening) t := by
  intro c hc
  obtain ⟨d, hd, heq⟩ := List.mem_map.1 hc
  obtain rfl := PackagedCommand.opening_injective heq
  exact h d (Option.mem_toList.1 hd)

/-! ## Gathering the commands -/

/-- The openings of the commands for a node that stands in a place. -/
def openings (place : Place) (node : Node) : List String :=
  (commands place node).map PackagedCommand.opening

theorem map_opening_commandsIn (place : Place) (nodes : List Node) :
    (commandsIn place nodes).map PackagedCommand.opening = nodes.flatMap (openings place) := by
  induction nodes with
  | nil => rfl
  | cons node rest ih => rw [commandsIn, List.map_append, ih, List.flatMap_cons, openings]

theorem openings_element (place : Place) (name : String) (attributes : List Attribute)
    (children : List Node) :
    openings place (.element name attributes children) =
      (if place.shows then
        (ownCommand? place (Tag.ofName name) attributes children).toList.map
          PackagedCommand.opening else [])
      ++ gatherBelow openings place (Tag.ofName name) children := by
  rw [openings, commands, List.map_append]
  congr 1
  · split <;> rfl
  · unfold gatherBelow
    cases place.inside (Tag.ofName name) with
    | none => rfl
    | some inner =>
        dsimp only
        split
        · rfl
        · exact map_opening_commandsIn _ _

/-- Among blocks, an element that is none has the command that it has in a line. -/
theorem ownCommand?_block_of_inline {tag : Tag} (h : tag.blockRole = .inline)
    (attributes : List Attribute) (children : List Node) :
    ownCommand? .block tag attributes children = ownCommand? .line tag attributes children := by
  cases tag <;> first | rfl | cases h

/-- Of the blocks, only listings and images have a command of their own. -/
theorem ownCommand?_block_eq_none {tag : Tag} (hinline : tag.blockRole ≠ .inline)
    (himage : tag.blockRole ≠ .image) (hlisting : tag.blockRole ≠ .listing)
    (attributes : List Attribute) (children : List Node) :
    ownCommand? .block tag attributes children = none := by
  cases tag <;>
    first
      | rfl
      | exact absurd rfl hinline
      | exact absurd rfl himage
      | exact absurd rfl hlisting

theorem openings_gathering : Gathering openings where
  inside := by
    rintro place (content | ⟨name, attributes, children⟩) hshows
    · rfl
    · rw [openings_element, gatherBelow_of_shows_eq_false hshows, hshows]
      rfl
  inline := by
    rintro (content | ⟨name, attributes, children⟩) hinline
    · rfl
    · have hrole : (Tag.ofName name).blockRole = .inline := by
        simpa [Node.isBlock, Tag.isBlock_eq] using hinline
      simp only [openings_element, ownCommand?_block_of_inline hrole,
        gatherBelow_block_of_inline hrole, Place.shows]
  block := by
    intro name attributes children hinline himage hlisting
    rw [openings_element, ownCommand?_block_eq_none hinline himage hlisting]
    rfl

variable (setting : Setting)

/-- An image that is shown writes its own command. -/
theorem convertImage_openings (attributes : List Attribute) (children : List Node) :
    Yields (convertImage setting attributes) fun image =>
      Rendered WritesAll
        ((ownCommand? .block .img attributes children).toList.map PackagedCommand.opening)
        image.toList := by
  by_cases hsource : (attribute? attributes "src").isNone = true
  · rw [ownCommand?, if_pos hsource]
    exact fun w => writesAll_nil_option _
  · rw [ownCommand?, if_neg hsource]
    intro w
    obtain ⟨t, himage, ht⟩ := convertImage_writes setting (Bool.eq_false_iff.2 hsource) w
    rw [Option.mem_def.1 himage]
    exact .single (writesAll_toList fun c hc => Option.some.inj hc ▸ ht)

/-- An element in a line writes its own command and those of its children. -/
theorem convertInline_openings {name : String} {attributes : List Attribute} {children : List Node}
    (hchildren : Yields (convertInlines setting children)
      (WritesAll (children.flatMap (openings .line)))) :
    Yields (convertInline setting (.element name attributes children))
      (WritesAll (openings .line (.element name attributes children))) := by
  have hfits : (Node.element name attributes children).Fits WritesAll setting :=
    ⟨fun _ _ _ => writesAll_nil _, fun _ _ => writesAll_nil_option _⟩
  have hbelow := hfits.convertInline writesAll_law hchildren
  intro w
  rw [openings_element, gatherBelow_line]
  exact WritesAll.and (writesAll_toList fun c hc => convertInline_writes setting hc w) (hbelow w)

theorem follows_openings (node : Node) : node.Follows WritesAll WritesAll setting openings := by
  cases node with
  | text content => exact ⟨writesAll_nil _, nofun, nofun⟩
  | element name attributes children =>
      refine ⟨convertInline_openings setting, fun himg => ?_, fun hcode t ht => ?_⟩
      · rw [openings_element, Option.some.inj himg, gatherBelow]
        simpa [Place.shows, Place.inside, Tag.blockRole, Node.attributes] using
          convertImage_openings setting attributes children
      · rw [openings_element, Option.some.inj hcode]
        exact (writesAll_toList fun c hc => Option.some.inj hc ▸ isWrittenIn_listing t).and
          (writesAll_law.blocks.environmentOnLines rfl ht)

/-- **Every command of a walk is in the document.** -/
theorem convert_writes (nodes : List Node) :
    Yields (convert setting nodes) fun document =>
      ∀ c ∈ commandsIn .block nodes, c.IsWrittenIn document := by
  intro w c hc
  refine convert_gathers writesAll_law.blocks.walk openings_gathering
    (fun node _ => follows_openings setting node) (fun _ _ => writesAll_nil _) w c ?_
  rw [← map_opening_commandsIn]
  exact List.mem_map_of_mem hc

end HtmlToLatex
