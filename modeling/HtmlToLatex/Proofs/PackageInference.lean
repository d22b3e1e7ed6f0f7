import HtmlToLatex.Proofs.ElementNames
import HtmlToLatex.Proofs.PackagedCommands
import HtmlToLatex.Proofs.Wrapping

set_option autoImplicit false

/-! # Inferring packages

Packages are inferred from texts in the source, but the commands that need them are written for
elements of the parsed fragment. The two meet in the start tags: `exists_hasStartTag` finds one in
the source for every element with such a command. -/

namespace HtmlToLatex

open Html

namespace PackagedCommand

/-- The text that the package of a command is inferred from. -/
def trigger : PackagedCommand → String
  | strikethrough => "<s>"
  | hyperlink => "</a>"
  | graphic => "<img"
  | listing => "</code>"

/-- The names of the start tags that an element with the command can come from. -/
def tagNames : PackagedCommand → List String
  | strikethrough => ["s"]
  | hyperlink => ["a"]
  | graphic => ["img", "image"]
  | listing => ["code"]

theorem mem_packageTriggers (c : PackagedCommand) : (c.trigger, c.package) ∈ packageTriggers := by
  cases c <;> decide

end PackagedCommand

/-! ## Elements and start tags -/

/-- The name of an element with a rule of its own is one of the known names. -/
theorem Tag.mem_known_of_ofName {name : String} {tag : Tag} (h : Tag.ofName name = tag)
    (hother : tag ≠ .other) : (lowerAscii name, tag) ∈ Tag.known := by
  unfold Tag.ofName at h
  cases hlookup : Tag.known.lookup (lowerAscii name) with
  | none =>
      rw [hlookup] at h
      exact absurd h.symm hother
  | some found =>
      rw [hlookup] at h
      obtain rfl : found = tag := h
      obtain ⟨front, back, heq, -⟩ := List.lookup_eq_some_iff.1 hlookup
      rw [heq]
      simp

theorem PackagedCommand.mem_tagNames (c : PackagedCommand) :
    ∀ pair ∈ Tag.known, pair.2 = c.tag → pair.1 ∈ c.tagNames := by
  cases c <;> decide

/-- **An element with a packaged command comes from a start tag in the source.** -/
theorem exists_hasStartTag {source : String} {c : PackagedCommand} {n : Node}
    (hn : n ∈ nodesIn (parseFragment source)) (htag : n.tag? = some c.tag) :
    ∃ name ∈ c.tagNames, HasStartTag name source := by
  cases n with
  | text content => cases htag
  | element name attributes children =>
      have hknown : (lowerAscii name, c.tag) ∈ Tag.known :=
        Tag.mem_known_of_ofName (Option.some.inj htag) (by cases c <;> decide)
      have hmem : lowerAscii name ∈ c.tagNames := c.mem_tagNames _ hknown rfl
      have hcan : CanName source (lowerAscii name) :=
        (canName_closedUnderRules source).lower name (parseFragment_named source _ hn name rfl)
      generalize lowerAscii name = name at hmem hcan
      have himplied : ∀ name ∈ c.tagNames, name ∉ impliedNames := by cases c <;> decide
      have hplain : ∀ name ∈ c.tagNames, replacementChar ∉ name.toList := by cases c <;> decide
      rcases hcan with himplied' | hwritten | ⟨rfl, hwritten⟩
      · exact absurd himplied' (himplied name hmem)
      · exact ⟨name, hmem, hasStartTag_of_writesTag hwritten (hplain name hmem)⟩
      · have himage : "image" ∈ c.tagNames := by
          revert hmem
          cases c <;> decide
        exact ⟨"image", himage, hasStartTag_of_writesTag hwritten (hplain _ himage)⟩

/-! ## Preambles -/

/-- A document starts with its class, loads packages, a given one among them, and then begins. -/
def LoadsPackage (options : Options) (package document : String) : Prop :=
  ∃ packages rest, package ∈ packages ∧
    document = Latex.documentClass options.docClass ++ "\n\n" ++ Latex.usePackages packages
      ++ "\n\n" ++ Latex.beginDocument options.title options.author options.includeDate ++ rest

theorem mem_inferPackages {trigger package source : String}
    (hpair : (trigger, package) ∈ packageTriggers)
    (hoccurs : occursIn trigger.toList source.toList = true) : package ∈ inferPackages source :=
  List.mem_map.2 ⟨(trigger, package), List.mem_filter.2 ⟨hpair, hoccurs⟩, rfl⟩

/-- The packages that the options name are loaded. -/
theorem loadsPackage_of_mem {options : Options} (hwrapper : options.documentWrapper = true)
    {package : String} (hmem : package ∈ options.packages.getD []) (body : List String) :
    LoadsPackage options package (joinBlocks (wrapDocument options body)) := by
  refine ⟨options.packages.getD [], (if joinBlocks body = "" then "" else "\n\n" ++ joinBlocks body)
    ++ "\n\n" ++ Latex.endDocument, hmem, ?_⟩
  rw [joinBlocks_wrapDocument_eq hwrapper, documentText, if_neg (List.ne_nil_of_mem hmem)]
  simp only [String.append_assoc]

/-! ## Inference -/

/-- A source in which a start tag of an element with a command comes with the text that the
    package of the command is inferred from. -/
def PackagedCommand.IsSpelledIn (c : PackagedCommand) (source : String) : Prop :=
  (∃ name ∈ c.tagNames, HasStartTag name source) → occursIn c.trigger.toList source.toList = true

/-- The package of an element in the fragment is loaded. -/
theorem convertText_loadsPackage_of_mem (setting : Setting)
    (hwrapper : setting.options.documentWrapper = true)
    (hpackages : setting.options.packages = none)
    {source : String} {c : PackagedCommand} (hspelled : c.IsSpelledIn source) {n : Node}
    (hn : n ∈ nodesIn (parseFragment source)) (htag : n.tag? = some c.tag) :
    Conversion.Yields (convertText setting source) (LoadsPackage setting.options c.package) := by
  have hinferred := mem_inferPackages c.mem_packageTriggers (hspelled (exists_hasStartTag hn htag))
  generalize hoptions : setting.options.withInferredPackages source = options
  have hmem : c.package ∈ options.packages.getD [] := by
    rw [← hoptions]
    simpa [Options.withInferredPackages, hpackages] using hinferred
  have hwrapper' : options.documentWrapper = true := by
    rw [← hoptions]
    exact hwrapper
  -- Inference changes no option that the preamble shows but the packages.
  have hsame : LoadsPackage setting.options c.package = LoadsPackage options c.package := by
    rw [← hoptions]
    rfl
  rw [hsame]
  unfold convertText convert
  rw [hoptions]
  exact Conversion.Yields.map (P := fun _ => True) (fun _ => trivial) fun body _ =>
    loadsPackage_of_mem hwrapper' hmem body

/-- **Packages are inferred for all commands that need them,** in sources that spell the elements
in the way that inference looks for. -/
theorem convertText_loadsPackage (setting : Setting)
    (hwrapper : setting.options.documentWrapper = true)
    (hpackages : setting.options.packages = none)
    (source : String) (c : PackagedCommand) (hspelled : c.IsSpelledIn source)
    (hc : c ∈ commandsIn .block (parseFragment source)) (w : World) :
    LoadsPackage setting.options c.package ((convertText setting source).run w).1 := by
  obtain ⟨n, hn, htag⟩ := exists_of_mem_commandsIn .block _ hc
  exact convertText_loadsPackage_of_mem setting hwrapper hpackages hspelled hn htag w

/-- A link and a text that is struck through. -/
theorem convertText_loadsPackage_link :
    let setting : Setting := { options := { documentWrapper := true }, ids := fun _ => "id" }
    let source := "<p><a href=u>x</a> <s>old</s></p>"
    PackagedCommand.hyperlink ∈ commandsIn .block (parseFragment source) ∧
      LoadsPackage setting.options "hyperref" ((convertText setting source).run {}).1 := by
  intro setting source
  have hc : PackagedCommand.hyperlink ∈ commandsIn .block (parseFragment source) := by
    decide +kernel
  have hspelled : PackagedCommand.hyperlink.IsSpelledIn source := fun _ => by decide +kernel
  exact ⟨hc, convertText_loadsPackage setting rfl rfl source .hyperlink hspelled hc {}⟩

theorem usePackages_cons (first : String) (others : List String) :
    ∃ rest, Latex.usePackages (first :: others) = "\\usepackage" ++ rest := by
  unfold Latex.usePackages
  cases others with
  | nil => exact ⟨Latex.group first, by simp [Latex.command]⟩
  | cons second others =>
      rw [List.map_cons, List.map_cons, String.intercalate_cons_cons]
      simp only [Latex.command, String.append_assoc]
      exact ⟨_, rfl⟩

/-- What loads a package starts with its class and a command that loads packages. -/
theorem LoadsPackage.isPrefix {options : Options} {package document : String}
    (h : LoadsPackage options package document) :
    (Latex.documentClass options.docClass ++ ("\n\n" ++ "\\usepackage")).toList <+:
      document.toList := by
  obtain ⟨packages, rest, hmem, rfl⟩ := h
  cases packages with
  | nil => cases hmem
  | cons first others =>
      obtain ⟨after, hafter⟩ := usePackages_cons first others
      rw [hafter]
      simp only [String.toList_append, List.append_assoc, List.prefix_append_right_inj]
      exact List.prefix_append _ _

/-- Other spellings of the elements hide them from inference: attributes, upper case letters and
    tags that are left open. -/
theorem exists_command_without_package :
    let setting : Setting := { options := { documentWrapper := true }, ids := fun _ => "id" }
    let entries : List (PackagedCommand × String) :=
      [(.strikethrough, "<s class=\"x\">old</s>"), (.hyperlink, "<a href=u>x"),
       (.graphic, "<IMG src=x.png>"), (.listing, "<code>x")]
    ∀ entry ∈ entries,
      entry.1 ∈ commandsIn .block (parseFragment entry.2) ∧
        ¬LoadsPackage setting.options entry.1.package ((convertText setting entry.2).run {}).1 := by
  intro setting entries entry hentry
  constructor
  · revert entry
    decide +kernel
  · have hfirst : ∀ entry ∈ entries,
        ¬(Latex.documentClass "article" ++ ("\n\n" ++ "\\usepackage")).toList <+:
          ((convertText setting entry.2).run {}).1.toList := by
      decide +kernel
    exact fun hloads => hfirst entry hentry hloads.isPrefix

end HtmlToLatex
