import HtmlToLatex.GeneratedId
import HtmlToLatex.Proofs.Attempts
import HtmlToLatex.Proofs.CommandReading
import HtmlToLatex.Proofs.Noninterference
import HtmlToLatex.Proofs.Occurrences
import HtmlToLatex.Proofs.Reading

set_option autoImplicit false

/-! # One text from all front ends

A source may be named or come from the standard input, and its text may be printed or written to a
file. Each way settles the options for itself, but they differ in the directory for images only, and
the text does not show it (`convertText_text_eq`). So all ways give one text:
`runCommandLine_one_text`. -/

namespace HtmlToLatex

open Conversion FileSystem Arguments Switch

/-! ## The text of a conversion -/

/-- Every image of a forest keeps the name in its source. -/
def KeepsAllNames (options : Options) (nodes : List Node) : Prop :=
  ∀ source ∈ imageSources nodes, (keptName? options.autogenImageNames source).isSome

section Text

variable {options : Options} {nodes : List Node}

/-- An image that keeps its name is shown alike under any ids, wherever it is stored. -/
theorem convertImage_agree_elsewhere (h : KeepsAllNames options nodes) (dir dir' : Option Path)
    (fetcher fetcher' : Fetcher) (ids ids' : Nat → String) {name : String}
    {attributes : List Attribute} {children : List Node}
    (hnode : .element name attributes children ∈ nodesIn nodes) (himg : Tag.ofName name = .img) :
    Agree (fun _ _ => True)
      (convertImage { options := options.elsewhere dir options.debug, fetcher, ids } attributes)
      (convertImage
        { options := options.elsewhere dir' options.debug, fetcher := fetcher', ids := ids' }
        attributes) := by
  unfold convertImage
  cases hsource : attribute? attributes "src" with
  | none => exact Agree.pure none
  | some source =>
      have hmem : source ∈ imageSources nodes :=
        List.mem_filterMap.2 ⟨_, hnode, by rw [Node.source?_element, if_pos himg, hsource]⟩
      obtain ⟨kept, hkept⟩ := Option.isSome_iff_exists.1 (h source hmem)
      refine Agree.map (fun w w' _ => ⟨?_, trivial⟩) some
      rw [run_convertSource, run_convertSource, nextName, nextName, localName, localName]
      simp only [Options.elsewhere, hkept, Option.getD_some]
      rfl

theorem convert_text_eq (h : KeepsAllNames options nodes) (dir dir' : Option Path)
    (fetcher fetcher' : Fetcher) (ids ids' : Nat → String) (w w' : World) :
    let s : Setting := { options := options.elsewhere dir options.debug, fetcher, ids }
    let s' : Setting :=
      { options := options.elsewhere dir' options.debug, fetcher := fetcher', ids := ids' }
    ((convert s nodes).run w).1 = ((convert s' nodes).run w').1 := by
  intro s s'
  have halike (node : Node) (hnode : node ∈ nodesIn nodes) :
      AlikeAt (fun _ _ => True) s s' node := by
    have helsewhere := alikeAt_elsewhere options ids fetcher fetcher' dir dir' options.debug
      options.debug node
    refine ⟨helsewhere.text, helsewhere.lineBreak, fun name attributes children heq himg => ?_,
      helsewhere.paragraph⟩
    subst heq
    exact convertImage_agree_elsewhere h dir dir' fetcher fetcher' ids ids' hnode
      (by simpa [Node.tag?] using himg)
  have hwrap : wrapDocument s.options = wrapDocument s'.options :=
    (wrapDocument_elsewhere options dir _).trans (wrapDocument_elsewhere options dir' _).symm
  exact (convert_agree keptByMessages_true hwrap halike w w' trivial).1

/-- A text that a source is converted to, wherever the images go and whatever becomes of them. -/
inductive IsTextOf (options : Options) (source : String) : String → Prop where
  | intro (dir : Option Path) (fetcher : Fetcher) (ids : Nat → String) (w : World) :
      IsTextOf options source ((convertText
        { options := { options with compilationDir := dir }, fetcher, ids } source).run w).1

theorem IsTextOf.of_run {source text : String} {dir : Option Path} {fetcher : Fetcher}
    {ids : Nat → String} {w after : World}
    (h : (convertText { options := { options with compilationDir := dir }, fetcher, ids }
      source).run w = (text, after)) : IsTextOf options source text := by
  have htext : IsTextOf options source ((convertText
      { options := { options with compilationDir := dir }, fetcher, ids } source).run w).1 :=
    .intro dir fetcher ids w
  rwa [h] at htext

/-- There is only one text if no name is generated. -/
theorem IsTextOf.unique {source text text' : String}
    (hnames : KeepsAllNames options (Html.parseFragment source))
    (h : IsTextOf options source text) (h' : IsTextOf options source text') : text = text' := by
  obtain ⟨dir, fetcher, ids, w⟩ := h
  obtain ⟨dir', fetcher', ids', w'⟩ := h'
  have hinferred :
      KeepsAllNames (options.withInferredPackages source) (Html.parseFragment source) := hnames
  exact convert_text_eq hinferred dir dir' fetcher fetcher' ids ids' w w'

end Text

/-! ## Commands that succeed -/

section Commands

variable {s : Surroundings} {w : World}

/-- A command that succeeds has had its options and was performed. -/
theorem exists_of_run_ok {c : Command} (h : ((c.run s).run w).1.exitCode = 0) :
    ∃ options shown, (c.arguments.resolve.outcome w).1 = .ok options ∧
      ((c.perform s options).outcome w).1 = .ok shown ∧
      ((c.run s).run w).1.output = shown.1 ∧
      ((c.run s).run w).2 = ((c.perform s options).outcome w).2 := by
  rw [run_command] at h ⊢
  cases hresolved : (c.arguments.resolve.outcome w).1 with
  | error e =>
      rw [hresolved] at h
      cases h
  | ok options =>
      rw [hresolved] at h
      dsimp only at h ⊢
      cases hshown : ((c.perform s options).outcome w).1 with
      | error e =>
          rw [hshown] at h
          cases h
      | ok shown => exact ⟨options, shown, rfl, hshown, rfl, rfl⟩

/-- Converting succeeds if the source can be read. -/
theorem runConvert_eq_ok {input imageHome : Option Path} {a : Arguments} {options : Options}
    {text : String} {after : World}
    (h : (runConvert s input imageHome a options).outcome w = (.ok text, after)) :
    let compilationDir := options.compilationDir.or imageHome
    ∃ source, sourceText s w.files input = .ok source ∧
      (convertText
        { options := { options with compilationDir }, fetcher := a.fetcher s, ids := s.ids }
        source).run w = (text, after) := by
  rw [outcome_runConvert] at h
  cases hsource : sourceText s w.files input with
  | error e =>
      rw [hsource] at h
      cases h
  | ok source =>
      rw [hsource] at h
      obtain ⟨htext, hafter⟩ := Prod.mk.inj h
      exact ⟨source, rfl, Prod.ext (Except.ok.inj htext) hafter⟩

/-- What is converted and not written to a file is printed. -/
theorem output_of_convert {input : Option Path} {a : Arguments}
    (h : (((Command.convert input none a).run s).run w).1.exitCode = 0) :
    ∃ options source text, (a.resolve.outcome w).1 = .ok options ∧
      sourceText s w.files input = .ok source ∧ IsTextOf options source text ∧
      (((Command.convert input none a).run s).run w).1.output = text ++ "\n" := by
  obtain ⟨options, shown, hresolved, hshown, houtput, -⟩ := exists_of_run_ok h
  rw [outcome_perform_convert] at hshown
  rcases hrun : (runConvert s input none a options).outcome w with ⟨r, w'⟩
  rw [Option.map_none, hrun] at hshown
  cases r with
  | error e => cases hshown
  | ok text =>
      obtain ⟨source, hsource, hconverted⟩ := runConvert_eq_ok hrun
      cases hshown
      exact ⟨options, source, text, hresolved, hsource, .of_run hconverted, houtput⟩

/-- The setting in which a command converts its source text. -/
def Command.setting (s : Surroundings) (options : Options) (c : Command) : Setting where
  options := c.settledOptions options
  fetcher := c.arguments.fetcher s
  ids := s.ids

/-- A source text is converted in a setting, and the text is written to a file with an ending. -/
structure WritesText (setting : Setting) (source ending : String) (path : Path)
    (w after : World) : Prop where
  fetches : after.fetches = ((convertText setting source).run w).2.fetches
  readText : after.files.readText path = .ok (((convertText setting source).run w).1 ++ ending)

theorem readText_of_writing {path : Path} {text : String} {files after : FileSystem} {done : Bool}
    (h : Writing path text files done after) (hdone : done = true) :
    after.readText path = .ok text := by
  cases h with
  | failed => cases hdone
  | written _ hwrite => exact readText_of_writeText hwrite

/-- What is converted is written to the file that is named, with a line break behind it. -/
theorem writesText_of_convert {input : Option Path} {output : Path} {a : Arguments} :
    let c : Command := .convert input (some output) a
    ((c.run s).run w).1.exitCode = 0 →
      ∃ options source, (a.resolve.outcome w).1 = .ok options ∧
        sourceText s w.files input = .ok source ∧
        WritesText (c.setting s options) source "\n" output w ((c.run s).run w).2 := by
  intro c h
  obtain ⟨options, shown, hresolved, hshown, -, hafter⟩ := exists_of_run_ok h
  rw [hafter]
  rw [outcome_perform_convert] at hshown ⊢
  rcases hrun : (runConvert s input ((some output).map Path.directory) a options).outcome w with
    ⟨r, w'⟩
  rw [hrun] at hshown
  cases r with
  | error e => cases hshown
  | ok text =>
      obtain ⟨source, hsource, hconverted⟩ := runConvert_eq_ok hrun
      have hconverted : (convertText (c.setting s options) source).run w = (text, w') := hconverted
      refine ⟨options, source, hresolved, hsource, ?_⟩
      have hfetches := fetches_writeResult output text w'
      have hwriting := writeResult_writing output text w'
      dsimp only at hshown hwriting ⊢
      rcases hwritten : (writeResult output text).outcome w' with ⟨r, w''⟩
      rw [hwritten] at hshown hfetches hwriting
      cases r with
      | error e => cases hshown
      | ok u =>
          constructor <;> rw [hconverted]
          · exact hfetches
          · exact readText_of_writing hwriting rfl

/-- A file that is converted reads as the text at the path that it is exported to. -/
theorem writesText_of_convertFileInto {setting : Setting} {input directory path : Path}
    {name : String}
    (h : ((convertFileInto setting input directory name).outcome w).1 = .ok path) :
    let options := setting.options.withCompilationDir input.directory
    ∃ source, w.files.readText input = .ok source ∧
      WritesText { setting with options } source "" (exportPath directory name) w
        ((convertFileInto setting input directory name).outcome w).2 := by
  intro options
  rw [outcome_convertFileInto] at h ⊢
  cases hsource : w.files.readText input with
  | error e =>
      rw [hsource] at h
      cases h
  | ok source =>
      rw [hsource] at h
      dsimp only at h ⊢
      generalize hconverted : (convertText { setting with options } source).run w = converted at h ⊢
      have hwriting := (exportFile_writing converted.1 name directory converted.2).1
      refine ⟨source, rfl, ?_, ?_⟩ <;> rw [hconverted]
      · exact fetches_exportFile _ _ _ _
      · rw [String.append_empty]
        exact readText_of_writing hwriting (by rw [h]; rfl)

/-- A file that is converted by the subcommand reads as the text. -/
theorem writesText_of_convertFile {input : Path} {overwrite : Bool} {output : Option Path}
    {a : Arguments} :
    let c : Command := .convertFile input overwrite output a
    ((c.run s).run w).1.exitCode = 0 →
      ∃ options source directory name, (a.resolve.outcome w).1 = .ok options ∧
        w.files.readText input = .ok source ∧
        outputChoice input overwrite output = .ok (directory, name) ∧
        WritesText (c.setting s options) source "" (exportPath directory name) w
          ((c.run s).run w).2 := by
  intro c h
  obtain ⟨options, shown, hresolved, hshown, -, hafter⟩ := exists_of_run_ok h
  rw [hafter]
  rw [outcome_perform_convertFile, outcome_runConvertFile] at hshown ⊢
  cases hchoice : outputChoice input overwrite output with
  | error e =>
      rw [hchoice] at hshown
      cases hshown
  | ok choice =>
      obtain ⟨directory, name⟩ := choice
      rw [hchoice] at hshown
      dsimp only at hshown ⊢
      let setting : Setting := { options, fetcher := a.fetcher s, ids := s.ids }
      rcases hrun : (convertFileInto setting input directory name).outcome w with ⟨r, w'⟩
      rw [hrun] at hshown
      cases r with
      | error e => cases hshown
      | ok path =>
          obtain ⟨source, hsource, hwrites⟩ :=
            writesText_of_convertFileInto (congrArg Prod.fst hrun)
          rw [hrun] at hwrites
          exact ⟨options, source, directory, name, hresolved, hsource, rfl, hwrites⟩

/-- What is written to a file is what would be printed. -/
theorem written_of_convert {input : Option Path} {output : Path} {a : Arguments}
    (h : (((Command.convert input (some output) a).run s).run w).1.exitCode = 0) :
    ∃ options source text, (a.resolve.outcome w).1 = .ok options ∧
      sourceText s w.files input = .ok source ∧ IsTextOf options source text ∧
      (((Command.convert input (some output) a).run s).run w).2.files.readText output =
        .ok (text ++ "\n") := by
  obtain ⟨options, source, hresolved, hsource, hwrites⟩ := writesText_of_convert h
  exact ⟨options, source, _, hresolved, hsource, .intro _ _ _ w, hwrites.readText⟩

/-- A file that is converted beside its source reads as the text. -/
theorem written_of_convertFile {input : Path} {a : Arguments}
    (h : (((Command.convertFile input false none a).run s).run w).1.exitCode = 0) :
    ∃ options source text name, (a.resolve.outcome w).1 = .ok options ∧
      w.files.readText input = .ok source ∧ IsTextOf options source text ∧
      defaultOutputName input false = .ok name ∧
      (((Command.convertFile input false none a).run s).run w).2.files.readText
        (exportPath input.directory name) = .ok text := by
  obtain ⟨options, source, directory, name, hresolved, hsource, hchoice, hwrites⟩ :=
    writesText_of_convertFile h
  obtain ⟨rfl, hname⟩ := eq_of_outputChoice_none hchoice
  have hread := hwrites.readText
  rw [String.append_empty] at hread
  exact ⟨options, source, _, name, hresolved, hsource, .intro _ _ _ w, hname, hread⟩

end Commands

/-! ## All ways -/

theorem resolve_positional (given : List (Switch × String)) (positional : Option String) :
    Arguments.resolve { given, positional } = Arguments.resolve { given } := rfl

theorem mapError_eq_ok {ε ε' α : Type} {r : Except ε α} {f : ε → ε'} {a : α} :
    r.mapError f = .ok a ↔ r = .ok a := by
  cases r <;> simp [Except.mapError]

theorem sourceText_eq_ok {s : Surroundings} {files : FileSystem} {path : Path} {source : String} :
    sourceText s files (some path) = .ok source ↔ files.readText path = .ok source :=
  mapError_eq_ok

/-- A file that comes from the standard input is the same source. -/
theorem sourceText_of_readBytes {s : Surroundings} {files : FileSystem} {path : Path}
    {source : String} (hstdin : files.readBytes path = .ok s.input) :
    sourceText s files none = .ok source ↔ files.readText path = .ok source := by
  have hread : files.readText path = textOfBytes s.input := by
    unfold FileSystem.readText
    rw [hstdin]
    rfl
  rw [hread]
  exact mapError_eq_ok

/-- A command line that succeeds is not misused. -/
theorem ofArguments_ne_misuse {s : Surroundings} {args : List String} {w : World}
    (h : ((runCommandLine s args).run w).1.exitCode = 0) :
    Command.ofArguments args ≠ .error .misuse := by
  intro hmisuse
  unfold runCommandLine at h
  rw [hmisuse] at h
  cases h

/-- **All ways give one text.** A source is converted with flags in four ways: it is named and the
text is printed, or it comes from the standard input; it is named together with an output; or it is
converted beside itself. If all four succeed, and not by showing help, and no name of an image is
generated, what is printed twice and what the output reads as is one text with a line break behind
it, and without the line break the text is in the file beside the source. -/
theorem runCommandLine_one_text {args : List String} {given : List (Switch × String)}
    (hflags : SpellsFlags args given) (input output : String) (s₁ s₂ s₃ s₄ : Surroundings)
    (w : World) (hstdin : w.files.readBytes ⟨input⟩ = .ok s₂.input)
    (hnames : ∀ options source, ((Arguments.resolve { given }).outcome w).1 = .ok options →
      w.files.readText ⟨input⟩ = .ok source → KeepsAllNames options (Html.parseFragment source))
    (hasks : Command.ofArguments (subcommandName :: input :: args) ≠ .error .help) :
    let named := (runCommandLine s₁ (input :: args)).run w
    let piped := (runCommandLine s₂ args).run w
    let saved := (runCommandLine s₃ (input :: args ++ ["-o", output])).run w
    let beside := (runCommandLine s₄ (subcommandName :: input :: args)).run w
    named.1.exitCode = 0 → piped.1.exitCode = 0 → saved.1.exitCode = 0 → beside.1.exitCode = 0 →
      ∃ text name, named.1.output = text ++ "\n" ∧ piped.1.output = text ++ "\n" ∧
        saved.2.files.readText ⟨output⟩ = .ok (text ++ "\n") ∧
        defaultOutputName ⟨input⟩ false = .ok name ∧
        beside.2.files.readText (exportPath (Path.directory ⟨input⟩) name) = .ok text := by
  intro named piped saved beside hnamed hpiped hsaved hbeside
  have haccepted := hflags.accepted (ofArguments_ne_misuse hpiped)
  have hinput := hflags.isInput haccepted (ofArguments_ne_misuse hnamed)
    (ofArguments_ne_misuse hsaved) (ofArguments_ne_misuse hbeside) hasks
  have hargs₁ := hflags.ofArguments_input haccepted hinput
  have hargs₂ := hflags.ofArguments_flags haccepted
  have hargs₃ := (hflags.ofArguments_output haccepted hinput output).resolve_left
    (ofArguments_ne_misuse hsaved)
  have hargs₄ := hflags.ofArguments_beside haccepted hinput
  rw [show named = _ from congrArg (·.run w) (runCommandLine_of_ok s₁ hargs₁)] at hnamed ⊢
  rw [show piped = _ from congrArg (·.run w) (runCommandLine_of_ok s₂ hargs₂)] at hpiped ⊢
  rw [show saved = _ from congrArg (·.run w) (runCommandLine_of_ok s₃ hargs₃)] at hsaved ⊢
  rw [show beside = _ from congrArg (·.run w) (runCommandLine_of_ok s₄ hargs₄)] at hbeside ⊢
  obtain ⟨options, source, text, hoptions, hsource, htext, hprinted⟩ := output_of_convert hnamed
  obtain ⟨options₂, source₂, text₂, hoptions₂, hsource₂, htext₂, hprinted₂⟩ :=
    output_of_convert hpiped
  obtain ⟨options₃, source₃, text₃, hoptions₃, hsource₃, htext₃, hwritten₃⟩ :=
    written_of_convert hsaved
  obtain ⟨options₄, source₄, text₄, name, hoptions₄, hsource₄, htext₄, hname₄, hwritten₄⟩ :=
    written_of_convertFile hbeside
  -- All ways have the same options and the same source.
  rw [resolve_positional] at hoptions hoptions₄
  rw [resolve_withOutput given (some input) none output] at hoptions₃
  obtain rfl := Except.ok.inj (hoptions.symm.trans hoptions₂)
  obtain rfl := Except.ok.inj (hoptions.symm.trans hoptions₃)
  obtain rfl := Except.ok.inj (hoptions.symm.trans hoptions₄)
  rw [sourceText_eq_ok] at hsource hsource₃
  rw [sourceText_of_readBytes hstdin] at hsource₂
  obtain rfl := Except.ok.inj (hsource.symm.trans hsource₂)
  obtain rfl := Except.ok.inj (hsource.symm.trans hsource₃)
  obtain rfl := Except.ok.inj (hsource.symm.trans hsource₄)
  -- So there is only one text.
  have hkept := hnames options source hoptions hsource
  obtain rfl := htext.unique hkept htext₂
  obtain rfl := htext.unique hkept htext₃
  obtain rfl := htext.unique hkept htext₄
  exact ⟨text, name, hprinted, hprinted₂, hwritten₃, hname₄, hwritten₄⟩

/-- An image and a title. -/
theorem runCommandLine_one_text_image :
    let content := "<img src=a:/x.png>Hi"
    let files : FileSystem := { items := [(["p.html"], .file content.toUTF8)] }
    let s : Surroundings :=
      { input := content.toUTF8, transfer := .offline, ids := generatedId 0 }
    let args := ["--document", "--title=T", "--keep-image-names"]
    ∃ text, ((runCommandLine s ("p.html" :: args)).run { files }).1.output = text ++ "\n" ∧
      ((runCommandLine s args).run { files }).1.output = text ++ "\n" ∧
      ((runCommandLine s ("p.html" :: args ++ ["-o", "out/o.tex"])).run { files }).2.files.readText
        ⟨"out/o.tex"⟩ = .ok (text ++ "\n") ∧
      ((runCommandLine s (subcommandName :: "p.html" :: args)).run { files }).2.files.readText
        ⟨"./processed-p.tex"⟩ = .ok text := by
  intro content files s args
  have hdocument : ("document", document) ∈ commonNames := by simp [commonNames]
  have htitle : ("title", title) ∈ commonNames := by simp [commonNames]
  have hkeep : ("keep-image-names", keepImageNames) ∈ commonNames := by simp [commonNames]
  have hlast : SpellsFlags ["--" ++ "keep-image-names"] [(.keepImageNames, "")] :=
    .bare hkeep rfl .nil
  have htitled : SpellsFlags (("--" ++ "title" ++ "=" ++ "T") :: ["--keep-image-names"])
      [(.title, "T"), (.keepImageNames, "")] :=
    .attached htitle rfl hlast
  have hflags : SpellsFlags args [(.document, ""), (.title, "T"), (.keepImageNames, "")] :=
    .bare hdocument rfl htitled
  have hcontent : files.readText ⟨"p.html"⟩ = .ok content := by decide +kernel
  have hkept : ∀ source ∈ imageSources (Html.parseFragment content),
      (keptName? false source).isSome := by
    decide +kernel
  obtain ⟨text, name, hnamed, hpiped, hsaved, hname, hbeside⟩ :=
    runCommandLine_one_text hflags "p.html" "out/o.tex" s s s s { files } (by decide +kernel)
      (fun options source hoptions hsource => by
        cases hoptions
        cases hcontent.symm.trans hsource
        exact hkept)
      (by decide +kernel) (by decide +kernel) (by decide +kernel) (by decide +kernel)
      (by decide +kernel)
  obtain rfl : "processed-p" = name := by
    have hprocessed : defaultOutputName ⟨"p.html"⟩ false = .ok "processed-p" := by decide +kernel
    exact Except.ok.inj (hprocessed.symm.trans hname)
  exact ⟨text, hnamed, hpiped, hsaved, hbeside⟩

end HtmlToLatex
