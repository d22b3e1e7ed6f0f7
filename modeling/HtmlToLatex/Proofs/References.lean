import HtmlToLatex.Proofs.FrontEnds
import HtmlToLatex.Proofs.GeneratedNames
import HtmlToLatex.Proofs.SourceFiles

set_option autoImplicit false

/-! # References to images

The output shows an image by a reference, which is read from the directory of the output. If no
directory is given for the images, a command puts them beside its output, so that the references
lead to them. Only if the subcommand is told where to write, the images go beside the source
instead: `runCommandLine_references`. -/

namespace HtmlToLatex

open Conversion FileSystem

/-! ## Images beside a file -/

/-- The file of an image in the image directory of a directory. -/
def imageFile (home : Path) (name : String) : Path :=
  (home.join ⟨imagesName⟩).join ⟨name⟩

/-- What the output shows an image by. -/
def imageReference (name : String) : Path :=
  ⟨imagesName ++ "/" ++ name⟩

/-- In the file `tex` the reference of an image leads to the file at `destination`. -/
def Refers (files : FileSystem) (tex : Path) (name : String) (destination : Path) : Prop :=
  follow (files.placeOf tex).dropLast (namesOf (imageReference name)) = files.placeOf destination

instance (files : FileSystem) (tex : Path) (name : String) (destination : Path) :
    Decidable (Refers files tex name destination) :=
  inferInstanceAs (Decidable (_ = _))

theorem namesOf_imageReference {name : String} (hname : IsName name) :
    namesOf (imageReference name) = [imagesName, name] := by
  have hjoin : imageReference name = Path.join ⟨imagesName⟩ ⟨name⟩ := by
    have hslash : (imagesName.toList.getLast?.any (· ≠ '/')) = true := by decide
    rw [Path.join, if_neg (by simp [hname.isAbsolute_eq]), if_pos hslash]
    rfl
  rw [hjoin, namesOf_join hname]
  rfl

/-- References lead to the images if the image directory is where the file is. -/
theorem refers_imageFile_iff {files : FileSystem} {tex home : Path} {texName name : String}
    (htex : tex.fileName? = some texName) (hname : IsName name) :
    Refers files tex name (imageFile home name) ↔
      files.placeOf tex.directory = files.placeOf home := by
  rw [Refers, imageFile, placeOf_join _ _ hname, placeOf_join _ _ imagesName_isName,
    placeOf_of_fileName? _ htex, List.dropLast_concat, namesOf_imageReference hname, follow,
    List.foldl_cons, List.foldl_cons, List.foldl_nil, towards_of_isName imagesName_isName,
    towards_of_isName hname, List.append_left_inj, List.append_left_inj]

/-! ## Commands -/

/-- The output of the subcommand is in the directory of the file that is named for it, or else in
    that of the source. -/
theorem directory_of_target? {input tex : Path} {overwrite : Bool} {output : Option Path}
    {a : Arguments} (h : (Command.convertFile input overwrite output a).target? = some tex) :
    tex.directory = (output.getD input).directory := by
  obtain ⟨⟨directory, name⟩, hchoice, rfl⟩ := Option.map_eq_some_iff.1 h
  have hplace : directory = (output.getD input).directory ∧ '/' ∉ name.toList := by
    cases output with
    | some output => exact explicitOutput_spec (eq_ok_of_mem_toOption hchoice)
    | none =>
        obtain ⟨hdirectory, hname⟩ := eq_of_outputChoice_none (eq_ok_of_mem_toOption hchoice)
        exact ⟨hdirectory, noSlash_of_defaultOutputName hname⟩
  rw [hplace.1]
  exact Path.directory_join_directory _ (exportName_isName hplace.2)

/-- Where a command puts the image directory if no directory is given for it. -/
def Command.imageHome (tex : Path) : Command → Path
  | .convert _ _ _ => tex.directory
  | .convertFile input _ _ _ => input.directory

section Runs

variable {s : Surroundings} {c : Command} {tex : Path} {options : Options} {w : World}

/-- The image directory is beside the output, unless the subcommand is told where to write. -/
theorem imageHome_eq_directory (htarget : c.target? = some tex)
    (hbeside : ∀ input overwrite output a, c ≠ .convertFile input overwrite (some output) a) :
    c.imageHome tex = tex.directory := by
  cases c with
  | convert input output a => rfl
  | convertFile input overwrite output a =>
      cases output with
      | none => exact (directory_of_target? htarget).symm
      | some output => exact absurd rfl (hbeside input overwrite output a)

theorem imageDirectory_setting (htarget : c.target? = some tex)
    (hunset : options.compilationDir = none) (source : String) :
    imageDirectory ((c.setting s options).inferring source).options =
      (c.imageHome tex).join ⟨imagesName⟩ := by
  have hdir : (c.settledOptions options).compilationDir = some (c.imageHome tex) := by
    cases c with
    | convert input output a =>
        obtain rfl : output = some tex := htarget
        simp [Command.settledOptions, Command.imageHome, hunset]
    | convertFile input overwrite output a =>
        simp [Command.settledOptions, Options.withCompilationDir, Command.imageHome, hunset]
  change ((c.settledOptions options).compilationDir.getD ⟨""⟩).join _ = _
  rw [hdir]
  rfl

/-- A command that succeeds writes the text of its source to its target. -/
theorem writesText_of_target? (hoptions : (c.arguments.resolve.outcome w).1 = .ok options)
    (htarget : c.target? = some tex) (hok : ((c.run s).run w).1.exitCode = 0) :
    ∃ source ending, sourceText s w.files c.input? = .ok source ∧
      WritesText (c.setting s options) source ending tex w ((c.run s).run w).2 := by
  cases c with
  | convert input output a =>
      obtain rfl : output = some tex := htarget
      obtain ⟨options', source, hoptions', hsource, hwrites⟩ := writesText_of_convert hok
      obtain rfl := Except.ok.inj (hoptions.symm.trans hoptions')
      exact ⟨source, "\n", hsource, hwrites⟩
  | convertFile input overwrite output a =>
      obtain ⟨options', source, directory, name, hoptions', hsource, hchoice, hwrites⟩ :=
        writesText_of_convertFile hok
      obtain rfl := Except.ok.inj (hoptions.symm.trans hoptions')
      obtain ⟨⟨directory', name'⟩, hchoice', rfl⟩ := Option.map_eq_some_iff.1 htarget
      cases hchoice.symm.trans (eq_ok_of_mem_toOption hchoice')
      exact ⟨source, "", sourceText_eq_ok.2 hsource, hwrites⟩

/-- **References lead to the images.** A run that succeeds in writing a file, while no directory is
given for the images, shows each image by a reference to its name, and all that it asks for are the
files of these images. They are in the image directory beside the output, where the references lead.
But if the subcommand is told where to write, they are beside the source, and the references lead
there just if the output is in the directory of the source. -/
theorem runCommandLine_references (hids : ∀ n, IsId (s.ids n)) {args : List String}
    (hargs : Command.ofArguments args = .ok c) (htarget : c.target? = some tex)
    (hoptions : (c.arguments.resolve.outcome w).1 = .ok options)
    (hunset : options.compilationDir = none)
    (hok : ((runCommandLine s args).run w).1.exitCode = 0) :
    let after := ((runCommandLine s args).run w).2
    ∃ source ending, sourceText s w.files c.input? = .ok source ∧
      let setting := (c.setting s options).inferring source
      let nodes := Html.parseFragment source
      let images := turns setting nodes w
      after.files.readText tex = .ok (((convert setting nodes).run w).1 ++ ending) ∧
      after.fetches = w.fetches ++ images.filterMap (Turn.request? setting) ∧
      ∀ image ∈ images,
        let name := image.name setting
        let asksFor (destination : Path) : Prop :=
          ∀ request ∈ image.request? setting, request.destination = destination
        ((convertSource setting image.source).run image.world).1 =
          Latex.image (imageReference name).text (imageLayout setting.options) ∧
        ((∀ input overwrite output a, c ≠ .convertFile input overwrite (some output) a) →
          let destination := imageFile tex.directory name
          asksFor destination ∧ Refers w.files tex name destination) ∧
        ∀ input overwrite output a, c = .convertFile input overwrite (some output) a →
          let destination := imageFile input.directory name
          asksFor destination ∧ (Refers w.files tex name destination ↔
            w.files.placeOf output.directory = w.files.placeOf input.directory) := by
  rw [runCommandLine_of_ok s hargs] at hok ⊢
  obtain ⟨source, ending, hsource, hwrites⟩ := writesText_of_target? hoptions htarget hok
  obtain ⟨content, hcontent⟩ := readBytes_of_readText hwrites.readText
  obtain ⟨texName, htex⟩ := exists_fileName?_of_readBytes hcontent
  refine ⟨source, ending, hsource, hwrites.readText, ?_, fun image _ => ?_⟩
  · rw [hwrites.fetches, convertText_eq, fetches_convert]
  intro name asksFor
  have hname : IsName name := localName_isName _ _ (hids _)
  have hasks : asksFor (imageFile (c.imageHome tex) name) := by
    intro request hrequest
    rw [Turn.destination_of_request? hrequest, Turn.destination, imagePath,
      imageDirectory_setting htarget hunset]
    rfl
  have hrefers (home : Path) : Refers w.files tex name (imageFile home name) ↔
      w.files.placeOf tex.directory = w.files.placeOf home :=
    refers_imageFile_iff htex hname
  refine ⟨by rw [run_convertSource]; rfl, fun hbeside => ?_, fun input overwrite output a hc => ?_⟩
  · rw [imageHome_eq_directory htarget hbeside] at hasks
    exact ⟨hasks, (hrefers tex.directory).2 rfl⟩
  · subst hc
    have hhome := directory_of_target? htarget
    rw [Option.getD_some] at hhome
    rw [← hhome]
    exact ⟨hasks, hrefers input.directory⟩

end Runs

/-- The image is beside the output, in another directory than the source. -/
theorem runCommandLine_references_output :
    let content := "<img src=http://[::1]/x.png>"
    let files : FileSystem := { items := [(["p.html"], .file content.toUTF8)] }
    let s : Surroundings := { transfer := .storing "new", ids := generatedId 0 }
    let run := (runCommandLine s ["p.html", "--keep-image-names", "-o", "out/o.tex"]).run { files }
    run.2.fetches.map (·.destination) = [⟨"out/images/x.png"⟩] ∧
      ∀ request ∈ run.2.fetches, ∃ name, request.destination = imageFile ⟨"out"⟩ name ∧
        Refers files ⟨"out/o.tex"⟩ name request.destination := by
  intro content files s run
  have hargs : Command.ofArguments ["p.html", "--keep-image-names", "-o", "out/o.tex"] =
      .ok (.convert (some ⟨"p.html"⟩) (some ⟨"out/o.tex"⟩)
        { given := [(.keepImageNames, ""), (.output, "out/o.tex")]
          positional := some "p.html" }) := by
    decide +kernel
  have hids : ∀ n, IsId (s.ids n) := generatedId_isId 0
  have hok : run.1.exitCode = 0 := by decide +kernel
  obtain ⟨source, ending, -, -, hfetches, himages⟩ :=
    runCommandLine_references hids hargs rfl rfl rfl hok
  refine ⟨by decide +kernel, fun request hrequest => ?_⟩
  rw [show run.2.fetches = _ from hfetches, List.nil_append] at hrequest
  obtain ⟨image, himage, hasked⟩ := List.mem_filterMap.1 hrequest
  obtain ⟨-, hbeside, -⟩ := himages image himage
  obtain ⟨hasks, hrefers⟩ := hbeside nofun
  have hdestination := hasks request hasked
  exact ⟨_, hdestination, hdestination ▸ hrefers⟩

/-- The output is written elsewhere than the source is, so its reference leads to no image. -/
theorem runCommandLine_refers_astray :
    let content := "<img src=http://[::1]/x.png>"
    let files : FileSystem :=
      { items := [(["in"], .directory), (["in", "p.html"], .file content.toUTF8)] }
    let s : Surroundings := { transfer := .storing "new", ids := generatedId 0 }
    let args := ["convert-file", "in/p.html", "--keep-image-names", "--output-file-path",
      "out/r.tex"]
    let run := (runCommandLine s args).run { files }
    (∀ c, Command.ofArguments args = .ok c → c.target? = some ⟨"out/r.tex"⟩ ∧
      (c.arguments.resolve.outcome { files }).1.toOption.map Options.compilationDir = some none) ∧
      run.1.exitCode = 0 ∧ run.2.files.existsAt ⟨"out/r.tex"⟩ = true ∧
      run.2.fetches.map (·.destination) = [imageFile ⟨"in"⟩ "x.png"] ∧
      imageFile (Path.directory ⟨"out/r.tex"⟩) "x.png" ≠ imageFile ⟨"in"⟩ "x.png" ∧
      ¬Refers files ⟨"out/r.tex"⟩ "x.png" (imageFile ⟨"in"⟩ "x.png") := by
  intro content files s args run
  have hargs : Command.ofArguments args = .ok (.convertFile ⟨"in/p.html"⟩ false
      (some ⟨"out/r.tex"⟩)
      { given := [(.keepImageNames, ""), (.outputPath, "out/r.tex")]
        positional := some "in/p.html" }) := by
    decide +kernel
  refine ⟨fun c hc => ?_, by decide +kernel, by decide +kernel, by decide +kernel,
    by decide +kernel, by decide +kernel⟩
  cases hargs.symm.trans hc
  exact ⟨by decide +kernel, by decide +kernel⟩

end HtmlToLatex
