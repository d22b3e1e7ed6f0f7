import HtmlToLatex.Proofs.Attempts
import HtmlToLatex.Proofs.Footprint
import HtmlToLatex.Proofs.Reading

set_option autoImplicit false

/-! # What runs leave behind

The one file that a run writes besides images comes last, `Published`: until then there are images
in the image directory and directories where there was nothing, and if the run fails, that is all:
`runCommandLine_publishes_nothing`. -/

namespace HtmlToLatex

open FileSystem

/-! ## Before the output -/

/-- Images are provided, and directories are made. -/
inductive Prepared (images : Path) (initial files : FileSystem) : Prop where
  | intro (provided : FileSystem) (hsupplied : Supplied images initial Set.univ provided)
      (hadds : AddsDirectories (fun _ => True) provided files)

variable {images : Path} {initial files after : FileSystem}

namespace Prepared

theorem refl (images : Path) (files : FileSystem) : Prepared images files files :=
  ⟨files, .untouched rfl, .refl _ _⟩

theorem workingDirectory (h : Prepared images initial files) :
    files.workingDirectory = initial.workingDirectory := by
  obtain ⟨provided, hsupplied, hadds⟩ := h
  exact hadds.workingDirectory.trans hsupplied.workingDirectory

theorem keepsDirectories (h : Prepared images initial files) : KeepsDirectories initial files := by
  obtain ⟨provided, hsupplied, hadds⟩ := h
  exact fun place hplace =>
    hadds.keepsDirectories place (hsupplied.keepsDirectories place hplace)

theorem file_cases (h : Prepared images initial files) {place : Location} {content : ByteArray}
    (hfile : initial.item? place = some (.file content)) :
    files.item? place = some (.file content) ∨ Uncovered initial images place := by
  obtain ⟨provided, hsupplied, hadds⟩ := h
  refine (hsupplied.file_cases hfile).imp_left fun hkept => ?_
  rcases hadds.item place with hsame | ⟨hnone, -⟩
  · rw [hsame, hkept]
  · cases hnone.symm.trans hkept

theorem old_or_stored (h : Prepared images initial files) {place : Location} {content : ByteArray}
    (hfile : files.item? place = some (.file content)) :
    initial.item? place = some (.file content) ∨ ∃ name, Within initial images place name := by
  obtain ⟨provided, hsupplied, hadds⟩ := h
  rcases hadds.item place with hsame | ⟨-, hdirectory, -⟩
  · rw [hsame] at hfile
    exact (hsupplied.old_or_stored hfile).imp_right fun ⟨name, _, hwithin⟩ => ⟨name, hwithin⟩
  · cases hdirectory.symm.trans hfile

end Prepared

/-! ## The output -/

/-- The files after a run, and the path of the output if it was written. -/
inductive Published (images : Path) (initial : FileSystem) : Option Path → FileSystem → Prop where
  | kept {after : FileSystem} (h : Prepared images initial after) :
      Published images initial none after
  | written {made after : FileSystem} {path : Path} {text : String}
      (h : Prepared images initial made) (hwrite : made.writeText path text = .ok after) :
      Published images initial (some path) after

namespace Published

variable {output? : Option Path}

theorem of_writing {path : Path} {text : String} {done : Bool}
    (hsupplied : Supplied images initial Set.univ files)
    (hwriting : Writing path text files done after) :
    Published images initial (if done then some path else none) after := by
  cases hwriting with
  | failed hadds => exact .kept ⟨files, hsupplied, hadds⟩
  | written hadds hwrite => exact .written ⟨files, hsupplied, hadds⟩ hwrite

theorem workingDirectory (h : Published images initial output? after) :
    after.workingDirectory = initial.workingDirectory := by
  cases h with
  | kept h => exact h.workingDirectory
  | written h hwrite => exact (writeText_touches hwrite).workingDirectory.trans h.workingDirectory

theorem keepsDirectories (h : Published images initial output? after) :
    KeepsDirectories initial after := by
  cases h with
  | kept h => exact h.keepsDirectories
  | written h hwrite =>
      exact fun place hplace =>
        (writeText_touches hwrite).keepsDirectories place (h.keepsDirectories place hplace)

/-- Files stay as they were, except for the output. -/
theorem file_cases (h : Published images initial output? after) {place : Location}
    {content : ByteArray} (hfile : initial.item? place = some (.file content)) :
    after.item? place = some (.file content) ∨ Uncovered initial images place ∨
      ∃ path ∈ output?, place = initial.placeOf path := by
  cases h with
  | kept h => exact (h.file_cases hfile).imp_right .inl
  | written h hwrite =>
      rename_i made path text
      rcases h.file_cases hfile with hkept | huncovered
      · rcases (writeText_touches hwrite).item place with hsame | ⟨hplace, -⟩
        · exact .inl (hsame.trans hkept)
        · refine .inr (.inr ⟨path, rfl, ?_⟩)
          rw [← placeOf_of_fileToWrite hplace, placeOf_congr h.workingDirectory]
      · exact .inr (.inl huncovered)

end Published

/-! ## Runs -/

section Runs

theorem exists_of_reportOf_failed {options : Options} {logged : List String}
    {r : Except ConversionError (String × List String)}
    (h : (reportOf options logged r).exitCode = 1) : ∃ e, r = .error e := by
  cases r with
  | error e => exact ⟨e, rfl⟩
  | ok shown => cases h

theorem Fetcher.offline_confined : Fetcher.offline.Confined := fun _ _ _ => .refl _ _

theorem Arguments.fetcher_confined (a : Arguments) {s : Surroundings}
    (htransfer : s.transfer.Confined) : (a.fetcher s).Confined := by
  unfold Arguments.fetcher
  split
  · exact Fetcher.offline_confined
  · intro earlier request files
    unfold Fetcher.web
    split
    · exact htransfer earlier request files
    · exact .refl _ _

/-- A file that is converted is published under the path that is returned. -/
theorem convertFileInto_published (setting : Setting) (hfetcher : setting.fetcher.Confined)
    (hids : ∀ n, IsId (setting.ids n)) (input directory : Path) (name : String) (w : World) :
    let run := (convertFileInto setting input directory name).outcome w
    let images := imageDirectory (setting.options.withCompilationDir input.directory)
    Published images w.files run.1.toOption run.2.files ∧
      ∀ path ∈ run.1.toOption, path = exportPath directory name := by
  intro run images
  subst run
  rw [outcome_convertFileInto]
  split
  · exact ⟨.kept (.refl _ _), nofun⟩
  next source _ =>
    have hsupplied := convertText_supplied
      { setting with options := setting.options.withCompilationDir input.directory } hfetcher hids
      source w
    dsimp only
    generalize convertText _ source = conversion at hsupplied ⊢
    obtain ⟨hwriting, hpath⟩ :=
      exportFile_writing (conversion.run w).1 name directory (conversion.run w).2
    refine ⟨?_, hpath⟩
    have hpublished := Published.of_writing hsupplied hwriting
    revert hpath hpublished
    rcases (exportFile (conversion.run w).1 name directory).outcome (conversion.run w).2 with
      ⟨r, w'⟩
    cases r with
    | error e => exact fun _ hpublished => hpublished
    | ok path =>
        intro hpath hpublished
        obtain rfl := hpath path rfl
        exact hpublished

variable (s : Surroundings) (htransfer : s.transfer.Confined) (hids : ∀ n, IsId (s.ids n))

include htransfer hids

theorem runConvert_supplied (input imageHome : Option Path) (a : Arguments) (options : Options)
    (w : World) :
    let compilationDir := options.compilationDir.or imageHome
    Supplied (imageDirectory { options with compilationDir }) w.files Set.univ
      ((runConvert s input imageHome a options).outcome w).2.files := by
  intro compilationDir
  rw [outcome_runConvert]
  split
  · exact .untouched rfl
  next source _ =>
    have hsupplied := convertText_supplied
      { options := { options with compilationDir }, fetcher := a.fetcher s, ids := s.ids }
      (a.fetcher_confined htransfer) hids source w
    dsimp only at hsupplied ⊢
    generalize (convertText _ source).run w = converted at hsupplied ⊢
    exact hsupplied

theorem perform_convert_published (input output : Option Path) (a : Arguments) (options : Options)
    (w : World) :
    let command : Command := .convert input output a
    let run := (command.perform s options).outcome w
    Published (imageDirectory (command.settledOptions options)) w.files
      (run.1.toOption.bind fun _ => command.target?) run.2.files := by
  intro command run
  subst run
  have hsupplied :=
    runConvert_supplied s htransfer hids input (output.map Path.directory) a options w
  rw [outcome_perform_convert]
  rcases hrun : (runConvert s input (output.map Path.directory) a options).outcome w with ⟨r, w'⟩
  rw [hrun] at hsupplied
  cases r with
  | error e => exact .kept ⟨_, hsupplied, .refl _ _⟩
  | ok text =>
      cases output with
      | none => exact .kept ⟨_, hsupplied, .refl _ _⟩
      | some path =>
          have hpublished := Published.of_writing hsupplied (writeResult_writing path text w')
          dsimp only
          rcases hwritten : (writeResult path text).outcome w' with ⟨r, w''⟩
          rw [hwritten] at hpublished
          cases r <;> exact hpublished

theorem perform_convertFile_published (input : Path) (overwrite : Bool) (output : Option Path)
    (a : Arguments) (options : Options) (w : World) :
    let command : Command := .convertFile input overwrite output a
    let run := (command.perform s options).outcome w
    Published (imageDirectory (command.settledOptions options)) w.files
      (run.1.toOption.bind fun _ => command.target?) run.2.files := by
  intro command run
  subst run
  rw [outcome_perform_convertFile, outcome_runConvertFile]
  cases hchoice : outputChoice input overwrite output with
  | error e => exact .kept (.refl _ _)
  | ok choice =>
      obtain ⟨directory, name⟩ := choice
      have htarget : command.target? = some (exportPath directory name) := by
        change (outputChoice input overwrite output).toOption.map _ = _
        rw [hchoice]
        rfl
      let setting : Setting := { options, fetcher := a.fetcher s, ids := s.ids }
      obtain ⟨hpublished, hpath⟩ := convertFileInto_published setting
        (a.fetcher_confined htransfer) hids input directory name w
      rw [htarget]
      dsimp only at hpublished hpath ⊢
      rcases hrun : (convertFileInto setting input directory name).outcome w with ⟨r, w'⟩
      rw [hrun] at hpublished hpath
      cases r with
      | error e => exact hpublished
      | ok path =>
          obtain rfl := hpath path rfl
          exact hpublished

/-- A command publishes its output if it succeeds. -/
theorem Command.perform_published (c : Command) (options : Options) (w : World) :
    let run := (c.perform s options).outcome w
    Published (imageDirectory (c.settledOptions options)) w.files
      (run.1.toOption.bind fun _ => c.target?) run.2.files := by
  cases c with
  | convert input output a =>
      exact perform_convert_published s htransfer hids input output a options w
  | convertFile input overwrite output a =>
      exact perform_convertFile_published s htransfer hids input overwrite output a options w

/-! ## Runs that fail -/

/-- **A failed run publishes nothing.** When a command line that is accepted ends in a failure,
nothing is printed and all directories stay. If the options could not be had, nothing has changed at
all. Otherwise the files stay as they were, except that one in the image directory may be brought to
light and replaced if the path of the directory steps back, and new files are images in the image
directory. -/
theorem runCommandLine_publishes_nothing (args : List String) (c : Command) (w : World)
    (hfiles : w.files.WellFormed) (hargs : Command.ofArguments args = .ok c)
    (hfailed : ((runCommandLine s args).run w).1.exitCode = 1) :
    let report := ((runCommandLine s args).run w).1
    let after := ((runCommandLine s args).run w).2.files
    report.output = "" ∧ KeepsDirectories w.files after ∧
      (∀ e, (c.arguments.resolve.outcome w).1 = .error e → after = w.files) ∧
      ∀ options, (c.arguments.resolve.outcome w).1 = .ok options →
        let images := imageDirectory (c.settledOptions options)
        (∀ place content, w.files.item? place = some (.file content) →
          after.item? place = some (.file content) ∨
            (Uncovered w.files images place ∧ ".." ∈ namesOf images)) ∧
        (∀ place content, after.item? place = some (.file content) →
          w.files.item? place = some (.file content) ∨
            ∃ name, Within w.files images place name) := by
  rw [runCommandLine_of_ok s hargs, run_command] at hfailed ⊢
  cases hresolved : (c.arguments.resolve.outcome w).1 with
  | error e =>
      refine ⟨rfl, fun _ hplace => hplace, fun _ _ => rfl, fun _ hoptions => ?_⟩
      cases hoptions
  | ok options =>
      rw [hresolved] at hfailed
      obtain ⟨e, hrun⟩ := exists_of_reportOf_failed hfailed
      have hpublished := c.perform_published s htransfer hids options w
      dsimp only at hpublished ⊢
      rw [hrun] at hpublished ⊢
      cases hpublished with
      | kept h =>
          refine ⟨rfl, h.keepsDirectories, fun _ herror => ?_, fun _ hoptions => ?_⟩
          · cases herror
          cases hoptions
          refine ⟨fun place content hfile => ?_, fun place content => h.old_or_stored⟩
          exact (h.file_cases hfile).imp_right fun hlight => ⟨hlight, hlight.mem_namesOf hfiles⟩

end Runs

/-- The image is stored before it turns out that the output cannot be written. -/
theorem runCommandLine_publishes_nothing_blocked :
    let source := "<img src=http://[::1]/x.png>"
    let files : FileSystem :=
      { items := [(["p.html"], .file source.toUTF8), (["f"], .file "old".toUTF8)] }
    let s : Surroundings := { transfer := .storing "new", ids := generatedId 0 }
    let args := ["p.html", "--images-dir", "out", "--output", "f/x.tex"]
    let run := (runCommandLine s args).run { files }
    run.1.exitCode = 1 ∧ run.1.output = "" ∧
      run.2.files.item? ["f"] = some (.file "old".toUTF8) := by
  intro source files s args run
  have hfiles : files.WellFormed := .of_items (by simp [files, item?])
  have hargs : Command.ofArguments args = .ok (.convert (some ⟨"p.html"⟩) (some ⟨"f/x.tex"⟩)
      { given := [(.imagesDir, "out"), (.output, "f/x.tex")], positional := some "p.html" }) := by
    decide +kernel
  have hfailed : run.1.exitCode = 1 := by decide +kernel
  obtain ⟨houtput, -, -, hkept⟩ := runCommandLine_publishes_nothing s
    (Fetcher.storing_confined "new") (generatedId_isId 0) args _ { files } hfiles hargs hfailed
  obtain ⟨hkept, -⟩ := hkept { compilationDir := some ⟨"out"⟩ } rfl
  refine ⟨hfailed, houtput, (hkept ["f"] _ rfl).resolve_right fun hlight => ?_⟩
  exact absurd hlight.2 (by decide +kernel)

/-- The path of the image directory steps back from a missing directory. So the image in it is
    replaced, although the output cannot be written afterwards. -/
theorem runCommandLine_replaces_hidden :
    let source := "<img src=http://[::1]/x.png>"
    let files : FileSystem :=
      { items := [(["p.html"], .file source.toUTF8), (["f"], .file "old".toUTF8),
          (["out"], .directory), (["out", "images"], .directory),
          (["out", "images", "x.png"], .file "old".toUTF8)] }
    let s : Surroundings := { transfer := .storing "new", ids := generatedId 0 }
    let args :=
      ["p.html", "--keep-image-names", "--images-dir", "missing/../out", "--output", "f/x.tex"]
    let run := (runCommandLine s args).run { files }
    files.WellFormed ∧ s.transfer.Confined ∧ (∀ n, IsId (s.ids n)) ∧
      (Command.ofArguments args).isOk = true ∧ run.1.exitCode = 1 ∧
      files.readText ⟨"out/images/x.png"⟩ = .ok "old" ∧
      run.2.files.readText ⟨"out/images/x.png"⟩ ≠ .ok "old" := by
  intro source files s args run
  have hfiles : files.WellFormed := .of_items (by simp [files, item?, List.lookup_cons])
  exact ⟨hfiles, Fetcher.storing_confined "new", generatedId_isId 0, by decide +kernel,
    by decide +kernel, by decide +kernel, by decide +kernel⟩

end HtmlToLatex
