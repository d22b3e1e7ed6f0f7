import HtmlToLatex.Proofs.Publication

set_option autoImplicit false

/-! # Source files are kept

A file is converted to one of another name, whichever way the name is chosen: it never has the
extension `tex` added to itself and is never marked by `processed-`. Images do not get in the way
of it, either, since the directory of a source that can be read does not bring anything to light. So
a source is kept unless it is to be overwritten, `convertFile_keeps_source`. -/

namespace HtmlToLatex

open FileSystem

/-! ## Names of outputs -/

/-- A name that is exported is one name. -/
theorem exportName_isName {name : String} (hname : '/' ∉ name.toList) :
    IsName (name ++ "." ++ texExtension) := by
  have hlength : 4 ≤ (name ++ "." ++ texExtension).toList.length := by
    simp [texExtension]
  refine ⟨?_, by simp [texExtension, hname], ?_, ?_⟩ <;>
    · intro heq
      rw [heq] at hlength
      exact absurd hlength (by decide)

/-- A name is split at its last dot. -/
theorem splitName_append {base ext : List Char} (hbase : base ≠ []) (hext : '.' ∉ ext)
    (hext' : ext ≠ []) : Path.splitName (base ++ '.' :: ext) = (base, some ext) := by
  obtain ⟨c, front, hfront⟩ := List.exists_cons_of_ne_nil (List.reverse_ne_nil_iff.2 hbase)
  have hreverse : (base ++ '.' :: ext).reverse = ext.reverse ++ '.' :: c :: front := by
    rw [List.reverse_append, List.reverse_cons, hfront, List.append_assoc]
    rfl
  have hall : ∀ d ∈ ext.reverse, decide (d ≠ '.') = true := by
    intro d hd
    simpa using fun heq : d = '.' => hext (heq ▸ List.mem_reverse.1 hd)
  have hdots : base ++ '.' :: ext ≠ ['.', '.'] := by
    intro heq
    have hlength := congrArg List.length heq
    have hbase' := List.length_pos_iff.2 hbase
    have hext'' := List.length_pos_iff.2 hext'
    simp at hlength
    omega
  unfold Path.splitName
  rw [if_neg hdots, hreverse, List.takeWhile_append_of_pos hall, List.dropWhile_append_of_pos hall,
    List.takeWhile_cons_of_neg (by decide), List.dropWhile_cons_of_neg (by decide)]
  dsimp only
  rw [List.append_nil, List.reverse_reverse, ← hfront, List.reverse_reverse]

/-- What stands before the last dot of a name is part of it. -/
theorem splitName_fst_subset (name : List Char) : (Path.splitName name).1 ⊆ name := by
  unfold Path.splitName
  split
  · exact List.Subset.refl _
  · dsimp only
    split
    next front _ hdrop =>
      intro c hc
      have hsuffix := List.dropWhile_suffix (l := name.reverse) (· ≠ '.')
      rw [hdrop] at hsuffix
      exact List.mem_reverse.1 (hsuffix.subset (List.mem_cons_of_mem _ (List.mem_reverse.1 hc)))
    · exact List.Subset.refl _

/-- A file is never exported to its own name. -/
theorem fileName?_ne_export {input : Path} {name : String} (h : input.fileName? = some name) :
    input.fileName? ≠ some (name ++ "." ++ texExtension) := by
  rw [h]
  intro heq
  have hlength := congrArg (fun s => s.toList.length) (Option.some.inj heq)
  simp [texExtension] at hlength

/-- The mark keeps the name of the output apart from that of the source. -/
theorem fileName?_ne_processed {input : Path} {name : String}
    (h : defaultOutputName input false = .ok name) :
    input.fileName? ≠ some (name ++ "." ++ texExtension) := by
  intro heq
  obtain ⟨chars, hchars, heq⟩ := Option.map_eq_some_iff.1 heq
  have hsplit : chars = name.toList ++ '.' :: texExtension.toList := by
    have hlists := congrArg String.toList heq
    rw [String.toList_ofList] at hlists
    rw [hlists]
    simp
  unfold defaultOutputName at h
  rw [Path.stem?, hchars, Option.map_some] at h
  have hname : name = processedMark ++ String.ofList (Path.splitName chars).1 :=
    (Except.ok.inj h).symm
  have hne : name.toList ≠ [] := by
    rw [hname]
    simp [processedMark]
  rw [hsplit, splitName_append hne (by decide) (by decide), String.ofList_toList] at hname
  have hlength := congrArg (fun s => s.toList.length) hname
  simp [processedMark] at hlength
  omega

/-! ## Files that are spared -/

theorem noSlash_of_stem? {p : Path} {stem : String} (h : p.stem? = some stem) :
    '/' ∉ stem.toList := by
  obtain ⟨chars, hchars, rfl⟩ := Option.map_eq_some_iff.1 h
  have hfile : p.fileName? = some (String.ofList chars) := by
    rw [Path.fileName?, hchars, Option.map_some]
  have hslash : '/' ∉ chars := by simpa using (Path.fileName?_spec hfile).1.noSlash
  simpa using fun hmem => hslash (splitName_fst_subset chars hmem)

theorem noSlash_of_defaultOutputName {input : Path} {overwrite : Bool} {name : String}
    (h : defaultOutputName input overwrite = .ok name) : '/' ∉ name.toList := by
  unfold defaultOutputName at h
  cases hstem : input.stem? with
  | none =>
      rw [hstem] at h
      cases h
  | some stem =>
      rw [hstem] at h
      cases h
      have hslash := noSlash_of_stem? hstem
      cases overwrite with
      | false => simpa [processedMark] using hslash
      | true => exact hslash

/-- An output that is named is written to its directory. -/
theorem explicitOutput_spec {output directory : Path} {name : String}
    (h : explicitOutput output = .ok (directory, name)) :
    directory = output.directory ∧ '/' ∉ name.toList := by
  unfold explicitOutput at h
  split at h
  next found hname =>
    cases h
    refine ⟨rfl, ?_⟩
    split at hname
    · exact noSlash_of_stem? hname
    · exact (Path.fileName?_spec hname).1.noSlash
  · cases h

/-- Files stay as they were, apart from the output and from those that making the image directory
    brings to light. The source is none of the output. -/
structure Spares (images? : Option Path) (output : Path → Prop) (input : Path)
    (before after : FileSystem) : Prop where
  files : ∀ place content, before.item? place = some (.file content) →
    after.item? place = some (.file content) ∨
      (∃ images ∈ images?, Uncovered before images place ∧ ".." ∈ namesOf images) ∨
      ∃ path, output path ∧ place = before.placeOf path
  source : ∀ content, before.readBytes input = .ok content →
    after.readBytes input = .ok content ∨
      ∃ images ∈ images?, Uncovered before images (before.placeOf input) ∧ ".." ∈ namesOf images

section Spares

variable {images : Path} {images? output? : Option Path} {output : Path → Prop} {input : Path}
  {before after : FileSystem}

theorem Spares.refl (images? : Option Path) (output : Path → Prop) (input : Path)
    (files : FileSystem) : Spares images? output input files files :=
  ⟨fun _ _ hfile => .inl hfile, fun _ hcontent => .inl hcontent⟩

theorem Published.spares (h : Published images before output? after) (hfiles : before.WellFormed)
    (input : Path)
    (houtput : ∀ path ∈ output?, ∃ directory name, path = exportPath directory name ∧
      '/' ∉ name.toList ∧ input.fileName? ≠ some (name ++ "." ++ texExtension)) :
    Spares (some images) (· ∈ output?) input before after := by
  refine ⟨fun place content hfile => ?_, fun content hcontent => ?_⟩
  · rcases h.file_cases hfile with hkept | hlight | hwritten
    · exact .inl hkept
    · exact .inr (.inl ⟨images, rfl, hlight, hlight.mem_namesOf hfiles⟩)
    · exact .inr (.inr hwritten)
  · obtain ⟨front, dir, last, hopens, hitem⟩ := readBytes_eq_ok.1 hcontent
    have hplace : before.placeOf input = dir ++ [last] := placeOf_of_fileToWrite hopens.fileToWrite
    rcases h.file_cases hitem with hkept | hlight | ⟨path, hpath, hwritten⟩
    · exact .inl (hopens.readBytes_eq h.workingDirectory h.keepsDirectories hkept)
    · exact .inr ⟨images, rfl, hplace ▸ hlight, hlight.mem_namesOf hfiles⟩
    · -- The output would have the name of the source.
      obtain ⟨directory, name, rfl, hslash, hne⟩ := houtput path hpath
      rw [exportPath, placeOf_join _ _ (exportName_isName hslash)] at hwritten
      obtain ⟨-, hlast⟩ := List.append_inj' hwritten rfl
      have hname := fileName?_of_namesOf hopens.names hopens.lookedUp
      rw [(List.cons.inj hlast).1] at hname
      exact absurd hname hne

/-- Fewer files are spared if more directories may be made, or more outputs written. -/
theorem Spares.mono {images?' : Option Path} {output' : Path → Prop}
    (h : Spares images? output input before after)
    (himages : ∀ images ∈ images?, ∀ place, Uncovered before images place → images ∈ images?')
    (houtput : ∀ path, output path → output' path) :
    Spares images?' output' input before after := by
  refine ⟨fun place content hfile => ?_, fun content hcontent => ?_⟩
  · rcases h.files place content hfile with
      hkept | ⟨images, hmem, hlight, hdots⟩ | ⟨path, hpath, hplace⟩
    · exact .inl hkept
    · exact .inr (.inl ⟨images, himages images hmem place hlight, hlight, hdots⟩)
    · exact .inr (.inr ⟨path, houtput path hpath, hplace⟩)
  · exact (h.source content hcontent).imp_right fun ⟨images, hmem, hlight, hdots⟩ =>
      ⟨images, himages images hmem _ hlight, hlight, hdots⟩

/-- The directory of a source that can be read is there, so nothing in it comes to light. -/
theorem not_uncovered_of_readBytes {content : ByteArray} (hfiles : before.WellFormed)
    (hcontent : before.readBytes input = .ok content) (place : Location) :
    ¬Uncovered before (input.directory.join ⟨imagesName⟩) place := by
  rintro ⟨name, hwithin, hlight⟩
  obtain ⟨front, dir, last, hopens, -⟩ := readBytes_eq_ok.1 hcontent
  obtain ⟨home, hdescend⟩ := hopens.descend_directory
  exact hlight.not_descend hfiles imagesName_isName hwithin.isName home hdescend

theorem eq_ok_of_mem_toOption {ε α : Type} {r : Except ε α} {a : α} (h : a ∈ r.toOption) :
    r = .ok a := by
  cases r with
  | error e => cases h
  | ok b =>
      cases h
      rfl

theorem imageDirectory_withCompilationDir (options : Options) (home : Path) :
    imageDirectory (options.withCompilationDir home) =
      (options.compilationDir.getD home).join ⟨imagesName⟩ := rfl

/-- Files are spared when one is converted to another name. -/
theorem convertFileInto_spares {setting : Setting} (hfetcher : setting.fetcher.Confined)
    (hids : ∀ n, IsId (setting.ids n)) {w : World} (hfiles : w.files.WellFormed) {name : String}
    (hslash : '/' ∉ name.toList) (hne : input.fileName? ≠ some (name ++ "." ++ texExtension))
    (directory : Path) :
    let run := (convertFileInto setting input directory name).outcome w
    Spares (setting.options.compilationDir.map (·.join ⟨imagesName⟩)) (run.1 = .ok ·) input
      w.files run.2.files := by
  intro run
  cases hread : w.files.readText input with
  | error e =>
      have hrun : run = (.error (Attempt.failureAt input e), w) := by
        rw [show run = _ from outcome_convertFileInto ..]
        simp only [hread]
      rw [hrun]
      exact .refl _ _ _ _
  | ok source =>
      obtain ⟨content, hcontent⟩ := readBytes_of_readText hread
      obtain ⟨hpublished, hpath⟩ :=
        convertFileInto_published setting hfetcher hids input directory name w
      have hspares := hpublished.spares hfiles input fun path hmem =>
        ⟨directory, name, hpath path hmem, hslash, hne⟩
      refine hspares.mono (fun images himages place hlight => ?_) fun _ => eq_ok_of_mem_toOption
      obtain rfl := Option.some.inj himages
      rw [imageDirectory_withCompilationDir] at hlight ⊢
      cases hdir : setting.options.compilationDir with
      | some dir => rfl
      | none =>
          rw [hdir] at hlight
          exact absurd hlight (not_uncovered_of_readBytes hfiles hcontent place)

end Spares

/-! ## Converting beside the source -/

/-- The subcommand writes beside its source under the marked name. -/
theorem outputChoice_beside {input : Path} {name : String} (a : Arguments)
    (h : defaultOutputName input false = .ok name) :
    outputChoice input false none = .ok (input.directory, name) ∧
      (Command.convertFile input false none a).target? =
        some (exportPath input.directory name) := by
  have hchoice : outputChoice input false none = .ok (input.directory, name) := by
    rw [outputChoice, h]
    rfl
  refine ⟨hchoice, ?_⟩
  change (outputChoice input false none).toOption.map _ = _
  rw [hchoice]
  rfl

/-- The subcommand spares files if it is not told where to write and not to overwrite. -/
theorem perform_spares {s : Surroundings} (htransfer : s.transfer.Confined)
    (hids : ∀ n, IsId (s.ids n)) {w : World} (hfiles : w.files.WellFormed) (input : Path)
    (a : Arguments) (options : Options) :
    let command : Command := .convertFile input false none a
    let run := (command.perform s options).outcome w
    Spares (options.compilationDir.map (·.join ⟨imagesName⟩))
      (fun path => run.1.isOk = true ∧ path ∈ command.target?) input w.files run.2.files := by
  intro command run
  subst run
  rw [outcome_perform_convertFile, outcome_runConvertFile]
  cases hname : defaultOutputName input false with
  | error e =>
      have hchoice : outputChoice input false none = .error e := by
        rw [outputChoice, hname]
        rfl
      rw [hchoice]
      exact .refl _ _ _ _
  | ok name =>
      obtain ⟨hchoice, htarget⟩ := outputChoice_beside a hname
      let setting : Setting := { options, fetcher := a.fetcher s, ids := s.ids }
      have hfetcher : setting.fetcher.Confined := a.fetcher_confined htransfer
      have hspares := convertFileInto_spares hfetcher hids hfiles
        (noSlash_of_defaultOutputName hname) (fileName?_ne_processed hname) input.directory
      obtain ⟨-, hpath⟩ :=
        convertFileInto_published setting hfetcher hids input input.directory name w
      rw [hchoice, show command.target? = _ from htarget]
      dsimp only at hspares hpath ⊢
      rcases hrun : (convertFileInto setting input input.directory name).outcome w with ⟨r, w'⟩
      rw [hrun] at hspares hpath
      cases r with
      | error e => exact hspares.mono (fun _ himages _ _ => himages) fun _ => nofun
      | ok written =>
          refine hspares.mono (fun _ himages _ _ => himages) fun path hpath' => ⟨rfl, ?_⟩
          cases hpath'
          exact congrArg some (hpath written rfl).symm

/-- **Sources are kept.** A file is converted beside itself, by the subcommand that is not told
where to write and not to overwrite, or else under its whole name. Whether or not this succeeds, the
source and all other files are spared, apart from the output that is returned. Only if a directory
for images is given, and the path of the image directory steps back, a file in that directory may be
brought to light and replaced. -/
theorem convertFile_keeps_source (input : Path) (w : World) (hfiles : w.files.WellFormed) :
    (∀ setting : Setting, setting.fetcher.Confined → (∀ n, IsId (setting.ids n)) →
      let run := (convertFile setting input none).outcome w
      Spares (setting.options.compilationDir.map (·.join ⟨imagesName⟩)) (run.1 = .ok ·) input
        w.files run.2.files) ∧
    (∀ s args a, s.transfer.Confined → (∀ n, IsId (s.ids n)) →
      Command.ofArguments args = .ok (.convertFile input false none a) →
      let run := (runCommandLine s args).run w
      let dir? := (a.resolve.outcome w).1.toOption.bind Options.compilationDir
      let output (path : Path) : Prop :=
        run.1.exitCode = 0 ∧ path ∈ Command.target? (.convertFile input false none a)
      Spares (dir?.map (·.join ⟨imagesName⟩)) output input w.files run.2.files) := by
  refine ⟨fun setting hfetcher hids => ?_, fun s args a htransfer hids hargs => ?_⟩
  · rw [outcome_convertFile]
    cases hname : input.fileName? with
    | none => exact .refl _ _ _ _
    | some name =>
        have hslash := (Path.fileName?_spec hname).1.noSlash
        exact convertFileInto_spares hfetcher hids hfiles hslash (fileName?_ne_export hname)
          input.directory
  · rw [runCommandLine_of_ok s hargs, run_command]
    dsimp only [Command.arguments]
    cases (a.resolve.outcome w).1 with
    | error e => exact .refl _ _ _ _
    | ok options =>
        refine (perform_spares htransfer hids hfiles input a options).mono
          (fun _ himages _ _ => himages) fun path ⟨hok, htarget⟩ => ⟨?_, htarget⟩
        dsimp only
        cases hrun : (((Command.convertFile input false none a).perform s options).outcome w).1 with
        | error e =>
            rw [hrun] at hok
            cases hok
        | ok shown => rfl

/-- A source that shows an image of its own name. -/
theorem convertFile_keeps_source_page :
    let input : Path := ⟨"docs/page.v2.html"⟩
    let content := "<img src=http://h/page.v2.html>".toUTF8
    let files : FileSystem :=
      { items := [(["docs"], .directory), (["docs", "page.v2.html"], .file content)] }
    let setting : Setting :=
      { options := { autogenImageNames := false }, fetcher := .storing "new", ids := generatedId 0 }
    let s : Surroundings := { transfer := .storing "new", ids := generatedId 0 }
    let args := ["convert-file", "docs/page.v2.html", "--keep-image-names"]
    ((convertFile setting input none).outcome { files }).2.files.readBytes input = .ok content ∧
      ((runCommandLine s args).run { files }).2.files.readBytes input = .ok content := by
  intro input content files setting s args
  have hfiles : files.WellFormed := .of_items (by simp [files, item?])
  have hread : files.readBytes input = .ok content := by decide +kernel
  obtain ⟨hbeside, hcommand⟩ := convertFile_keeps_source input { files } hfiles
  have hstored := Fetcher.storing_confined "new"
  have hargs : Command.ofArguments args = .ok (.convertFile input false none
      { given := [(.keepImageNames, "")], positional := some "docs/page.v2.html" }) := by
    decide +kernel
  constructor
  · exact ((hbeside setting hstored (generatedId_isId 0)).source content hread).resolve_right
      (by rintro ⟨images, himages, -⟩; cases himages)
  · have hspares := hcommand s args _ hstored (generatedId_isId 0) hargs
    exact (hspares.source content hread).resolve_right
      (by rintro ⟨images, himages, -⟩; cases himages)

/-- A source that lies in the image directory, which is given by a path that steps back from a
    missing directory, is taken for a missing image and replaced. -/
theorem convertFile_replaces_source :
    let input : Path := ⟨"out/images/page.html"⟩
    let source := "<img src=a:/page.html>"
    let files : FileSystem :=
      { items := [(["out"], .directory), (["out", "images"], .directory),
          (["out", "images", "page.html"], .file source.toUTF8)] }
    let setting : Setting :=
      { options := { compilationDir := some ⟨"missing/../out"⟩, autogenImageNames := false }
        fetcher := .storing "new"
        ids := generatedId 0 }
    files.WellFormed ∧ setting.fetcher.Confined ∧ (∀ n, IsId (setting.ids n)) ∧
      files.readText input = .ok source ∧
      ((convertFile setting input none).outcome { files }).2.files.readText input ≠ .ok source := by
  intro input source files setting
  have hfiles : files.WellFormed := .of_items (by simp [files, item?, List.lookup_cons])
  exact ⟨hfiles, Fetcher.storing_confined "new", generatedId_isId 0, by decide +kernel,
    by decide +kernel⟩

end HtmlToLatex
