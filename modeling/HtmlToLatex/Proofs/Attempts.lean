import HtmlToLatex.CommandLine.Run
import HtmlToLatex.Proofs.Files

set_option autoImplicit false

/-! # Running attempts

An attempt stops at the first failure and keeps what was done before it. Here is what becomes of
each attempt of the program: what is read and handed on, and what is left in the files by one that
writes (`Writing`), whether or not it fails. -/

namespace HtmlToLatex

open FileSystem

/-! ## Single operations -/

namespace Attempt

variable {α β : Type}

/-- What comes of an attempt, and the world afterwards. -/
def outcome (m : Attempt α) (w : World) : Except ConversionError α × World :=
  m.run.run w

/-- A bind stops at a failure and keeps the world. -/
theorem outcome_bind (m : Attempt α) (f : α → Attempt β) (w : World) :
    (m >>= f).outcome w = match m.outcome w with
      | (.ok a, w') => (f a).outcome w'
      | (.error e, w') => (.error e, w') := by
  unfold outcome
  rw [ExceptT.run_bind, Conversion.run_bind]
  rcases m.run.run w with ⟨r, w'⟩
  cases r <;> rfl

/-- A conversion does not fail. -/
theorem outcome_lift (m : Conversion α) (w : World) :
    (liftM m : Attempt α).outcome w = (.ok (m.run w).1, (m.run w).2) := rfl

/-- The failure of a file operation as one of an attempt. -/
def failureAt (path : Path) (e : FileError) : ConversionError :=
  (ConversionError.ofFileError e).atPath path

theorem outcome_ofFileResult (path : Path) (r : Except FileError α) (w : World) :
    (ofFileResult path r).outcome w = (r.mapError (failureAt path), w) := by
  cases r <;> rfl

theorem outcome_readText (path : Path) (w : World) :
    (readText path).outcome w = ((w.files.readText path).mapError (failureAt path), w) := by
  unfold readText
  change (ofFileResult path (w.files.readText path)).outcome w = _
  rw [outcome_ofFileResult]

theorem outcome_writeText (path : Path) (text : String) (w : World) :
    (writeText path text).outcome w = match w.files.writeText path text with
      | .ok files => (.ok (), { w with files })
      | .error e => (.error (failureAt path e), w) := by
  unfold writeText
  change (ofFileResult path (w.files.writeText path text) >>= _).outcome w = _
  rw [outcome_bind, outcome_ofFileResult]
  cases w.files.writeText path text <;> rfl

theorem outcome_makeDirectories (path : Path) (w : World) :
    (makeDirectories path).outcome w = match w.files.makeDirectories path with
      | (files, r) => (r.mapError (failureAt path), { w with files }) := by
  unfold makeDirectories
  change (ofFileResult path _).outcome _ = _
  rw [outcome_ofFileResult]
  rfl

end Attempt

/-! ## Writing -/

/-- The files after a text was to be written to a path. Directories may have been made, and if
    nothing failed, the text is written. -/
inductive Writing (path : Path) (text : String) (files : FileSystem) :
    Bool → FileSystem → Prop where
  | failed {after : FileSystem} (hadds : AddsDirectories (fun _ => True) files after) :
      Writing path text files false after
  | written {made after : FileSystem} (hadds : AddsDirectories (fun _ => True) files made)
      (hwrite : made.writeText path text = .ok after) : Writing path text files true after

/-- The path that a text is exported to. -/
def exportPath (directory : Path) (name : String) : Path :=
  directory.join ⟨name ++ "." ++ texExtension⟩

theorem outcome_exportFile (text name : String) (directory : Path) (w : World) :
    (exportFile text name directory).outcome w =
      if name = "" then (.error (.invalidInput "output file name is empty"), w)
      else match w.files.makeDirectories directory with
        | (files, .error e) => (.error (Attempt.failureAt directory e), { w with files })
        | (made, .ok ()) => match made.writeText (exportPath directory name) text with
          | .error e =>
            (.error (Attempt.failureAt (exportPath directory name) e), { w with files := made })
          | .ok files =>
            let path := exportPath directory name
            (.ok path, { w with files, log := w.log ++ ["wrote " ++ path.text] }) := by
  unfold exportFile
  by_cases hname : name = ""
  · rw [if_pos hname, if_pos hname]
    rfl
  rw [if_neg hname, if_neg hname]
  change (Attempt.makeDirectories directory >>= _).outcome w = _
  rw [Attempt.outcome_bind, Attempt.outcome_makeDirectories]
  rcases w.files.makeDirectories directory with ⟨made, r⟩
  cases r with
  | error e => rfl
  | ok u =>
      change (Attempt.writeText (exportPath directory name) text >>= _).outcome
        { w with files := made } = _
      rw [Attempt.outcome_bind, Attempt.outcome_writeText]
      dsimp only
      cases made.writeText (exportPath directory name) text <;> rfl

/-- Exporting writes to the path that it returns. -/
theorem exportFile_writing (text name : String) (directory : Path) (w : World) :
    let run := (exportFile text name directory).outcome w
    Writing (exportPath directory name) text w.files run.1.isOk run.2.files ∧
      ∀ path ∈ run.1.toOption, path = exportPath directory name := by
  have hadds := (makeDirectories_adds w.files directory).mono fun _ _ => trivial
  rw [outcome_exportFile]
  split
  · exact ⟨.failed (.refl _ _), nofun⟩
  · split
    next hmade =>
      rw [hmade] at hadds
      exact ⟨.failed hadds, nofun⟩
    next hmade =>
      rw [hmade] at hadds
      split
      · exact ⟨.failed hadds, nofun⟩
      next hwrite =>
        refine ⟨.written hadds hwrite, fun path h => ?_⟩
        cases h
        rfl

theorem outcome_writeResult (path : Path) (text : String) (w : World) :
    (writeResult path text).outcome w =
      match path.parent?.filter (·.text ≠ "") with
      | none => (Attempt.writeText path (text ++ "\n")).outcome w
      | some parent => match w.files.makeDirectories parent with
        | (files, .error e) => (.error (.ofFileError e), { w with files })
        | (files, .ok ()) => (Attempt.writeText path (text ++ "\n")).outcome { w with files } := by
  unfold writeResult
  cases path.parent?.filter (·.text ≠ "") with
  | none => rfl
  | some parent =>
      have hmade : (Conversion.makeDirectories parent).run w =
          ((w.files.makeDirectories parent).2,
            { w with files := (w.files.makeDirectories parent).1 }) := rfl
      dsimp only
      rw [Attempt.outcome_bind, Attempt.outcome_lift, hmade]
      rcases w.files.makeDirectories parent with ⟨files, r⟩
      cases r <;> rfl

theorem fetches_writeText (path : Path) (text : String) (w : World) :
    ((Attempt.writeText path text).outcome w).2.fetches = w.fetches := by
  rw [Attempt.outcome_writeText]
  split <;> rfl

theorem fetches_exportFile (text name : String) (directory : Path) (w : World) :
    ((exportFile text name directory).outcome w).2.fetches = w.fetches := by
  rw [outcome_exportFile]
  split
  · rfl
  · split
    · rfl
    · split <;> rfl

theorem fetches_writeResult (path : Path) (text : String) (w : World) :
    ((writeResult path text).outcome w).2.fetches = w.fetches := by
  rw [outcome_writeResult]
  split
  · exact fetches_writeText _ _ _
  · split
    · rfl
    · exact fetches_writeText _ _ _

theorem writeText_writing (path : Path) (text : String) {files : FileSystem} {w : World}
    (hadds : AddsDirectories (fun _ => True) files w.files) :
    let run := (Attempt.writeText path text).outcome w
    Writing path text files run.1.isOk run.2.files := by
  rw [Attempt.outcome_writeText]
  split
  next hwrite => exact .written hadds hwrite
  · exact .failed hadds

/-- A result is written with a line break behind it. -/
theorem writeResult_writing (path : Path) (text : String) (w : World) :
    let run := (writeResult path text).outcome w
    Writing path (text ++ "\n") w.files run.1.isOk run.2.files := by
  rw [outcome_writeResult]
  split
  · exact writeText_writing _ _ (.refl _ _)
  next parent _ =>
    have hadds := (makeDirectories_adds w.files parent).mono fun _ _ => trivial
    split
    next hmade =>
      rw [hmade] at hadds
      exact .failed hadds
    next hmade =>
      rw [hmade] at hadds
      exact writeText_writing _ _ hadds

/-! ## Converting files -/

theorem outcome_convertFileInto (setting : Setting) (input directory : Path) (name : String)
    (w : World) :
    let options := setting.options.withCompilationDir input.directory
    (convertFileInto setting input directory name).outcome w =
      match w.files.readText input with
      | .error e => (.error (Attempt.failureAt input e), w)
      | .ok source =>
        let converted := (convertText { setting with options } source).run w
        (exportFile converted.1 name directory).outcome converted.2 := by
  intro options
  unfold convertFileInto
  rw [Attempt.outcome_bind, Attempt.outcome_readText]
  cases w.files.readText input with
  | error e => rfl
  | ok source =>
      dsimp only [Except.mapError]
      rw [Attempt.outcome_bind, Attempt.outcome_lift]

theorem outcome_convertFile (setting : Setting) (input : Path) (name? : Option String) (w : World) :
    (convertFile setting input name?).outcome w = match name?.or input.fileName? with
      | some name => (convertFileInto setting input input.directory name).outcome w
      | none => (.error (noFileName input), w) := by
  unfold convertFile
  cases name?.or input.fileName? <;> rfl

/-! ## Commands -/

variable (s : Surroundings)

/-- The source text of a conversion. -/
def sourceText (files : FileSystem) : Option Path → Except ConversionError String
  | some path => (files.readText path).mapError (Attempt.failureAt path)
  | none => (textOfBytes s.input).mapError .ofFileError

theorem outcome_readSource (input : Option Path) (w : World) :
    (readSource s input).outcome w = (sourceText s w.files input, w) := by
  unfold readSource sourceText
  cases input with
  | some path => exact Attempt.outcome_readText path w
  | none => cases textOfBytes s.input <;> rfl

theorem outcome_runConvert (input imageHome : Option Path) (a : Arguments) (options : Options)
    (w : World) :
    let compilationDir := options.compilationDir.or imageHome
    let setting : Setting :=
      { options := { options with compilationDir }, fetcher := a.fetcher s, ids := s.ids }
    (runConvert s input imageHome a options).outcome w =
      match sourceText s w.files input with
      | .error e => (.error e, w)
      | .ok source =>
        (.ok ((convertText setting source).run w).1, ((convertText setting source).run w).2) := by
  intro compilationDir setting
  unfold runConvert
  rw [Attempt.outcome_bind, outcome_readSource]
  cases sourceText s w.files input with
  | error e => rfl
  | ok source =>
      dsimp only
      rw [Attempt.outcome_lift]

/-- The options are read before anything else, and reading them leaves the world alone. -/
theorem outcome_resolve (a : Arguments) (w : World) : (a.resolve.outcome w).2 = w := by
  unfold Arguments.resolve
  cases a.path? .config with
  | none => rfl
  | some path =>
      dsimp only
      unfold loadOptions
      rw [Attempt.outcome_bind, Attempt.outcome_bind, Attempt.outcome_readText]
      cases w.files.readText path with
      | error e => rfl
      | ok text =>
          cases hparsed : parseOptions text <;> simp only [Except.mapError, hparsed] <;> rfl

/-- The directory and name that the subcommand writes to. -/
def outputChoice (input : Path) (overwrite : Bool) :
    Option Path → Except ConversionError (Path × String)
  | some path => explicitOutput path
  | none => (defaultOutputName input overwrite).map fun name => (input.directory, name)

theorem eq_of_outputChoice_none {input directory : Path} {overwrite : Bool} {name : String}
    (h : outputChoice input overwrite none = .ok (directory, name)) :
    directory = input.directory ∧ defaultOutputName input overwrite = .ok name := by
  unfold outputChoice at h
  cases hname : defaultOutputName input overwrite with
  | error e =>
      rw [hname] at h
      cases h
  | ok name' =>
      rw [hname] at h
      cases h
      exact ⟨rfl, rfl⟩

theorem outcome_runConvertFile (input : Path) (overwrite : Bool) (output : Option Path)
    (a : Arguments) (options : Options) (w : World) :
    let setting : Setting := { options, fetcher := a.fetcher s, ids := s.ids }
    (runConvertFile s input overwrite output a options).outcome w =
      match outputChoice input overwrite output with
      | .error e => (.error e, w)
      | .ok (directory, name) => (convertFileInto setting input directory name).outcome w := by
  intro setting
  have hchoice : runConvertFile s input overwrite output a options =
      liftM (outputChoice input overwrite output) >>= fun choice =>
        convertFileInto setting input choice.1 choice.2 := by
    cases output <;> rfl
  rw [hchoice, Attempt.outcome_bind]
  cases outputChoice input overwrite output <;> rfl

theorem outcome_perform_convert (input output : Option Path) (a : Arguments) (options : Options)
    (w : World) :
    ((Command.convert input output a).perform s options).outcome w =
      match (runConvert s input (output.map Path.directory) a options).outcome w with
      | (.error e, w') => (.error e, w')
      | (.ok text, w') => match output with
        | none => (.ok (text ++ "\n", []), w')
        | some path => match (writeResult path text).outcome w' with
          | (.error e, w'') => (.error e, w'')
          | (.ok (), w'') => (.ok ("", ["✓ Output written to: " ++ path.text]), w'') := by
  unfold Command.perform
  rw [Attempt.outcome_bind]
  rcases (runConvert s input (output.map Path.directory) a options).outcome w with ⟨r, w'⟩
  cases r with
  | error e => rfl
  | ok text =>
      cases output with
      | none => rfl
      | some path =>
          dsimp only
          rw [Attempt.outcome_bind]
          rcases (writeResult path text).outcome w' with ⟨r, w''⟩
          cases r <;> rfl

theorem outcome_perform_convertFile (input : Path) (overwrite : Bool) (output : Option Path)
    (a : Arguments) (options : Options) (w : World) :
    ((Command.convertFile input overwrite output a).perform s options).outcome w =
      match (runConvertFile s input overwrite output a options).outcome w with
      | (.error e, w') => (.error e, w')
      | (.ok path, w') => (.ok ("", ["✓ " ++ path.text]), w') := by
  unfold Command.perform
  rw [Attempt.outcome_bind]
  rcases (runConvertFile s input overwrite output a options).outcome w with ⟨r, w'⟩
  cases r <;> rfl

/-- A command that has its options is performed, and what came of it is reported. -/
theorem run_command (c : Command) (w : World) :
    (c.run s).run w = match (c.arguments.resolve.outcome w).1 with
      | .error e => ({ exitCode := 1, notes := failureLines e }, w)
      | .ok options =>
        let run := (c.perform s options).outcome w
        (reportOf options (run.2.log.drop w.log.length) run.1, run.2) := by
  have hworld : (c.arguments.resolve.run.run w).2 = w := outcome_resolve c.arguments w
  unfold Command.run Attempt.outcome
  rw [Conversion.run_bind]
  rcases hrun : c.arguments.resolve.run.run w with ⟨r, w'⟩
  rw [hrun] at hworld
  obtain rfl : w' = w := hworld
  cases r <;> rfl

theorem runCommandLine_of_ok {args : List String} {c : Command}
    (h : Command.ofArguments args = .ok c) : runCommandLine s args = c.run s := by
  unfold runCommandLine
  rw [h]

end HtmlToLatex
