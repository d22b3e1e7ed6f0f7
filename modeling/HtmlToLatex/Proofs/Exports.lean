import HtmlToLatex.Proofs.SourceFiles

set_option autoImplicit false

/-! # Exported files

Exporting a text makes the directories that are missing and then writes one file. If it succeeds,
the text is in that file, and if it fails, no file is touched, `exportFile_writes`. The path of an
output that is named on the command line is taken apart for this and put together again, with
another text as a result. It still leads to the file that was meant, `explicitOutput_designates`. -/

namespace HtmlToLatex

open FileSystem

/-! ## What a text that is written leaves -/

namespace FileSystem

variable {fs fs' : FileSystem} {p : Path} {text : String}

/-- A text that is written is where the path leads. -/
theorem item?_of_writeText (h : fs.writeText p text = .ok fs') :
    fs'.item? (fs.placeOf p) = some (.file text.toUTF8) := by
  obtain ⟨place, hopens, h⟩ := exists_of_bind_eq_ok h
  cases h
  rw [placeOf_of_fileToWrite hopens]
  obtain ⟨front, dir, last, -, rfl⟩ := fileToWrite_ok hopens
  exact item?_setItem_self fs (by simp) _

/-- A text that is written is nowhere else. -/
theorem item?_of_writeText_of_ne {place : Location} (h : fs.writeText p text = .ok fs')
    (hplace : place ≠ fs.placeOf p) : fs'.item? place = fs.item? place := by
  rcases (writeText_touches h).item place with hsame | ⟨hopens, -⟩
  · exact hsame
  · exact absurd (placeOf_of_fileToWrite hopens).symm hplace

end FileSystem

/-! ## Exporting -/

/-- A text is exported to a file in a directory: it can be read there, and nothing else has changed
    except for directories that were made on the way to the directory. -/
structure Exported (directory : Path) (name text : String) (path : Path)
    (before after : FileSystem) : Prop where
  path_eq : path = directory.join ⟨name ++ "." ++ texExtension⟩
  workingDirectory : after.workingDirectory = before.workingDirectory
  /-- The path leads to a file in the directory. -/
  place : before.placeOf path = before.placeOf directory ++ [name ++ "." ++ texExtension]
  file : after.item? (before.placeOf path) = some (.file text.toUTF8)
  readText : after.readText path = .ok text
  others : ∀ place, place ≠ before.placeOf path → after.item? place = before.item? place ∨
    before.item? place = none ∧ after.item? place = some .directory ∧
      before.OnTheWay directory place

theorem exported_of_writeText {directory : Path} {name text : String}
    {files made after : FileSystem} (hname : '/' ∉ name.toList)
    (hadds : AddsDirectories (files.OnTheWay directory) files made)
    (hwrite : made.writeText (exportPath directory name) text = .ok after) :
    Exported directory name text (exportPath directory name) files after := by
  have hplace : made.placeOf (exportPath directory name) =
      files.placeOf (exportPath directory name) := placeOf_congr hadds.workingDirectory _
  refine ⟨rfl, ?_, placeOf_join files directory (exportName_isName hname), ?_,
    readText_of_writeText hwrite, ?_⟩
  · rw [(writeText_touches hwrite).workingDirectory, hadds.workingDirectory]
  · rw [← hplace]
    exact item?_of_writeText hwrite
  · intro place hother
    rw [← hplace] at hother
    rw [item?_of_writeText_of_ne hwrite hother]
    exact hadds.item place

/-- The ways in which exporting a text ends. -/
inductive Exporting (text name : String) (directory : Path) (w : World) :
    Except ConversionError Path × World → Prop where
  | rejected (hname : name = "") :
      Exporting text name directory w (.error (.invalidInput "output file name is empty"), w)
  | failed (hname : name ≠ "") (e : ConversionError) (after : World)
      (hadds : AddsDirectories (w.files.OnTheWay directory) w.files after.files) :
      Exporting text name directory w (.error e, after)
  | written (hname : name ≠ "") (path : Path) (after : World)
      (hexported : Exported directory name text path w.files after.files) :
      Exporting text name directory w (.ok path, after)

theorem exportFile_exporting (text : String) {name : String} (directory : Path) (w : World)
    (hname : '/' ∉ name.toList) :
    Exporting text name directory w ((exportFile text name directory).outcome w) := by
  rw [outcome_exportFile]
  by_cases hempty : name = ""
  · rw [if_pos hempty]
    exact .rejected hempty
  rw [if_neg hempty]
  have hadds := makeDirectories_adds w.files directory
  rcases hmade : w.files.makeDirectories directory with ⟨made, outcome⟩
  rw [hmade] at hadds
  cases outcome with
  | error e => exact .failed hempty _ _ hadds
  | ok u =>
      dsimp only
      cases hwrite : made.writeText (exportPath directory name) text with
      | error e => exact .failed hempty _ _ hadds
      | ok after => exact .written hempty _ _ (exported_of_writeText hname hadds hwrite)

/-- **Exporting writes one file and nothing else.** If it succeeds, it returns the path of a file
with the extension `tex` in the directory, which holds the text; all else that was there is
unchanged, and all else that is new is a directory on the way to the directory. If it fails, what
was there is unchanged, and all that is new are such directories. Without a name nothing happens at
all. -/
theorem exportFile_writes (text name : String) (directory : Path) (w : World)
    (hname : '/' ∉ name.toList) :
    let run := (exportFile text name directory).outcome w
    (∀ path, run.1 = .ok path → Exported directory name text path w.files run.2.files) ∧
      (∀ e, run.1 = .error e →
        AddsDirectories (w.files.OnTheWay directory) w.files run.2.files) ∧
      (name = "" → run = (.error (.invalidInput "output file name is empty"), w)) := by
  have hcases := exportFile_exporting text directory w hname
  generalize (exportFile text name directory).outcome w = run at hcases ⊢
  cases hcases with
  | rejected hempty => exact ⟨nofun, fun _ _ => .refl _ _, fun _ => rfl⟩
  | failed hempty e after hadds => exact ⟨nofun, fun _ _ => hadds, fun h => absurd h hempty⟩
  | written hempty path after hexported =>
      refine ⟨fun written hwritten => ?_, nofun, fun h => absurd h hempty⟩
      cases hwritten
      exact hexported

/-- The directory is reached through an empty name, one directory of it is there, and a file. -/
theorem exportFile_writes_nested :
    let files : FileSystem :=
      { items := [(["a"], .directory), (["a", "old.tex"], .file "kept".toUTF8)] }
    let run := (exportFile "new" "x.v2" ⟨"a/b//c/"⟩).outcome { files }
    '/' ∉ "x.v2".toList ∧ run.1 = .ok ⟨"a/b//c/x.v2.tex"⟩ ∧
      run.2.files.readText ⟨"a/b//c/x.v2.tex"⟩ = .ok "new" ∧
      run.2.files.item? ["a", "old.tex"] = some (.file "kept".toUTF8) := by
  intro files run
  have hname : '/' ∉ "x.v2".toList := by decide
  have hok : run.1 = .ok ⟨"a/b//c/x.v2.tex"⟩ := by decide +kernel
  obtain ⟨hwritten, -, -⟩ := exportFile_writes "new" "x.v2" ⟨"a/b//c/"⟩ { files } hname
  have hexported := hwritten _ hok
  refine ⟨hname, hok, hexported.readText, ?_⟩
  rcases hexported.others ["a", "old.tex"] (by decide +kernel) with hsame | ⟨hnone, -⟩
  · exact hsame
  · cases hnone

/-! ## Outputs that are named -/

namespace FileSystem

/-- Empty pieces and single dots do not lead out of a directory. -/
theorem descend_idle (fs : FileSystem) (from_ : Location) {idle : List (List Char)}
    (h : ∀ piece ∈ idle, piece = [] ∨ piece = ['.']) :
    fs.descend from_ ((idle.filter (· ≠ [])).map String.ofList) = .ok from_ := by
  induction idle with
  | nil => rfl
  | cons piece idle ih =>
      rw [List.forall_mem_cons] at h
      rcases h.1 with rfl | rfl
      · exact ih h.2
      · exact ih h.2

/-- The last name of a path behind the names of the pieces before it. -/
theorem namesOf_of_split {p : Path} {parts : List (List Char)} {name : String}
    (hname : IsName name) (h : splitOnElement '/' p.text.toList = parts ++ [name.toList]) :
    namesOf p = (parts.filter (· ≠ [])).map String.ofList ++ [name] := by
  have hempty : name.toList ≠ [] := by simpa using hname.ne_empty
  rw [namesOf, h, List.filter_append, List.filter_cons_of_pos (by simpa using hempty)]
  simp

/-- The directory of a path is reached along the names before its last name. -/
theorem descend_directory (fs : FileSystem) {p : Path} {parts : List (List Char)} {name : String}
    (hname : IsName name) (h : splitOnElement '/' p.text.toList = parts ++ [name.toList]) :
    fs.descend (fs.start p) (namesOf p).dropLast =
      fs.descend (fs.start p.directory) (namesOf p.directory) := by
  have hfront : (namesOf p).dropLast = (parts.filter (· ≠ [])).map String.ofList := by
    rw [namesOf_of_split hname h, List.dropLast_concat]
  obtain ⟨q, hparent⟩ : ∃ q, p.parent? = some q := by
    rw [Path.parent?, Path.pieces_of_split hname h]
    dsimp only
    split <;> exact ⟨_, rfl⟩
  obtain ⟨piece, front, hpieces, hkept⟩ := Path.parent?_pieces hparent
  rw [Path.pieces_of_split hname h] at hpieces
  obtain ⟨-, rfl⟩ := List.cons.inj hpieces
  obtain ⟨idle, hidle, hall⟩ := Path.exists_idle p.isAbsolute parts.reverse
  have hparts : parts =
      (Path.dropIdle p.isAbsolute parts.reverse).reverse ++ idle.reverse := by
    rw [← List.reverse_append, ← hidle, List.reverse_reverse]
  have hrest (from_ : Location) :
      fs.descend from_ ((idle.reverse.filter (· ≠ [])).map String.ofList) = .ok from_ :=
    descend_idle fs from_ (by simpa using hall)
  rw [hfront, hparts, Path.directory, hparent]
  dsimp only
  rcases hkept with ⟨hnil, rfl⟩ | ⟨htext, hsplit⟩
  · rw [hnil, List.reverse_nil, List.nil_append, hrest, start]
    cases p.isAbsolute <;> rfl
  · have hstart : fs.start q = fs.start p := by rw [start, start, (parent?_spec hparent).1]
    rw [if_neg htext, namesOf, hsplit, hstart, List.filter_append, List.map_append, descend_append]
    cases fs.descend (fs.start p) _ with
    | error e => rfl
    | ok place => exact hrest place

end FileSystem

/-- What can stand before the last name of a path: nothing, or what ends in a slash. -/
def IsFront (front : String) : Prop :=
  front = "" ∨ endsInSlash ⟨front⟩ = true

namespace IsFront

variable {front name other : String}

/-- A name behind a front is a piece of its own. -/
theorem exists_parts (h : IsFront front) : ∃ parts, ∀ name, IsName name →
    splitOnElement '/' (front ++ name).toList = parts ++ [name.toList] := by
  rcases h with rfl | hslash
  · refine ⟨[], fun name hname => ?_⟩
    simpa using splitOnElement_of_not_mem hname.noSlash
  · have hlast : front.toList.getLast? = some '/' := by simpa [endsInSlash] using hslash
    obtain ⟨before, hbefore⟩ := List.getLast?_eq_some_iff.1 hlast
    refine ⟨splitOnElement '/' before, fun name hname => ?_⟩
    rw [String.toList_append, hbefore, List.append_assoc, List.singleton_append,
      splitOnElement_append, splitOnElement_of_not_mem hname.noSlash]

theorem isAbsolute_eq (h : IsFront front) (hname : IsName name) (hother : IsName other) :
    Path.isAbsolute ⟨front ++ name⟩ = Path.isAbsolute ⟨front ++ other⟩ := by
  rcases h with rfl | hslash
  · simp [hname.isAbsolute_eq, hother.isAbsolute_eq]
  · cases hfront : front.toList with
    | nil => simp [endsInSlash, hfront] at hslash
    | cons c rest => simp [Path.isAbsolute, hfront]

/-- The name behind a front is the file name of the path. -/
theorem fileNameChars?_eq (h : IsFront front) (hname : IsName name) :
    Path.fileNameChars? ⟨front ++ name⟩ = some name.toList := by
  obtain ⟨parts, hparts⟩ := h.exists_parts
  exact Path.fileNameChars?_of_split hname (hparts name hname)

/-- The directory does not depend on the name behind the front. -/
theorem directory_eq (h : IsFront front) (hname : IsName name) (hother : IsName other) :
    Path.directory ⟨front ++ name⟩ = Path.directory ⟨front ++ other⟩ := by
  obtain ⟨parts, hparts⟩ := h.exists_parts
  have hparent : Path.parent? ⟨front ++ name⟩ = Path.parent? ⟨front ++ other⟩ := by
    rw [Path.parent?, Path.parent?, Path.pieces_of_split hname (hparts name hname),
      Path.pieces_of_split hother (hparts other hother), h.isAbsolute_eq hname hother]
  rw [Path.directory, Path.directory, hparent]

end IsFront

/-- A path that ends in a name does not end in a slash. -/
theorem endsInSlash_append {name : String} (hname : IsName name) (front : String) :
    endsInSlash ⟨front ++ name⟩ = false := by
  have hne : name.toList ≠ [] := by simpa using hname.ne_empty
  rw [endsInSlash, String.toList_append, List.getLast?_append_of_ne_nil _ hne, beq_eq_false_iff_ne]
  exact fun hlast => hname.noSlash (List.mem_of_getLast? hlast)

/-- A path opens the file of its name in its directory. -/
theorem IsFront.readBytes_eq_ok {front name : String} {fs : FileSystem} {content : ByteArray}
    (hfront : IsFront front) (hname : IsName name) :
    let file : Path := ⟨front ++ name⟩
    checkPath file = .ok () → fs.readBytes (file.directory.join ⟨name⟩) = .ok content →
      fs.readBytes file = .ok content := by
  intro file hcheck hjoined
  obtain ⟨names, dir, last, hopens, hcontent⟩ := FileSystem.readBytes_eq_ok.1 hjoined
  have hnames : namesOf file.directory = names ∧ name = last := by
    have heq := hopens.names
    rw [namesOf_join hname] at heq
    simpa using List.append_inj' heq rfl
  obtain ⟨rfl, rfl⟩ := hnames
  obtain ⟨parts, hparts⟩ := hfront.exists_parts
  have hsplit := hparts name hname
  have hlast : namesOf file = (namesOf file).dropLast ++ [name] := by
    rw [namesOf_of_split hname hsplit, List.dropLast_concat]
  have hdescend : fs.descend (fs.start file) (namesOf file).dropLast = .ok dir := by
    rw [descend_directory fs hname hsplit, ← hopens.descend, start_join fs _ hname]
  exact FileSystem.readBytes_eq_ok.2 ⟨_, dir, name, ⟨hlast, hdescend, hopens.lookedUp,
    endsInSlash_append hname front, hcheck, hopens.noDirectory⟩, hcontent⟩

/-- A name with an extension is put together from what stands before the last dot and what stands
    behind it. -/
theorem eq_append_of_splitName {name ext : List Char} (h : (Path.splitName name).2 = some ext) :
    name = (Path.splitName name).1 ++ '.' :: ext ∧ (Path.splitName name).1 ≠ [] := by
  have hparts := List.takeWhile_append_dropWhile (p := (· ≠ '.')) (l := name.reverse)
  unfold Path.splitName at h ⊢
  split at h
  · cases h
  next hdots =>
    rw [if_neg hdots]
    dsimp only at h ⊢
    split at h
    next dot c front hdrop =>
      cases h
      have hdot : dot = '.' := by
        have hhead := List.head?_dropWhile_not (· ≠ '.') name.reverse
        rw [hdrop] at hhead
        simpa using hhead
      rw [hdrop, hdot] at hparts
      have hname := congrArg List.reverse hparts
      exact ⟨by simpa using hname.symm, by simp⟩
    · cases h

/-- A name with the extension `tex` is a stem with the extension behind it. -/
theorem exists_stem_of_extension {front name : String} (hfront : IsFront front)
    (hname : IsName name) (hext : Path.extension? ⟨front ++ name⟩ = some texExtension) :
    ∃ stem, stem ≠ "" ∧ '/' ∉ stem.toList ∧ stem ++ "." ++ texExtension = name := by
  have hsplit : (Path.splitName name.toList).2 = some texExtension.toList := by
    rw [Path.extension?, hfront.fileNameChars?_eq hname, Option.bind_some] at hext
    obtain ⟨ext, hsome, heq⟩ := Option.map_eq_some_iff.1 hext
    rw [hsome, ← heq, String.toList_ofList]
  obtain ⟨hchars, hne⟩ := eq_append_of_splitName hsplit
  have hslash : '/' ∉ (Path.splitName name.toList).1 :=
    fun hmem => hname.noSlash (splitName_fst_subset _ hmem)
  obtain ⟨stem, hstem⟩ : ∃ stem : String, stem.toList = (Path.splitName name.toList).1 :=
    ⟨_, String.toList_ofList⟩
  rw [← hstem] at hchars hne hslash
  refine ⟨stem, by simpa using hne, hslash, ?_⟩
  rw [← String.toList_inj]
  simpa using hchars.symm

/-- A path without an extension `tex` names the output as a whole. -/
theorem explicitOutput_of_extension {front name : String} (hfront : IsFront front)
    (hname : IsName name) (hext : Path.extension? ⟨front ++ name⟩ ≠ some texExtension) :
    explicitOutput ⟨front ++ name⟩ = .ok (Path.directory ⟨front ++ name⟩, name) := by
  rw [explicitOutput, if_neg hext, Path.fileName?, hfront.fileNameChars?_eq hname]
  simp

/-- The extension `tex` is taken off the name of an output. -/
theorem explicitOutput_append {front stem : String} (hfront : IsFront front) (hstem : stem ≠ "")
    (hslash : '/' ∉ stem.toList) :
    let file : Path := ⟨front ++ (stem ++ "." ++ texExtension)⟩
    explicitOutput file = .ok (file.directory, stem) := by
  intro file
  have hchars := hfront.fileNameChars?_eq (exportName_isName hslash)
  have hsplit : Path.splitName (stem ++ "." ++ texExtension).toList =
      (stem.toList, some texExtension.toList) := by
    have hbase : stem.toList ≠ [] := by simpa using hstem
    have hdot : '.' ∉ texExtension.toList := by decide
    simpa using splitName_append hbase hdot (by decide)
  have hext : file.extension? = some texExtension := by
    rw [Path.extension?, hchars, Option.bind_some, hsplit]
    simp
  rw [explicitOutput, if_pos hext, Path.stem?, hchars, Option.map_some, hsplit]
  simp

/-- A file has a text in it, and reads as the text if its path is one that can be opened. -/
structure Holds (files : FileSystem) (file : Path) (text : String) : Prop where
  item : files.item? (files.placeOf file) = some (.file text.toUTF8)
  readText : checkPath file = .ok () → files.readText file = .ok text

/-- What is exported under a name in the directory of a path is at the path, if its name is that of
    the path. -/
theorem Exported.holds {front stem text : String} {path : Path} {before after : FileSystem}
    (hfront : IsFront front) (hslash : '/' ∉ stem.toList) :
    let file : Path := ⟨front ++ (stem ++ "." ++ texExtension)⟩
    Exported file.directory stem text path before after →
      after.placeOf path = after.placeOf file ∧ Holds after file text := by
  intro file h
  have hname := exportName_isName hslash
  have hfile : file.fileName? = some (stem ++ "." ++ texExtension) := by
    rw [Path.fileName?, hfront.fileNameChars?_eq hname, Option.map_some, String.ofList_toList]
  have hplace : after.placeOf path = after.placeOf file := by
    rw [h.path_eq, placeOf_join after _ hname, placeOf_of_fileName? after hfile]
  have hitem : after.item? (after.placeOf path) = some (.file text.toUTF8) := by
    rw [placeOf_congr h.workingDirectory]
    exact h.file
  refine ⟨hplace, hplace ▸ hitem, fun hcheck => ?_⟩
  obtain ⟨content, hbytes, htext⟩ := exists_of_bind_eq_ok h.readText
  rw [h.path_eq] at hbytes
  rw [FileSystem.readText, hfront.readBytes_eq_ok hname hcheck hbytes]
  exact htext

/-- The file that a path names as an output. The extension `tex` may be left out. -/
def outputFile (path : Path) : Path :=
  if path.extension? = some texExtension then path else ⟨path.text ++ "." ++ texExtension⟩

/-- The path of an output is split into the directory and the stem of its file. -/
theorem explicitOutput_eq_ok {front name : String} (hfront : IsFront front) (hname : IsName name) :
    ∃ stem, stem ≠ "" ∧ '/' ∉ stem.toList ∧
      outputFile ⟨front ++ name⟩ = ⟨front ++ (stem ++ "." ++ texExtension)⟩ ∧
      explicitOutput ⟨front ++ name⟩ = .ok ((outputFile ⟨front ++ name⟩).directory, stem) := by
  unfold outputFile
  by_cases hext : Path.extension? ⟨front ++ name⟩ = some texExtension
  · rw [if_pos hext]
    obtain ⟨stem, hne, hslash, rfl⟩ := exists_stem_of_extension hfront hname hext
    exact ⟨stem, hne, hslash, rfl, explicitOutput_append hfront hne hslash⟩
  · rw [if_neg hext]
    have hfile : front ++ name ++ "." ++ texExtension = front ++ (name ++ "." ++ texExtension) := by
      simp only [String.append_assoc]
    refine ⟨name, hname.ne_empty, hname.noSlash, congrArg Path.mk hfile, ?_⟩
    rw [explicitOutput_of_extension hfront hname hext, hfile,
      hfront.directory_eq hname (exportName_isName hname.noSlash)]

/-- **A path names the output that it says.** If a path ends in a name, then what is exported for it
is in the file that the path leads to, if its extension is `tex`, and otherwise in the one of the
path with that extension appended. So the extension can be left out. A path without a file name is
rejected. -/
theorem explicitOutput_designates (path : Path) :
    (∀ front name, IsFront front → IsName name → path.text = front ++ name →
      ∃ directory stem, explicitOutput path = .ok (directory, stem) ∧
        explicitOutput (outputFile path) = .ok (directory, stem) ∧
        ∀ text w written, ((exportFile text stem directory).outcome w).1 = .ok written →
          let after := ((exportFile text stem directory).outcome w).2.files
          after.placeOf written = after.placeOf (outputFile path) ∧
            Holds after (outputFile path) text) ∧
    (path.fileName? = none →
      explicitOutput path = .error (.invalidInput (path.text ++ " is not a file path"))) := by
  refine ⟨fun front name hfront hname hpath => ?_, fun hnone => ?_⟩
  · obtain rfl : path = ⟨front ++ name⟩ := congrArg Path.mk hpath
    obtain ⟨stem, hstem, hslash, hfile, houtput⟩ := explicitOutput_eq_ok hfront hname
    rw [hfile] at houtput ⊢
    refine ⟨_, stem, houtput, explicitOutput_append hfront hstem hslash, ?_⟩
    intro text w written hwritten
    have hcases := exportFile_exporting text
      (Path.directory ⟨front ++ (stem ++ "." ++ texExtension)⟩) w hslash
    generalize (exportFile text stem _).outcome w = run at hcases hwritten ⊢
    cases hcases with
    | rejected => cases hwritten
    | failed => cases hwritten
    | written _ path after hexported =>
        cases hwritten
        exact hexported.holds hfront hslash
  · have hext : path.extension? ≠ some texExtension := by
      have hchars : path.fileNameChars? = none := Option.map_eq_none_iff.1 hnone
      simp [Path.extension?, hchars]
    rw [explicitOutput, if_neg hext, hnone]

/-- A name with two dots behind slashes and dots that do not count, and a path that leads back. -/
theorem explicitOutput_designates_dotted :
    let path : Path := ⟨"a//b/.//x.tex.v2"⟩
    let after := ((exportFile "new" "x.tex.v2" ⟨"a//b"⟩).outcome {}).2.files
    IsFront "a//b/.//" ∧ IsName "x.tex.v2" ∧
      explicitOutput path = .ok (⟨"a//b"⟩, "x.tex.v2") ∧
      explicitOutput ⟨"a//b/.//x.tex.v2.tex"⟩ = .ok (⟨"a//b"⟩, "x.tex.v2") ∧
      after.readText ⟨"a//b/.//x.tex.v2.tex"⟩ = .ok "new" ∧
      Path.fileName? ⟨"a/.."⟩ = none ∧
      explicitOutput ⟨"a/.."⟩ = .error (.invalidInput "a/.. is not a file path") := by
  intro path after
  have hfront : IsFront "a//b/.//" := .inr (by decide)
  have hname : IsName "x.tex.v2" := ⟨by decide, by decide, by decide, by decide⟩
  have hnone : Path.fileName? ⟨"a/.."⟩ = none := by decide +kernel
  have hchoice : explicitOutput path = .ok (⟨"a//b"⟩, "x.tex.v2") := by decide +kernel
  have hfile : outputFile path = ⟨"a//b/.//x.tex.v2.tex"⟩ := by decide +kernel
  obtain ⟨directory, stem, houtput, hagain, hexport⟩ :=
    (explicitOutput_designates path).1 "a//b/.//" "x.tex.v2" hfront hname (by decide)
  obtain ⟨rfl, rfl⟩ : directory = ⟨"a//b"⟩ ∧ stem = "x.tex.v2" := by
    rw [hchoice] at houtput
    simpa [eq_comm] using houtput
  rw [hfile] at hagain hexport
  have hok : ((exportFile "new" "x.tex.v2" ⟨"a//b"⟩).outcome {}).1 =
      .ok ⟨"a//b/x.tex.v2.tex"⟩ := by decide +kernel
  obtain ⟨-, hholds⟩ := hexport "new" {} _ hok
  exact ⟨hfront, hname, hchoice, hagain, hholds.readText (by decide +kernel), hnone,
    (explicitOutput_designates ⟨"a/.."⟩).2 hnone⟩

end HtmlToLatex
