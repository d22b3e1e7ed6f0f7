import HtmlToLatex.Proofs.Files
import HtmlToLatex.Proofs.Image
import HtmlToLatex.Proofs.ImageName

set_option autoImplicit false

/-! # What a conversion leaves in the file system

A conversion touches files only to provide images. `Framed` says what it may have done to the
files it started with; each image keeps it (`Framed.provide`), and so does the whole walk, as the
left fold over its events that it is. All hangs on the paths: an image has one name in the image
directory, whatever its source is, so what is looked for and asked for is there and nowhere else. -/

namespace HtmlToLatex

open FileSystem

/-! ## Fetchers -/

/-- A fetcher that touches at most the file that it is to store. -/
def Fetcher.Confined (fetcher : Fetcher) : Prop :=
  ∀ earlier request files,
    TouchesOnly request.destination files (fetcher earlier request files).files

/-- Stores the same text for every request. -/
def Fetcher.storing (text : String) : Fetcher := fun _ request files =>
  match files.writeText request.destination text with
  | .ok files => { outcome := .ok (), files }
  | .error e => { outcome := .error (.io e.message), files }

theorem Fetcher.storing_confined (text : String) : (storing text).Confined := by
  intro earlier request files
  unfold storing
  split
  next hwritten => exact writeText_touches hwritten
  · exact .refl _ _

/-! ## The frame -/

/-- A place directly in a directory. -/
structure Within (fs : FileSystem) (directory : Path) (place : Location) (name : String) :
    Prop where
  isName : IsName name
  place_eq : place = fs.placeOf directory ++ [name]

/-- A file in a directory that is not found through the path of the directory, because the path
    steps back from a name that is missing. -/
structure Hidden (fs : FileSystem) (directory : Path) (place : Location) : Prop where
  stepsBack : stepsBack (namesOf directory) = true
  within : ∃ name, Within fs directory place name ∧ fs.existsAt (directory.join ⟨name⟩) = false
  file : ∃ content, fs.item? place = some (.file content)

/-- What may have become of a place when images were provided in a directory. -/
inductive Change (directory : Path) (initial files : FileSystem) (place : Location) : Prop where
  | same (h : files.item? place = initial.item? place)
  | made (hinitial : initial.item? place = none) (hmade : files.item? place = some .directory)
      (hway : initial.OnTheWay directory place)
  | stored (hinitial : initial.item? place = none) (hfile : files.item? place ≠ some .directory)
      (name : String) (hwithin : Within initial directory place name)
  | replaced (h : Hidden initial directory place)

/-- What may have become of the files when images were provided in a directory. -/
structure Framed (directory : Path) (initial files : FileSystem) : Prop where
  workingDirectory : files.workingDirectory = initial.workingDirectory
  change : ∀ place, Change directory initial files place

variable {directory : Path} {initial files files' : FileSystem}

theorem Framed.refl (directory : Path) (files : FileSystem) : Framed directory files files :=
  ⟨rfl, fun _ => .same rfl⟩

theorem Framed.start_eq (h : Framed directory initial files) (p : Path) :
    files.start p = initial.start p :=
  start_congr h.workingDirectory p

/-- Directories are never touched. -/
theorem Framed.keepsDirectories (h : Framed directory initial files) :
    KeepsDirectories initial files := by
  intro place hdirectory
  cases h.change place with
  | same hsame => exact hsame.trans hdirectory
  | made hinitial => cases hinitial.symm.trans hdirectory
  | stored hinitial => cases hinitial.symm.trans hdirectory
  | replaced hidden =>
      obtain ⟨content, hfile⟩ := hidden.file
      cases hfile.symm.trans hdirectory

/-- Making directories on the way to the image directory stays in the frame. -/
theorem Framed.addsDirectories (h : Framed directory initial files)
    (hadds : AddsDirectories (files.OnTheWay directory) files files') :
    Framed directory initial files' := by
  refine ⟨hadds.workingDirectory.trans h.workingDirectory, fun place => ?_⟩
  have hchange := h.change place
  rcases hadds.item place with hsame | ⟨hnone, hmade, hway⟩
  · cases hchange with
    | same heq => exact .same (hsame.trans heq)
    | made hinitial hdirectory hway => exact .made hinitial (hsame.trans hdirectory) hway
    | stored hinitial hfile name hwithin =>
        exact .stored hinitial (by rwa [hsame]) name hwithin
    | replaced hidden => exact .replaced hidden
  · have hway' : initial.OnTheWay directory place := by
      obtain ⟨front, hfront, rfl⟩ := hway
      exact ⟨front, hfront, by rw [h.start_eq]⟩
    cases hchange with
    | same heq => exact .made (heq ▸ hnone) hmade hway'
    | made hinitial _ _ => exact .made hinitial hmade hway'
    | stored hinitial _ _ _ => exact .made hinitial hmade hway'
    | replaced hidden => exact .replaced hidden

/-! ## Providing an image -/

theorem start_join (fs : FileSystem) (directory : Path) {name : String} (hname : IsName name) :
    fs.start (directory.join ⟨name⟩) = fs.start directory := by
  rw [start, start, isAbsolute_join hname]

/-- Where the file of an image is. -/
theorem placeOf_join (fs : FileSystem) (directory : Path) {name : String} (hname : IsName name) :
    fs.placeOf (directory.join ⟨name⟩) = fs.placeOf directory ++ [name] := by
  rw [placeOf, placeOf, start_join fs directory hname, namesOf_join hname, follow_concat,
    towards_of_isName hname]

/-- An image whose file is not there now was not there at the start. -/
theorem Framed.not_existsAt (h : Framed directory initial files) {name : String}
    (hname : IsName name) (hnow : files.existsAt (directory.join ⟨name⟩) = false) :
    initial.existsAt (directory.join ⟨name⟩) = false := by
  by_contra hthere
  rw [Bool.not_eq_false] at hthere
  refine Bool.eq_false_iff.1 hnow (existsAt_keeps h.workingDirectory h.keepsDirectories ?_ hthere)
  intro item hitem
  cases h.change (initial.placeOf (directory.join ⟨name⟩)) with
  | same hsame => exact hsame.trans hitem
  | made hinitial => cases hinitial.symm.trans hitem
  | stored hinitial => cases hinitial.symm.trans hitem
  | replaced hidden =>
      -- The only file that could have been replaced here is that of the image itself.
      obtain ⟨other, ⟨-, hplace⟩, hmissing⟩ := hidden.within
      rw [placeOf_join initial directory hname] at hplace
      obtain rfl : name = other := by simpa using hplace
      cases hmissing.symm.trans hthere

/-- Storing an image whose file was not there at the start stays in the frame. -/
theorem Framed.touchesOnly (hinitial : initial.WellFormed) (h : Framed directory initial files)
    {name : String} (hname : IsName name)
    (hmissing : initial.existsAt (directory.join ⟨name⟩) = false)
    (htouches : TouchesOnly (directory.join ⟨name⟩) files files') :
    Framed directory initial files' := by
  refine ⟨htouches.workingDirectory.trans h.workingDirectory, fun place => ?_⟩
  have hchange := h.change place
  rcases htouches.item place with hsame | ⟨hwrite, hfile⟩
  · cases hchange with
    | same heq => exact .same (hsame.trans heq)
    | made hnone hdirectory hway => exact .made hnone (hsame.trans hdirectory) hway
    | stored hnone hfile name hwithin => exact .stored hnone (by rwa [hsame]) name hwithin
    | replaced hidden => exact .replaced hidden
  -- The file stands in the directory that the path leads to now, under the name of the image.
  obtain ⟨front, dir, last, hopens, hplace⟩ := fileToWrite_ok hwrite
  have hnames := hopens.names
  rw [namesOf_join hname] at hnames
  obtain ⟨rfl, hlast⟩ := List.append_inj' hnames rfl
  obtain rfl : name = last := by simpa using hlast
  have hdescend := hopens.descend
  rw [h.start_eq, start_join initial directory hname] at hdescend
  have hwithin : Within initial directory place name :=
    ⟨hname, by rw [hplace, descend_ok hdescend, placeOf]⟩
  cases hchange with
  | same heq =>
      cases hitem : initial.item? place with
      | none => exact .stored hitem hfile name hwithin
      | some item =>
          cases item with
          | directory =>
              rw [hplace] at heq hitem
              exact absurd (heq.trans hitem) hopens.noDirectory
          | file content =>
              refine .replaced ⟨?_, ⟨name, hwithin, hmissing⟩, content, hitem⟩
              -- Without a step back the file would have been found at the start.
              by_contra hsteps
              rw [Bool.not_eq_true] at hsteps
              rw [hplace] at hitem
              have hthen := hinitial.descend_of_item? hsteps hdescend hitem
              rw [← start_join initial directory hname] at hthen
              cases hmissing.symm.trans (hopens.existsAt hthen hitem)
  | made _ hdirectory => exact absurd (hplace ▸ hdirectory) hopens.noDirectory
  | stored hnone => exact .stored hnone hfile name hwithin
  | replaced hidden => exact .replaced hidden

/-- **Providing an image stays in the frame.** -/
theorem Framed.provide {setting : Setting} (hinitial : initial.WellFormed)
    (hfetcher : setting.fetcher.Confined) {source name : String} (hname : IsName name) {w : World}
    (h : Framed (imageDirectory setting.options) initial w.files) :
    Framed (imageDirectory setting.options) initial
      (w.provide setting source (imagePath setting.options name)).files := by
  refine provide_keeps (P := fun v => Framed (imageDirectory setting.options) initial v.files) h
    (fun hmissing => ?_) ?_
  · have hmissing' := h.not_existsAt hname hmissing
    have hmade := h.addsDirectories (makeDirectories_adds w.files (imageDirectory setting.options))
    refine retrieve_keeps (P := fun v => Framed (imageDirectory setting.options) initial v.files) h
      (fun _ _ => hmade) fun url files _ hfiles => ?_
    rw [hfiles] at hmade
    have htouches := hfetcher w.fetches { url, destination := imagePath setting.options name } files
    exact hmade.touchesOnly hinitial hname hmissing' htouches
  · intro e v hv
    unfold World.noteFailure
    split <;> exact hv

/-- An image whose source is no absolute URL leaves the files alone and asks for nothing. -/
theorem provide_of_not_url {setting : Setting} {source : String}
    (hsource : ∀ url, Url.parse source ≠ .ok url) (destination : Path) (w : World) :
    (w.provide setting source destination).files = w.files ∧
      (w.provide setting source destination).fetches = w.fetches := by
  have hw : w.files = w.files ∧ w.fetches = w.fetches := ⟨rfl, rfl⟩
  refine provide_keeps (P := fun v => v.files = w.files ∧ v.fetches = w.fetches) hw (fun _ => ?_) ?_
  · exact retrieve_keeps (P := fun v => v.files = w.files ∧ v.fetches = w.fetches) hw
      (fun url hurl => absurd hurl (hsource url)) fun url _ hurl _ => absurd hurl (hsource url)
  · intro e v hv
    unfold World.noteFailure
    split <;> exact hv

/-! ## The walk -/

/-- What a walk comes across stays in the frame. -/
theorem Framed.step {setting : Setting} (hinitial : initial.WellFormed)
    (hfetcher : setting.fetcher.Confined) (hids : ∀ n, IsId (setting.ids n)) {w : World}
    (h : Framed (imageDirectory setting.options) initial w.files) (event : Event) :
    Framed (imageDirectory setting.options) initial (event.step setting w).files := by
  cases event with
  | bareAnchor | block name => exact h
  | image source =>
      rw [Event.step, run_convertSource]
      exact Framed.provide hinitial hfetcher (localName_isName _ source (hids _)) h

theorem step_of_not_url (setting : Setting) {event : Event}
    (h : ∀ source ∈ event.source?, ∀ url, Url.parse source ≠ .ok url) (w : World) :
    (event.step setting w).files = w.files ∧ (event.step setting w).fetches = w.fetches := by
  cases event with
  | bareAnchor | block name => exact ⟨rfl, rfl⟩
  | image source =>
      rw [Event.step, run_convertSource]
      exact provide_of_not_url (h source rfl) _ _

/-- **The frame of a conversion.** What was there stays as it was, but for files in the image
directory that its path hides. What is new is a directory on the way to the image directory or a
file in it. Nothing is touched and nothing asked for if no image has a URL. -/
theorem convert_framed (setting : Setting) (nodes : List Node) (w : World)
    (hfiles : w.files.WellFormed) (hfetcher : setting.fetcher.Confined)
    (hids : ∀ n, IsId (setting.ids n)) :
    let after := ((convert setting nodes).run w).2
    let directory := imageDirectory setting.options
    (∀ place item, w.files.item? place = some item →
      after.files.item? place = some item ∨ Hidden w.files directory place) ∧
    (∀ place item, w.files.item? place = none → after.files.item? place = some item →
      (item = .directory ∧ w.files.OnTheWay directory place) ∨
        ∃ content name, item = .file content ∧ Within w.files directory place name) ∧
    ((∀ source ∈ reachedSources nodes, ∀ url, Url.parse source ≠ .ok url) →
      after.files = w.files ∧ after.fetches = w.fetches) := by
  have hruns := convert_runs setting nodes
  have hframed : Framed (imageDirectory setting.options) w.files
      ((convert setting nodes).run w).2.files :=
    hruns.keeps (P := fun v => Framed (imageDirectory setting.options) w.files v.files)
      (fun _ h event _ => h.step hfiles hfetcher hids event) (.refl _ _)
  refine ⟨fun place item hitem => ?_, fun place item hnone hitem => ?_, fun hsources => ?_⟩
  · cases hframed.change place with
    | same hsame => exact .inl (hsame.trans hitem)
    | made hnone => cases hnone.symm.trans hitem
    | stored hnone => cases hnone.symm.trans hitem
    | replaced hidden => exact .inr hidden
  · cases hframed.change place with
    | same hsame => cases (hsame.trans hnone).symm.trans hitem
    | made _ hmade hway => exact .inl ⟨Option.some.inj (hitem.symm.trans hmade), hway⟩
    | stored _ hfile name hwithin =>
        cases item with
        | directory => exact absurd hitem hfile
        | file content => exact .inr ⟨content, name, rfl, hwithin⟩
    | replaced hidden =>
        obtain ⟨content, hfile⟩ := hidden.file
        cases hnone.symm.trans hfile
  · refine hruns.keeps (P := fun v => v.files = w.files ∧ v.fetches = w.fetches)
      (fun v hv event hevent => ?_) ⟨rfl, rfl⟩
    have hnoUrl : ∀ source ∈ event.source?, ∀ url, Url.parse source ≠ .ok url :=
      fun source hsource => hsources source (List.mem_filterMap.2 ⟨event, hevent, hsource⟩)
    obtain ⟨hsame, hsame'⟩ := step_of_not_url setting hnoUrl v
    exact ⟨hsame.trans hv.1, hsame'.trans hv.2⟩

/-- A source that points out of the image directory and one without a name. -/
theorem convert_framed_notes :
    let setting : Setting :=
      { options := { compilationDir := some ⟨"out"⟩, autogenImageNames := false }
        fetcher := .storing "new"
        ids := fun _ => "id" }
    let nodes : List Node :=
      [.element "img" [⟨"src", "a:/x/..%2F../notes"⟩] [],
        .element "p" [] [.element "img" [⟨"src", "https://h/.."⟩] []]]
    let files : FileSystem :=
      { items := [(["out"], .directory), (["out", "notes"], .file "old".toUTF8)] }
    ((convert setting nodes).run { files }).2.files.item? ["out", "notes"] =
      some (.file "old".toUTF8) := by
  intro setting nodes files
  have hfiles : files.WellFormed := .of_items (by simp [files, item?])
  have hid : IsId "id" := ⟨by decide, by decide, by decide⟩
  have hfetcher : setting.fetcher.Confined := Fetcher.storing_confined "new"
  obtain ⟨hkept, -⟩ := convert_framed setting nodes { files } hfiles hfetcher fun _ => hid
  rcases hkept ["out", "notes"] _ rfl with hsame | hidden
  · exact hsame
  · exact absurd hidden.stepsBack (by decide)

/-- The path of the image directory steps back from a missing directory. So the image in it is taken
    to be missing until the directory is made, and then it is replaced. -/
theorem convert_replaces_hidden :
    let setting : Setting :=
      { options := { compilationDir := some ⟨"missing/../out"⟩, autogenImageNames := false }
        fetcher := .storing "new"
        ids := fun _ => "id" }
    let nodes : List Node := [.element "img" [⟨"src", "a:/x.png"⟩] []]
    let files : FileSystem :=
      { items := [(["out"], .directory), (["out", "images"], .directory),
          (["out", "images", "x.png"], .file "old".toUTF8)] }
    files.WellFormed ∧ setting.fetcher.Confined ∧ (∀ n, IsId (setting.ids n)) ∧
      ¬ ∀ place item, files.item? place = some item →
        ((convert setting nodes).run { files }).2.files.item? place = some item := by
  intro setting nodes files
  have hfiles : files.WellFormed := .of_items (by simp [files, item?, List.lookup_cons])
  have hid : IsId "id" := ⟨by decide, by decide, by decide⟩
  refine ⟨hfiles, Fetcher.storing_confined "new", fun _ => hid, fun hkept => ?_⟩
  have hsame := hkept ["out", "images", "x.png"] _ rfl
  have hnew : (((convert setting nodes).run { files }).2.files.item? ["out", "images", "x.png"]
      == some (.file "old".toUTF8)) = false := by
    decide +kernel
  rw [hsame] at hnew
  cases hnew

end HtmlToLatex
