import Mathlib.Data.Set.Insert
import HtmlToLatex.Proofs.Directories
import HtmlToLatex.Proofs.DocumentOrder
import HtmlToLatex.Proofs.Retrievals

set_option autoImplicit false

/-! # Conversions that share a directory

Two conversions into one directory meet in its images: what one has stored the other does not ask
for. If images of one name have one URL, the files afterwards depend on the set of the images alone,
`Retrieved.same`, so the conversions can be made in either order, `convert_commutes`. -/

namespace HtmlToLatex

open FileSystem

/-! ## Images with URLs -/

/-- An image whose source is a URL with a name. -/
structure RemoteImage where
  url : Url
  name : String
  isName : IsName name
  deriving DecidableEq

/-- The image of a source, if it is a URL. -/
def remoteImage? (source : String) : Option RemoteImage :=
  match Url.parse source, hname : (sourcePath source).fileName? with
  | .ok url, some name => some { url, name, isName := (Path.fileName?_spec hname).1 }
  | _, _ => none

theorem remoteImage?_eq {source name : String} (hname : (sourcePath source).fileName? = some name) :
    remoteImage? source =
      match Url.parse source with
      | .ok url => some { url, name, isName := (Path.fileName?_spec hname).1 }
      | .error _ => none := by
  unfold remoteImage?
  split
  next hurl hname' =>
    cases hname.symm.trans hname'
    simp only [hurl]
  next hno =>
    cases hurl : Url.parse source with
    | ok url => exact absurd hname (hno url name hurl)
    | error e => rfl

/-- The images with URLs that a walk over a forest comes across. -/
def remoteImages (nodes : List Node) : List RemoteImage :=
  (reachedSources nodes).filterMap remoteImage?

/-- The file of an image in a directory. -/
def RemoteImage.path (directory : Path) (image : RemoteImage) : Path :=
  directory.join ⟨image.name⟩

theorem RemoteImage.placeOf_path (fs : FileSystem) (directory : Path) (image : RemoteImage) :
    fs.placeOf (image.path directory) = fs.placeOf directory ++ [image.name] :=
  placeOf_join fs directory image.isName

/-! ## Fetchers that answer by URL and destination -/

/-- Two file systems with the same items. -/
structure FileSystem.Same (fs fs' : FileSystem) : Prop where
  workingDirectory : fs'.workingDirectory = fs.workingDirectory
  item : ∀ place, fs'.item? place = fs.item? place

theorem FileSystem.Same.refl (fs : FileSystem) : Same fs fs := ⟨rfl, fun _ => rfl⟩

/-- The files after an answer is stored. They are as before if there is no content, or if it cannot
    be written. -/
def FileSystem.store (fs : FileSystem) (p : Path) (answer : Except FetchError ByteArray) :
    FileSystem :=
  match answer with
  | .error _ => fs
  | .ok content =>
    match fs.writeBytes p content with
    | .ok fs' => fs'
    | .error _ => fs

/-- What a fetcher stores depends on the URL and the destination only. -/
def Fetcher.Answers (fetcher : Fetcher) (answer : Url → Path → Except FetchError ByteArray) :
    Prop :=
  ∀ earlier request files,
    Same (files.store request.destination (answer request.url request.destination))
      (fetcher earlier request files).files

theorem Fetcher.storing_answers (text : String) :
    (storing text).Answers fun _ _ => .ok text.toUTF8 := by
  intro earlier request files
  unfold storing FileSystem.store writeText
  cases hwrite : files.writeBytes request.destination text.toUTF8 <;> simp only [hwrite, Same.refl]

/-! ## Images that are stored -/

section Stored

variable (directory : Path) (answer : Url → Path → Except FetchError ByteArray)
  (files : FileSystem)

/-- An image that was not there at the start is stored at a place, once the directory is made. -/
structure Stores (made : FileSystem) (image : RemoteImage) (place : Location)
    (content : ByteArray) : Prop where
  missing : files.existsAt (image.path directory) = false
  answered : answer image.url (image.path directory) = .ok content
  opens : made.fileToWrite (image.path directory) = .ok place

/-- The images that were not there at the start are stored, as far as they can be, and everything
    else is as it was when the directory was made. -/
structure Stored (images : Set RemoteImage) (made after : FileSystem) : Prop where
  workingDirectory : after.workingDirectory = made.workingDirectory
  stored : ∀ image ∈ images, ∀ place content,
    Stores directory answer files made image place content →
      after.item? place = some (.file content)
  other : ∀ place, (∀ image ∈ images, ∀ content,
    ¬Stores directory answer files made image place content) →
      after.item? place = made.item? place

/-- Images that do not get in the way of each other: those of one name have one URL, and making the
    directory does not bring the file of one to light. -/
structure Independent (images : List RemoteImage) : Prop where
  oneUrl : ∀ image ∈ images, ∀ other ∈ images, image.name = other.name → image.url = other.url
  inSight : ∀ image ∈ images,
    (files.makeDirectories directory).1.existsAt (image.path directory) = true →
      files.existsAt (image.path directory) = true

variable {directory answer files} {made after after' : FileSystem} {images : Set RemoteImage}
  {image : RemoteImage}

theorem Stores.place_eq {place : Location} {content : ByteArray}
    (h : Stores directory answer files made image place content) :
    place = made.placeOf directory ++ [image.name] := by
  rw [← placeOf_of_fileToWrite h.opens, image.placeOf_path]

namespace Stored

/-- The files are determined by the images. -/
theorem same (h : Stored directory answer files images made after)
    (h' : Stored directory answer files images made after') : Same after after' := by
  refine ⟨h'.workingDirectory.trans h.workingDirectory.symm, fun place => ?_⟩
  by_cases hplace : ∃ image ∈ images, ∃ content,
      Stores directory answer files made image place content
  · obtain ⟨image, himage, content, hstores⟩ := hplace
    rw [h.stored image himage place content hstores, h'.stored image himage place content hstores]
  · push Not at hplace
    rw [h.other place hplace, h'.other place hplace]

theorem of_same (h : Stored directory answer files images made after) (hsame : Same after after') :
    Stored directory answer files images made after' where
  workingDirectory := hsame.workingDirectory.trans h.workingDirectory
  stored image himage place content hstores := by
    rw [hsame.item, h.stored image himage place content hstores]
  other place hplace := by rw [hsame.item, h.other place hplace]

/-- There is nothing to store if all images are there. -/
theorem of_forall_existsAt
    (h : ∀ image ∈ images, files.existsAt (image.path directory) = true) (made : FileSystem) :
    Stored directory answer files images made made where
  workingDirectory := rfl
  stored image himage place content hstores := by
    cases hstores.missing.symm.trans (h image himage)
  other _ _ := rfl

/-- Images are stored as files where no directory is. -/
theorem keepsDirectories (h : Stored directory answer files images made after) :
    KeepsDirectories made after ∧ KeepsDirectories after made := by
  have hplace (place : Location) : after.item? place = made.item? place ∨
      ((∃ content, after.item? place = some (.file content)) ∧
        made.item? place ≠ some .directory) := by
    by_cases hplace : ∃ image ∈ images, ∃ content,
        Stores directory answer files made image place content
    · obtain ⟨image, himage, content, hstores⟩ := hplace
      refine .inr ⟨⟨content, h.stored image himage place content hstores⟩, ?_⟩
      obtain ⟨front, dir, last, hopens, rfl⟩ := fileToWrite_ok hstores.opens
      exact hopens.noDirectory
    · push Not at hplace
      exact .inl (h.other place hplace)
  constructor
  · intro place hdirectory
    rcases hplace place with hsame | ⟨-, hno⟩
    · rw [hsame, hdirectory]
    · exact absurd hdirectory hno
  · intro place hdirectory
    rcases hplace place with hsame | ⟨⟨content, hfile⟩, -⟩
    · rw [← hsame, hdirectory]
    · cases hfile.symm.trans hdirectory

/-- Where nothing is stored, nothing comes or goes. -/
theorem existsAt_eq (h : Stored directory answer files images made after) {p : Path}
    (hp : ∀ image ∈ images, ∀ content,
      ¬Stores directory answer files made image (made.placeOf p) content) :
    after.existsAt p = made.existsAt p := by
  obtain ⟨hdirs, hback⟩ := h.keepsDirectories
  have hitem := h.other _ hp
  have hleads := placeOf_congr h.workingDirectory p
  rw [Bool.eq_iff_iff]
  constructor
  · refine existsAt_keeps h.workingDirectory.symm hback fun item => ?_
    rw [hleads, hitem]
    exact id
  · refine existsAt_keeps h.workingDirectory hdirs fun item => ?_
    rw [hitem]
    exact id

theorem fileToWrite_eq (h : Stored directory answer files images made after) {p : Path}
    {place : Location} : after.fileToWrite p = .ok place ↔ made.fileToWrite p = .ok place := by
  obtain ⟨hdirs, hback⟩ := h.keepsDirectories
  exact ⟨fileToWrite_keeps h.workingDirectory.symm hback hdirs,
    fileToWrite_keeps h.workingDirectory hdirs hback⟩

/-- An image for which nothing is left to do can be added. -/
theorem add (h : Stored directory answer files images made after)
    (himage : ∀ place content, Stores directory answer files made image place content →
      after.item? place = some (.file content)) :
    Stored directory answer files (insert image images) made after where
  workingDirectory := h.workingDirectory
  stored other hother place content hstores := by
    rcases Set.mem_insert_iff.1 hother with rfl | hother
    · exact himage place content hstores
    · exact h.stored other hother place content hstores
  other place hplace :=
    h.other place fun other hother => hplace other (Set.mem_insert_of_mem _ hother)

variable {all : List RemoteImage} (hall : Independent directory files all)
  (himages : ∀ image ∈ images, image ∈ all) (himage : image ∈ all)

include hall himages himage

/-- What another image has stored at the place of an image is what is to be stored there. -/
theorem content_eq {other : RemoteImage} (hother : other ∈ images) {place : Location}
    {content content' : ByteArray} (h : Stores directory answer files made image place content)
    (h' : Stores directory answer files made other place content') : content = content' := by
  have hname : image.name = other.name := by simpa using h.place_eq.symm.trans h'.place_eq
  have hurl := hall.oneUrl image himage other (himages other hother) hname
  have hanswer := h'.answered
  rw [← hurl, RemoteImage.path, ← hname] at hanswer
  exact Except.ok.inj (h.answered.symm.trans hanswer)

/-- An image that is there by now is stored. -/
theorem add_of_existsAt (h : Stored directory answer files images made after)
    (hmade : (files.makeDirectories directory).1 = made)
    (hthere : after.existsAt (image.path directory) = true) :
    Stored directory answer files (insert image images) made after := by
  refine h.add fun place content hstores => ?_
  by_cases hplace : ∃ other ∈ images, ∃ content',
      Stores directory answer files made other place content'
  · obtain ⟨other, hother, content', hstores'⟩ := hplace
    rw [content_eq hall himages himage hother hstores hstores']
    exact h.stored other hother place content' hstores'
  · -- Nobody has stored it, so it was there when the directory was made, and so before.
    push Not at hplace
    rw [← placeOf_of_fileToWrite hstores.opens] at hplace
    rw [h.existsAt_eq hplace] at hthere
    have hinSight := hall.inSight image himage
    rw [hmade] at hinSight
    cases hstores.missing.symm.trans (hinSight hthere)

/-- An image that is asked for is stored if it can be. -/
theorem store (h : Stored directory answer files images made after)
    (hmissing : files.existsAt (image.path directory) = false) :
    Stored directory answer files (insert image images) made
      (after.store (image.path directory) (answer image.url (image.path directory))) := by
  unfold FileSystem.store
  cases hanswer : answer image.url (image.path directory) with
  | error e =>
      refine h.add fun place content hstores => ?_
      cases hanswer.symm.trans hstores.answered
  | ok content =>
      dsimp only
      unfold writeBytes
      cases hwrite : after.fileToWrite (image.path directory) with
      | error e =>
          refine h.add fun place content hstores => ?_
          cases hwrite.symm.trans (h.fileToWrite_eq.2 hstores.opens)
      | ok place =>
          have hstores : Stores directory answer files made image place content :=
            ⟨hmissing, hanswer, h.fileToWrite_eq.1 hwrite⟩
          have hne : place ≠ [] := by simp [hstores.place_eq]
          change Stored _ _ _ _ _ (after.setItem place (.file content))
          refine ⟨h.workingDirectory, fun other hother place' content' hstores' => ?_,
            fun place' hplace' => ?_⟩
          · -- Another image at this place has the same name, so it is the same content.
            by_cases hsame : place' = place
            · subst hsame
              rw [item?_setItem_self after hne]
              rcases Set.mem_insert_iff.1 hother with rfl | hother
              · rw [Except.ok.inj (hstores.answered.symm.trans hstores'.answered)]
              · rw [content_eq hall himages himage hother hstores hstores']
            · rw [item?_setItem_of_ne after hsame]
              rcases Set.mem_insert_iff.1 hother with rfl | hother
              · exact absurd (hstores'.place_eq.trans hstores.place_eq.symm) hsame
              · exact h.stored other hother place' content' hstores'
          · have hsame : place' ≠ place := by
              rintro rfl
              exact hplace' image (Set.mem_insert _ _) content hstores
            rw [item?_setItem_of_ne after hsame]
            exact h.other place' fun other hother => hplace' other (Set.mem_insert_of_mem _ hother)

omit hall himages himage in
/-- An image that is missing now was missing at the start. -/
theorem missing (h : Stored directory answer files images made after)
    (hmade : (files.makeDirectories directory).1 = made)
    (hmissing : after.existsAt (image.path directory) = false) :
    files.existsAt (image.path directory) = false := by
  by_contra hthere
  rw [Bool.not_eq_false] at hthere
  have hno : ∀ other ∈ images, ∀ content,
      ¬Stores directory answer files made other (made.placeOf (image.path directory)) content := by
    intro other _ content hstores
    have hname : image.name = other.name := by
      simpa [image.placeOf_path] using hstores.place_eq
    have hmissing' := hstores.missing
    rw [RemoteImage.path, ← hname] at hmissing'
    cases hmissing'.symm.trans hthere
  have hadds := makeDirectories_adds files directory
  rw [hmade] at hadds
  rw [h.existsAt_eq hno, hadds.existsAt hthere] at hmissing
  cases hmissing

end Stored

end Stored

/-! ## The files after images were retrieved -/

section Retrieved

variable (directory : Path) (answer : Url → Path → Except FetchError ByteArray)
  (files : FileSystem)

/-- What has become of the files when images were retrieved, said by the images as a set: nothing,
    if all were there; otherwise the directory is made, and if that works, the images are stored. -/
inductive Retrieved (images : Set RemoteImage) (after : FileSystem) : Prop where
  | untouched (hthere : ∀ image ∈ images, files.existsAt (image.path directory) = true)
      (hafter : after = files)
  | noDirectory (hmissing : ∃ image ∈ images, files.existsAt (image.path directory) = false)
      (e : FileError) (hmade : files.makeDirectories directory = (after, .error e))
  | stored (hmissing : ∃ image ∈ images, files.existsAt (image.path directory) = false)
      (made : FileSystem) (hmade : files.makeDirectories directory = (made, .ok ()))
      (h : Stored directory answer files images made after)

variable {directory answer files} {images : Set RemoteImage} {image : RemoteImage}
  {after after' : FileSystem}

/-- **The files depend on the set of the images alone.** -/
theorem Retrieved.same (h : Retrieved directory answer files images after)
    (h' : Retrieved directory answer files images after') : Same after after' := by
  have hno (hthere : ∀ image ∈ images, files.existsAt (image.path directory) = true)
      (hmissing : ∃ image ∈ images, files.existsAt (image.path directory) = false) : False := by
    obtain ⟨image, himage, hmissing⟩ := hmissing
    cases hmissing.symm.trans (hthere image himage)
  cases h with
  | untouched hthere hafter =>
      cases h' with
      | untouched _ hafter' =>
          subst hafter hafter'
          exact .refl _
      | noDirectory hmissing => exact (hno hthere hmissing).elim
      | stored hmissing => exact (hno hthere hmissing).elim
  | noDirectory hmissing e hmade =>
      cases h' with
      | untouched hthere => exact (hno hthere hmissing).elim
      | noDirectory _ e' hmade' =>
          cases hmade.symm.trans hmade'
          exact .refl _
      | stored _ made' hmade' => cases hmade.symm.trans hmade'
  | stored hmissing made hmade h =>
      cases h' with
      | untouched hthere => exact (hno hthere hmissing).elim
      | noDirectory _ e' hmade' => cases hmade.symm.trans hmade'
      | stored _ made' hmade' h' =>
          cases hmade.symm.trans hmade'
          exact h.same h'

variable {setting : Setting} {all : List RemoteImage}
  (hdirectory : imageDirectory setting.options = directory)
  (hfetcher : setting.fetcher.Answers answer) (hall : Independent directory files all)

include hdirectory hfetcher hall

/-- **Providing an image adds it to the set.** -/
theorem Retrieved.provide {source : String} {w after : World} {retrieval? : Option Retrieval}
    (himages : ∀ image ∈ images, image ∈ all) (himage : image ∈ all)
    (hurl : Url.parse source = .ok image.url)
    (h : Retrieved directory answer files images w.files)
    (hstep : Provision setting source (image.path directory) w retrieval? after) :
    Retrieved directory answer files (insert image images) after.files := by
  have hmono : (∃ image ∈ images, files.existsAt (image.path directory) = false) →
      ∃ other ∈ insert image images, files.existsAt (other.path directory) = false :=
    fun ⟨other, hother, hmissing⟩ => ⟨other, Set.mem_insert_of_mem _ hother, hmissing⟩
  cases hstep with
  | idle hidle _ hfiles =>
      have hthere : w.files.existsAt (image.path directory) = true :=
        hidle.resolve_right fun hno => hno _ hurl
      rw [hfiles]
      cases h with
      | untouched hthere' hafter =>
          rw [hafter] at hthere
          exact .untouched (Set.forall_mem_insert.2 ⟨hthere, hthere'⟩) hafter
      | noDirectory hmissing e hmade => exact .noDirectory (hmono hmissing) e hmade
      | stored hmissing made hmade h =>
          exact .stored (hmono hmissing) made hmade
            (h.add_of_existsAt hall himages himage (by rw [hmade]) hthere)
  | noDirectory hmissing url hurl' e _ hmade' =>
      rw [hdirectory] at hmade'
      cases h with
      | untouched _ hafter =>
          rw [hafter] at hmissing hmade'
          exact .noDirectory ⟨image, Set.mem_insert _ _, hmissing⟩ e hmade'
      | noDirectory hmissing' e' hmade =>
          obtain ⟨r, hagain, -⟩ := makeDirectories_again hmade
          obtain ⟨hsame, -⟩ := Prod.mk.inj (hmade'.symm.trans hagain)
          rw [hsame]
          exact .noDirectory (hmono hmissing') e' hmade
      | stored _ made hmade h =>
          -- The directory is there by now, so it cannot fail to be made.
          have hagain := makeDirectories_of_keeps hmade h.workingDirectory h.keepsDirectories.1
          cases (Prod.mk.inj (hmade'.symm.trans hagain)).2
  | asked hmissing url hurl' made' reply hmade' hreply _ hfiles =>
      rw [hdirectory] at hmade'
      cases hurl.symm.trans hurl'
      have hanswers := hfetcher w.fetches ⟨image.url, image.path directory⟩ made'
      rw [hreply] at hanswers
      rw [hfiles]
      cases h with
      | untouched hthere hafter =>
          rw [hafter] at hmissing hmade'
          exact .stored ⟨image, Set.mem_insert _ _, hmissing⟩ made' hmade'
            (((Stored.of_forall_existsAt hthere made').store hall himages himage hmissing).of_same
              hanswers)
      | noDirectory _ e hmade =>
          -- What has failed once fails again.
          obtain ⟨r, hagain, hsame⟩ := makeDirectories_again hmade
          cases hmade'.symm.trans hagain
          cases hsame
      | stored hmissing' made hmade h =>
          have hagain := makeDirectories_of_keeps hmade h.workingDirectory h.keepsDirectories.1
          cases hmade'.symm.trans hagain
          have hmissing := h.missing (by rw [hmade]) hmissing
          exact .stored (hmono hmissing') made hmade
            ((h.store hall himages himage hmissing).of_same hanswers)

/-- The step of a source adds its image to the set, if it is a URL. -/
theorem Retrieved.step {source name : String} {w : World}
    (hname : (sourcePath source).fileName? = some name)
    (hnext : ∀ w, nextName setting source w = name)
    (himages : ∀ image ∈ images, image ∈ all)
    (himage : ∀ image, remoteImage? source = some image → image ∈ all)
    (h : Retrieved directory answer files images w.files) :
    Retrieved directory answer files ({image | remoteImage? source = some image} ∪ images)
      ((convertSource setting source).run w).2.files := by
  have hstep := step_provision setting source w
  rw [hnext, imagePath, hdirectory, Event.step] at hstep
  rw [remoteImage?_eq hname] at himage ⊢
  cases hurl : Url.parse source with
  | error e =>
      have hfiles : ((convertSource setting source).run w).2.files = w.files := by
        cases hstep with
        | idle _ _ hfiles => exact hfiles
        | noDirectory _ url hurl' => cases hurl.symm.trans hurl'
        | asked _ url hurl' => cases hurl.symm.trans hurl'
      rw [hfiles]
      simpa using h
  | ok url =>
      rw [hurl] at himage
      have hadded := h.provide hdirectory hfetcher hall himages (himage _ rfl) hurl hstep
      rw [Set.insert_eq] at hadded
      simpa [Set.ext_iff, eq_comm] using hadded

/-- Sources taken one after the other add their images to the set. -/
theorem Retrieved.foldl {sources : List String}
    (hnamed : ∀ source ∈ sources, ∃ name, (sourcePath source).fileName? = some name ∧
      ∀ w, nextName setting source w = name)
    (himages : ∀ image ∈ images, image ∈ all)
    (hsources : ∀ image ∈ sources.filterMap remoteImage?, image ∈ all) {w : World}
    (h : Retrieved directory answer files images w.files) :
    Retrieved directory answer files
      ({image | image ∈ sources.filterMap remoteImage?} ∪ images)
      (sources.foldl (fun w source => ((convertSource setting source).run w).2) w).files := by
  induction sources generalizing images w with
  | nil => simpa using h
  | cons source sources ih =>
      rw [List.forall_mem_cons] at hnamed
      obtain ⟨⟨name, hname, hnext⟩, hrest⟩ := hnamed
      have hmem (image : RemoteImage) : image ∈ (source :: sources).filterMap remoteImage? ↔
          remoteImage? source = some image ∨ image ∈ sources.filterMap remoteImage? := by
        simp
      simp only [hmem] at hsources ⊢
      have himages' :
          ∀ image ∈ {image | remoteImage? source = some image} ∪ images, image ∈ all := by
        rintro image (himage | himage)
        · exact hsources image (.inl himage)
        · exact himages image himage
      have hstep := h.step hdirectory hfetcher hall hname hnext himages
        fun image himage => hsources image (.inl himage)
      have hfinal := ih hrest himages' (fun image himage => hsources image (.inr himage)) hstep
      rw [← Set.union_assoc,
        Set.union_comm {image | image ∈ sources.filterMap remoteImage?}] at hfinal
      exact hfinal

/-- A conversion adds the images of its forest to the set. -/
theorem Retrieved.convert {nodes : List Node} (hnames : KeepsNames setting.options nodes)
    (himages : ∀ image ∈ images, image ∈ all) (hnodes : ∀ image ∈ remoteImages nodes, image ∈ all)
    {w : World} (h : Retrieved directory answer files images w.files) :
    Retrieved directory answer files ({image | image ∈ remoteImages nodes} ∪ images)
      ((HtmlToLatex.convert setting nodes).run w).2.files := by
  rw [convert_runs setting nodes w, ((SameEffects.refl w).foldl_step setting _).files]
  exact h.foldl hdirectory hfetcher hall
    (fun source hsource => hnames.exists_name (mem_imageSources_of_reached hsource)) himages hnodes

end Retrieved

/-- If a path has no `..`, making the directory brings no file in it to light. -/
theorem existsAt_of_makeDirectories {files : FileSystem} (hfiles : files.WellFormed)
    {directory : Path} (hdots : ".." ∉ namesOf directory) {name : String} (hname : IsName name)
    (h : (files.makeDirectories directory).1.existsAt (directory.join ⟨name⟩) = true) :
    files.existsAt (directory.join ⟨name⟩) = true := by
  have hadds := makeDirectories_adds files directory
  generalize (files.makeDirectories directory).1 = made at h hadds
  rw [existsAt_iff] at h ⊢
  obtain ⟨hcheck, hnil | ⟨front, dir, last, place, item, h⟩⟩ := h
  · rw [namesOf_join hname] at hnil
    simp at hnil
  have hnames := h.names
  rw [namesOf_join hname] at hnames
  obtain ⟨rfl, hlast⟩ := List.append_inj' hnames rfl
  obtain rfl : name = last := by simpa using hlast
  have hstart : made.start (directory.join ⟨name⟩) = files.start directory := by
    rw [start_join made directory hname, start_congr hadds.workingDirectory]
  have hdescend := h.descend
  rw [hstart] at hdescend
  obtain ⟨rfl, ⟨hdots' | hdots', -⟩ | ⟨hlookup, hmade⟩⟩ := enter_ok h.enter
  · exact absurd hdots' hname.ne_dot
  · exact absurd hdots' hname.ne_dots
  have hitem : files.item? (dir ++ [name]) = some item := by
    have hdir : files.placeOf directory = dir := (descend_ok hdescend).symm
    rw [← hdir, ← hadds.item?_within hdots, hdir, ← hlookup.towards, hmade]
  have hthen := hfiles.descend_of_item? (stepsBack_of_not_mem hdots) hdescend hitem
  refine ⟨hcheck, .inr
    ⟨namesOf directory, dir, name, dir ++ [name], item, h.names, ?_, ?_, h.slash⟩⟩
  · rw [start_join files directory hname]
    exact hthen
  · rw [enter_of_isLookedUp hlookup, hitem]

/-- **Conversions into one directory commute.** Two conversions with names from the sources and one
fetcher, whose outcome depends on the URL and the destination only, give the same texts and the same
files in either order, if images of one name have one URL and making the image directory brings
none of them to light. -/
theorem convert_commutes (setting setting' : Setting) (nodes nodes' : List Node) (w : World)
    (answer : Url → Path → Except FetchError ByteArray)
    (hnames : KeepsNames setting.options nodes) (hnames' : KeepsNames setting'.options nodes')
    (hdirectory : imageDirectory setting.options = imageDirectory setting'.options)
    (hfetcher : setting.fetcher.Answers answer) (hfetcher' : setting'.fetcher.Answers answer)
    (hall : Independent (imageDirectory setting.options) w.files
      (remoteImages nodes ++ remoteImages nodes')) :
    let first := (convert setting nodes).run w
    let second := (convert setting' nodes').run first.2
    let first' := (convert setting' nodes').run w
    let second' := (convert setting nodes).run first'.2
    first.1 = second'.1 ∧ second.1 = first'.1 ∧ Same second.2.files second'.2.files := by
  intro first second first' second'
  refine ⟨hnames.text_eq _ _, hnames'.text_eq _ _, ?_⟩
  have hstart : Retrieved (imageDirectory setting.options) answer w.files ∅ w.files :=
    .untouched (by simp) rfl
  have hnodes : ∀ image ∈ remoteImages nodes, image ∈ remoteImages nodes ++ remoteImages nodes' :=
    fun image himage => List.mem_append_left _ himage
  have hnodes' : ∀ image ∈ remoteImages nodes', image ∈ remoteImages nodes ++ remoteImages nodes' :=
    fun image himage => List.mem_append_right _ himage
  have hfirst := hstart.convert rfl hfetcher hall hnames (by simp) hnodes
  have hsecond :=
    hfirst.convert hdirectory.symm hfetcher' hall hnames' (by simpa using hnodes) hnodes'
  have hfirst' := hstart.convert hdirectory.symm hfetcher' hall hnames' (by simp) hnodes'
  have hsecond' := hfirst'.convert rfl hfetcher hall hnames (by simpa using hnodes') hnodes
  rw [Set.union_left_comm] at hsecond'
  exact hsecond.same hsecond'

/-- Two forests that share one image. -/
theorem convert_commutes_shared :
    let setting : Setting :=
      { options := { compilationDir := some ⟨"out"⟩, autogenImageNames := false }
        fetcher := .storing "new"
        ids := fun _ => "id" }
    let nodes : List Node :=
      [.element "img" [⟨"src", "a:/x.png"⟩] [], .element "img" [⟨"src", "a:/y.png"⟩] []]
    let nodes' : List Node :=
      [.element "p" [] [.element "img" [⟨"src", "a:/x.png"⟩] []],
        .element "img" [⟨"src", "a:/z.png"⟩] []]
    let files : FileSystem :=
      { items := [(["out"], .directory), (["out", "images"], .directory),
          (["out", "images", "y.png"], .file "old".toUTF8)] }
    let first := (convert setting nodes).run { files }
    let first' := (convert setting nodes').run { files }
    Same ((convert setting nodes').run first.2).2.files
      ((convert setting nodes).run first'.2).2.files := by
  intro setting nodes nodes' files
  have hfiles : files.WellFormed := .of_items (by simp [files, item?, List.lookup_cons])
  have hnames : KeepsNames setting.options nodes := ⟨rfl, by decide +kernel⟩
  have hnames' : KeepsNames setting.options nodes' := ⟨rfl, by decide +kernel⟩
  have hall : Independent (imageDirectory setting.options) files
      (remoteImages nodes ++ remoteImages nodes') :=
    ⟨by decide +kernel, fun image _ =>
      existsAt_of_makeDirectories hfiles (by decide +kernel) image.isName⟩
  have hanswers := Fetcher.storing_answers "new"
  exact (convert_commutes setting setting nodes nodes' { files } _ hnames hnames' rfl hanswers
    hanswers hall).2.2

/-- The path of the image directory steps back from a missing directory. Each conversion takes its
    image to be missing only if it comes first, and then replaces it. -/
theorem convert_commutes_not_hidden :
    let setting : Setting :=
      { options := { compilationDir := some ⟨"missing/../out"⟩, autogenImageNames := false }
        fetcher := .storing "new"
        ids := fun _ => "id" }
    let nodes : List Node := [.element "img" [⟨"src", "a:/x.png"⟩] []]
    let nodes' : List Node := [.element "img" [⟨"src", "a:/y.png"⟩] []]
    let files : FileSystem :=
      { items := [(["out"], .directory), (["out", "images"], .directory),
          (["out", "images", "x.png"], .file "old".toUTF8),
          (["out", "images", "y.png"], .file "old".toUTF8)] }
    let first := (convert setting nodes).run { files }
    let first' := (convert setting nodes').run { files }
    KeepsNames setting.options nodes ∧ KeepsNames setting.options nodes' ∧
      setting.fetcher.Answers (fun _ _ => .ok "new".toUTF8) ∧
      (∀ image ∈ remoteImages nodes ++ remoteImages nodes',
        ∀ other ∈ remoteImages nodes ++ remoteImages nodes',
          image.name = other.name → image.url = other.url) ∧
      ¬Same ((convert setting nodes').run first.2).2.files
        ((convert setting nodes).run first'.2).2.files := by
  intro setting nodes nodes' files
  refine ⟨⟨rfl, by decide +kernel⟩, ⟨rfl, by decide +kernel⟩, Fetcher.storing_answers "new",
    by decide +kernel, fun hsame => ?_⟩
  have hnew : (((convert setting nodes').run
      ((convert setting nodes).run { files }).2).2.files.item? ["out", "images", "x.png"] ==
        some (.file "new".toUTF8)) = true := by
    decide +kernel
  have hold : (((convert setting nodes).run
      ((convert setting nodes').run { files }).2).2.files.item? ["out", "images", "x.png"] ==
        some (.file "new".toUTF8)) = false := by
    decide +kernel
  rw [hsame.item] at hold
  cases hnew.symm.trans hold

end HtmlToLatex
