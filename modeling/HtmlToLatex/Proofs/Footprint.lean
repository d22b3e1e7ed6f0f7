import HtmlToLatex.Proofs.Independence

set_option autoImplicit false

/-! # Which files images change

`Supplied` describes the files after images of some names were provided, to the point: nothing has
happened yet, or the image directory could not be had, or it was made and images were stored in it
under their names. So a file that was there at the start is still the same, unless making the
directory has brought it to light (`Supplied.file_cases`), and a file that was not there is one of
the images (`Supplied.old_or_stored`). -/

namespace HtmlToLatex

open Conversion FileSystem

/-! ## Files that come to light -/

/-- A path in a directory leads to nothing until the directory is made with those above it. -/
structure ComesToLight (files : FileSystem) (directory : Path) (name : String) : Prop where
  hidden : files.existsAt (directory.join ⟨name⟩) = false
  seen : (files.makeDirectories directory).1.existsAt (directory.join ⟨name⟩) = true

/-- Only the path of a directory that steps back can hide what is there. -/
theorem ComesToLight.mem_namesOf {files : FileSystem} {directory : Path} {name : String}
    (h : ComesToLight files directory name) (hfiles : files.WellFormed) (hname : IsName name) :
    ".." ∈ namesOf directory := by
  by_contra hdots
  cases h.hidden.symm.trans (existsAt_of_makeDirectories hfiles hdots hname h.seen)

/-- Making a directory misses nothing if those above it are there. -/
theorem makeDirectory_ne_notFound {files : FileSystem} {p : Path} {front : List String}
    {dir : Location} {last : String} (hempty : p.text ≠ "") (hnames : namesOf p = front ++ [last])
    (hdescend : files.descend (files.start p) front = .ok dir) :
    files.makeDirectory p ≠ .error .notFound := by
  intro h
  unfold makeDirectory at h
  cases hcheck : checkPath p with
  | error e =>
      rw [resolveParent, hcheck] at h
      cases h
      unfold checkPath at hcheck
      rw [if_neg hempty] at hcheck
      repeat' split at hcheck
      all_goals cases hcheck
  | ok u =>
      rw [resolveParent_of_descend hcheck hnames hdescend] at h
      change (if last = "." ∨ last = ".." then Except.error FileError.exists else _) = _ at h
      split at h
      · cases h
      · split at h
        · cases h
        · cases h
        next hne _ =>
          cases h
          exact hne rfl

/-- A directory is the only one to be made if those above it are there. -/
theorem makeDirectories_below {files : FileSystem} {p : Path} {front : List String} {dir : Location}
    {last : String} (hnames : namesOf p = front ++ [last])
    (hdescend : files.descend (files.start p) front = .ok dir) :
    (files.makeDirectories p).1 = files ∨
      (files.item? (dir ++ [last]) = none ∧
        (files.makeDirectories p).1 = files.setItem (dir ++ [last]) .directory) := by
  unfold FileSystem.makeDirectories makeDirectoriesTo
  split
  · exact .inl rfl
  next hempty =>
    split
    next made hmake =>
      obtain ⟨front', dir', last', hnames', hdescend', -, hnone, rfl⟩ := makeDirectory_ok hmake
      obtain ⟨rfl, hlast⟩ := List.append_inj' (hnames.symm.trans hnames') rfl
      obtain rfl : last = last' := by simpa using hlast
      obtain rfl : dir = dir' := Except.ok.inj (hdescend.symm.trans hdescend')
      exact .inr ⟨hnone, rfl⟩
    next hmissing => exact absurd hmissing (makeDirectory_ne_notFound hempty hnames hdescend)
    · split <;> exact .inl rfl

/-- What is in a directory cannot come to light if the directory above that one is there. -/
theorem ComesToLight.not_descend {files : FileSystem} {base : Path} {sub name : String}
    (h : ComesToLight files (base.join ⟨sub⟩) name) (hfiles : files.WellFormed)
    (hsub : IsName sub) (hname : IsName name) (dir : Location) :
    files.descend (files.start base) (namesOf base) ≠ .ok dir := by
  intro hdescend
  have hseen := h.seen
  have hstart : files.start (base.join ⟨sub⟩) = files.start base := start_join files base hsub
  rcases makeDirectories_below (namesOf_join hsub base) (hstart ▸ hdescend) with
    hsame | ⟨hnone, hmade⟩
  · rw [hsame] at hseen
    cases h.hidden.symm.trans hseen
  · obtain ⟨-, hnil | ⟨front, place, last, leads, item, hreaches⟩⟩ := existsAt_iff.1 hseen
    · rw [namesOf_join hname] at hnil
      simp at hnil
    obtain ⟨rfl, hlast⟩ := List.append_inj' ((namesOf_join hname _).symm.trans hreaches.names) rfl
    obtain rfl : name = last := by simpa using hlast
    have hplace : place = dir ++ [sub] := by
      have hleads := placeOf_join files base hsub
      rw [placeOf, placeOf, ← descend_ok hdescend] at hleads
      rw [descend_ok hreaches.descend, start_join _ _ hname, hmade]
      exact hleads
    obtain ⟨rfl, ⟨hdots | hdots, -⟩ | ⟨hlookup, hitem⟩⟩ := enter_ok hreaches.enter
    · exact absurd hdots hname.ne_dot
    · exact absurd hdots hname.ne_dots
    -- What is in the directory was there before, and so was the directory.
    rw [hlookup.towards, hplace, hmade, item?_setItem_of_ne files (by simp)] at hitem
    cases hnone.symm.trans (hfiles _ _ _ hitem)

/-- A place in a directory that comes to light when the directory is made. -/
def Uncovered (files : FileSystem) (directory : Path) (place : Location) : Prop :=
  ∃ name, Within files directory place name ∧ ComesToLight files directory name

theorem Uncovered.mem_namesOf {files : FileSystem} {directory : Path} {place : Location}
    (h : Uncovered files directory place) (hfiles : files.WellFormed) :
    ".." ∈ namesOf directory := by
  obtain ⟨name, hwithin, hlight⟩ := h
  exact hlight.mem_namesOf hfiles hwithin.isName

/-! ## Images that are stored -/

/-- Images of some names that were not there at the start are stored in a directory, and everything
    else is as it was when the directory was made. -/
structure Stocked (directory : Path) (initial made : FileSystem) (names : Set String)
    (files : FileSystem) : Prop where
  workingDirectory : files.workingDirectory = made.workingDirectory
  item : ∀ place, files.item? place = made.item? place ∨
    ∃ name ∈ names, IsName name ∧ initial.existsAt (directory.join ⟨name⟩) = false ∧
      made.fileToWrite (directory.join ⟨name⟩) = .ok place ∧ files.item? place ≠ some .directory

/-- The files after images of some names were provided in a directory: as at the start, or as the
    failure to make the directory has left them, or with images in the directory. -/
inductive Supplied (directory : Path) (initial : FileSystem) (names : Set String)
    (files : FileSystem) : Prop where
  | untouched (h : files = initial)
  | noDirectory (e : FileError) (h : initial.makeDirectories directory = (files, .error e))
  | stocked (made : FileSystem) (hmade : initial.makeDirectories directory = (made, .ok ()))
      (h : Stocked directory initial made names files)

variable {directory : Path} {initial made files : FileSystem} {names : Set String} {name : String}

namespace Stocked

theorem mono {names' : Set String} (h : Stocked directory initial made names files)
    (hnames : names ⊆ names') : Stocked directory initial made names' files :=
  ⟨h.workingDirectory, fun place => (h.item place).imp_right fun ⟨name, hname, hstored⟩ =>
    ⟨name, hnames hname, hstored⟩⟩

/-- Images are stored as files where no directory is. -/
theorem keepsDirectories (h : Stocked directory initial made names files) :
    KeepsDirectories made files ∧ KeepsDirectories files made := by
  constructor <;> intro place hdirectory <;>
    rcases h.item place with hsame | ⟨name, -, -, -, hwrite, hfile⟩
  · rw [hsame, hdirectory]
  · obtain ⟨front, dir, last, hopens, rfl⟩ := fileToWrite_ok hwrite
    exact absurd hdirectory hopens.noDirectory
  · rw [← hsame, hdirectory]
  · exact absurd hdirectory hfile

/-- Storing images neither brings nor takes away another one, nor one that was there at the
    start. -/
theorem existsAt_eq (h : Stocked directory initial made names files) (hname : IsName name)
    (hother : name ∉ names ∨ initial.existsAt (directory.join ⟨name⟩) = true) :
    files.existsAt (directory.join ⟨name⟩) = made.existsAt (directory.join ⟨name⟩) := by
  obtain ⟨hdirs, hback⟩ := h.keepsDirectories
  have hleads := placeOf_congr h.workingDirectory (directory.join ⟨name⟩)
  have hitem : files.item? (made.placeOf (directory.join ⟨name⟩)) =
      made.item? (made.placeOf (directory.join ⟨name⟩)) := by
    rcases h.item (made.placeOf (directory.join ⟨name⟩)) with
      hsame | ⟨stored, hmem, hstored, hmissing, hwrite, -⟩
    · exact hsame
    · have hplace := placeOf_of_fileToWrite hwrite
      rw [placeOf_join _ _ hstored, placeOf_join _ _ hname] at hplace
      obtain rfl : stored = name := by simpa using hplace
      rcases hother with hnot | hthere
      · exact absurd hmem hnot
      · cases hmissing.symm.trans hthere
  rw [Bool.eq_iff_iff]
  constructor
  · refine existsAt_keeps h.workingDirectory.symm hback fun item => ?_
    rw [hleads, hitem]
    exact id
  · refine existsAt_keeps h.workingDirectory hdirs fun item => ?_
    rw [hitem]
    exact id

/-- An image that is missing now was missing at the start. -/
theorem missing (h : Stocked directory initial made names files)
    (hmade : initial.makeDirectories directory = (made, .ok ())) (hname : IsName name)
    (hmissing : files.existsAt (directory.join ⟨name⟩) = false) :
    initial.existsAt (directory.join ⟨name⟩) = false := by
  by_contra hthere
  rw [Bool.not_eq_false] at hthere
  have hadds := makeDirectories_adds initial directory
  rw [hmade] at hadds
  rw [h.existsAt_eq hname (.inr hthere), hadds.existsAt hthere] at hmissing
  cases hmissing

/-- Making the directory again changes nothing. -/
theorem makeDirectories_eq (h : Stocked directory initial made names files)
    (hmade : initial.makeDirectories directory = (made, .ok ())) :
    files.makeDirectories directory = (files, .ok ()) :=
  makeDirectories_of_keeps hmade h.workingDirectory h.keepsDirectories.1

/-- An image that was missing is stored. -/
theorem touchesOnly {files' : FileSystem} (h : Stocked directory initial made names files)
    (hname : IsName name) (hmissing : initial.existsAt (directory.join ⟨name⟩) = false)
    (htouches : TouchesOnly (directory.join ⟨name⟩) files files') :
    Stocked directory initial made (insert name names) files' := by
  obtain ⟨hdirs, hback⟩ := h.keepsDirectories
  refine ⟨htouches.workingDirectory.trans h.workingDirectory, fun place => ?_⟩
  rcases htouches.item place with hsame | ⟨hwrite, hfile⟩
  · rw [hsame]
    exact (h.mono (Set.subset_insert name names)).item place
  · have hwrite' := fileToWrite_keeps h.workingDirectory.symm hback hdirs hwrite
    exact .inr ⟨name, Set.mem_insert _ _, hname, hmissing, hwrite', hfile⟩

end Stocked

/-! ## Files after images are provided -/

namespace Supplied

theorem mono {names' : Set String} (h : Supplied directory initial names files)
    (hnames : names ⊆ names') : Supplied directory initial names' files := by
  cases h with
  | untouched h => exact .untouched h
  | noDirectory e h => exact .noDirectory e h
  | stocked made hmade h => exact .stocked made hmade (h.mono hnames)

/-- **Providing an image adds at most its name.** -/
theorem provide {setting : Setting} {source : String} {w after : World}
    {retrieval? : Option Retrieval} (hfetcher : setting.fetcher.Confined) (hname : IsName name)
    (h : Supplied (imageDirectory setting.options) initial names w.files)
    (hstep : Provision setting source (imagePath setting.options name) w retrieval? after) :
    Supplied (imageDirectory setting.options) initial (insert name names) after.files := by
  have hmono := h.mono (Set.subset_insert name names)
  cases hstep with
  | idle _ _ hfiles => rwa [hfiles]
  | noDirectory _ url _ e _ hmade' =>
      cases h with
      | untouched h =>
          rw [h] at hmade'
          exact .noDirectory e hmade'
      | noDirectory e' hmade =>
          obtain ⟨r, hagain, -⟩ := makeDirectories_again hmade
          rw [(Prod.mk.inj (hmade'.symm.trans hagain)).1]
          exact .noDirectory e' hmade
      | stocked made hmade h =>
          -- The directory is there by now, so it cannot fail to be made.
          cases (Prod.mk.inj (hmade'.symm.trans (h.makeDirectories_eq hmade))).2
  | asked hmissing url _ made' reply hmade' hreply _ hfiles =>
      have htouches := hfetcher w.fetches ⟨url, imagePath setting.options name⟩ made'
      rw [hreply] at htouches
      rw [hfiles]
      cases h with
      | untouched h =>
          rw [h] at hmissing hmade'
          have hfresh : Stocked (imageDirectory setting.options) initial made' ∅ made' :=
            ⟨rfl, fun _ => .inl rfl⟩
          refine .stocked made' hmade' ((hfresh.touchesOnly hname hmissing htouches).mono ?_)
          exact Set.insert_subset_insert (Set.empty_subset names)
      | noDirectory e hmade =>
          -- What has failed once fails again.
          obtain ⟨r, hagain, hsame⟩ := makeDirectories_again hmade
          cases hmade'.symm.trans hagain
          cases hsame
      | stocked made hmade h =>
          cases hmade'.symm.trans (h.makeDirectories_eq hmade)
          exact .stocked made hmade
            (h.touchesOnly hname (h.missing hmade hname hmissing) htouches)

/-! ## What stays and what is new -/

/-- The files are those at the start with directories on the way to the image directory and with
    images in it. -/
theorem item_cases (h : Supplied directory initial names files) (place : Location) :
    (files.item? place = initial.item? place ∨
      (initial.item? place = none ∧ files.item? place = some .directory)) ∨
    ∃ name ∈ names, Within initial directory place name ∧
      initial.existsAt (directory.join ⟨name⟩) = false ∧
      (initial.makeDirectories directory).1.fileToWrite (directory.join ⟨name⟩) = .ok place ∧
      files.item? place ≠ some .directory := by
  have hadds := makeDirectories_adds initial directory
  have hmade : (initial.makeDirectories directory).1.item? place = initial.item? place ∨
      (initial.item? place = none ∧
        (initial.makeDirectories directory).1.item? place = some .directory) :=
    (hadds.item place).imp_right fun hadded => ⟨hadded.1, hadded.2.1⟩
  cases h with
  | untouched h => exact .inl (.inl (by rw [h]))
  | noDirectory e h =>
      rw [h] at hmade
      exact .inl hmade
  | stocked made heq h =>
      rw [heq] at hmade hadds ⊢
      rcases h.item place with hsame | ⟨name, hmem, hname, hmissing, hwrite, hfile⟩
      · exact .inl (by rwa [hsame])
      · refine .inr ⟨name, hmem, ⟨hname, ?_⟩, hmissing, hwrite, hfile⟩
        rw [← placeOf_of_fileToWrite hwrite, placeOf_join _ _ hname,
          placeOf_congr hadds.workingDirectory]

theorem workingDirectory (h : Supplied directory initial names files) :
    files.workingDirectory = initial.workingDirectory := by
  have hadds := makeDirectories_adds initial directory
  cases h with
  | untouched h => rw [h]
  | noDirectory e h =>
      rw [h] at hadds
      exact hadds.workingDirectory
  | stocked made hmade h =>
      rw [hmade] at hadds
      exact h.workingDirectory.trans hadds.workingDirectory

/-- Directories stay. -/
theorem keepsDirectories (h : Supplied directory initial names files) :
    KeepsDirectories initial files := by
  have hdirs := (makeDirectories_adds initial directory).keepsDirectories
  cases h with
  | untouched h =>
      rw [h]
      exact fun _ hdirectory => hdirectory
  | noDirectory e h => rwa [h] at hdirs
  | stocked made hmade h =>
      rw [hmade] at hdirs
      exact fun place hdirectory => h.keepsDirectories.1 place (hdirs place hdirectory)

/-- **Files stay as they were,** unless making the image directory brings them to light. -/
theorem file_cases (h : Supplied directory initial names files) {place : Location}
    {content : ByteArray} (hfile : initial.item? place = some (.file content)) :
    files.item? place = some (.file content) ∨ Uncovered initial directory place := by
  rcases h.item_cases place with (hsame | ⟨hnone, -⟩) |
    ⟨name, -, hwithin, hhidden, hwrite, -⟩
  · exact .inl (hsame.trans hfile)
  · cases hnone.symm.trans hfile
  · refine .inr ⟨name, hwithin, hhidden, ?_⟩
    -- Making directories has left the file where it is, and now it can be opened.
    have hadds := makeDirectories_adds initial directory
    have hthere : (initial.makeDirectories directory).1.item? place = some (.file content) := by
      rcases hadds.item place with hsame | ⟨hnone, -⟩
      · rw [hsame, hfile]
      · cases hnone.symm.trans hfile
    obtain ⟨front, dir, last, hopens, rfl⟩ := fileToWrite_ok hwrite
    exact hopens.existsAt hopens.descend hthere

/-- **New files are images in the image directory.** -/
theorem old_or_stored (h : Supplied directory initial names files) {place : Location}
    {content : ByteArray} (hfile : files.item? place = some (.file content)) :
    initial.item? place = some (.file content) ∨
      ∃ name ∈ names, Within initial directory place name := by
  rcases h.item_cases place with (hsame | ⟨-, hdirectory⟩) | ⟨name, hmem, hwithin, -⟩
  · exact .inl (hsame.symm.trans hfile)
  · cases hdirectory.symm.trans hfile
  · exact .inr ⟨name, hmem, hwithin⟩

end Supplied

/-! ## The walk -/

section Walk

variable (setting : Setting) (hfetcher : setting.fetcher.Confined)
  (hids : ∀ n, IsId (setting.ids n))

include hfetcher hids

/-- A conversion leaves images in the image directory and touches no other files. -/
theorem convert_supplied (nodes : List Node) (w : World) :
    Supplied (imageDirectory setting.options) w.files Set.univ
      ((convert setting nodes).run w).2.files := by
  refine (convert_runs setting nodes).keeps
    (P := fun v => Supplied (imageDirectory setting.options) w.files Set.univ v.files)
    (fun v hv event _ => ?_) (.untouched rfl)
  cases event with
  | bareAnchor | block name => exact hv
  | image source =>
      have hname : IsName (nextName setting source v) := localName_isName _ source (hids _)
      exact (hv.provide hfetcher hname (step_provision setting source v)).mono
        (Set.subset_univ _)

theorem convertText_supplied (source : String) (w : World) :
    Supplied (imageDirectory setting.options) w.files Set.univ
      ((convertText setting source).run w).2.files := by
  unfold convertText
  exact convert_supplied { setting with options := setting.options.withInferredPackages source }
    hfetcher hids (Html.parseFragment source) w

end Walk

end HtmlToLatex
