import HtmlToLatex.Proofs.Frame

set_option autoImplicit false

/-! # Where image files go

The source of an image is any text, and the name of its file comes from there. Whatever it holds,
the file lies directly in the image directory: the path of the file has the image directory as its
parent, and it leads to a place right below the one to which the directory leads,
`drawLocalName_directlyInside`. A generated name keeps the extension of the source, if that is
one. -/

namespace HtmlToLatex

/-! ## Extensions -/

/-- The extension of a generated name: it is not empty and has neither slashes nor dots. -/
structure IsExtension (ext : String) : Prop where
  ne_empty : ext ≠ ""
  noSlash : '/' ∉ ext.toList
  noDot : '.' ∉ ext.toList

theorem Path.dot_not_mem_of_extension? {p : Path} {ext : String} (h : p.extension? = some ext) :
    '.' ∉ ext.toList := by
  obtain ⟨name, -, h⟩ := Option.bind_eq_some_iff.1 h
  obtain ⟨chars, hchars, rfl⟩ := Option.map_eq_some_iff.1 h
  rw [String.toList_ofList]
  exact dot_not_mem_of_splitName hchars

theorem sourceExtension_ne_empty (source : String) : sourceExtension source ≠ "" := by
  unfold sourceExtension
  cases hext : (sourcePath source).extension?.filter (· ≠ "") with
  | none => decide
  | some ext => simpa using (Option.filter_eq_some_iff.1 hext).2

/-- Every source has an extension, if only the default one. -/
theorem sourceExtension_isExtension (source : String) : IsExtension (sourceExtension source) := by
  refine ⟨sourceExtension_ne_empty source, ?_, ?_⟩
  · rcases sourceExtension_eq_default_or source with heq | hsome
    · rw [heq]
      decide
    · exact (Path.extension?_spec hsome).1
  · rcases sourceExtension_eq_default_or source with heq | hsome
    · rw [heq]
      decide
    · exact Path.dot_not_mem_of_extension? hsome

/-! ## Directories -/

/-- The image directory is the parent of each name in it. -/
theorem parent?_imagePath (options : Options) {name : String} (hname : IsName name) :
    (imagePath options name).parent? = some (imageDirectory options) :=
  (Path.join_isTrimmed imagesName_isName options.imageBase).parent?_join hname

/-- A path is that of a file directly in a directory. -/
structure DirectlyInside (directory : Path) (name : String) (path : Path) : Prop where
  parent?_eq : path.parent? = some directory
  fileName?_eq : path.fileName? = some name
  /-- It leads right below the directory, whatever the files are. -/
  placeOf_eq : ∀ files : FileSystem, files.placeOf path = files.placeOf directory ++ [name]

theorem imagePath_directlyInside (options : Options) {name : String} (hname : IsName name) :
    DirectlyInside (imageDirectory options) name (imagePath options name) where
  parent?_eq := parent?_imagePath options hname
  fileName?_eq := Path.fileName?_join hname _
  placeOf_eq files := placeOf_join files _ hname

/-- **Local names are safe.** Whatever the source of an image is, its local name is one name that is
neither `.` nor `..`, so that the file lies directly in the image directory. A generated name is
the id, a dot and an extension. -/
theorem drawLocalName_directlyInside (setting : Setting) (source : String) (w : World)
    (hid : IsId (setting.ids w.idsDrawn)) :
    let name := ((drawLocalName setting source).run w).1
    IsName name ∧
      DirectlyInside (imageDirectory setting.options) name (imagePath setting.options name) ∧
      (setting.options.autogenImageNames = true →
        ∃ ext, IsExtension ext ∧ name = setting.ids w.idsDrawn ++ "." ++ ext) := by
  intro name
  have heq : name = localName setting.options.autogenImageNames source (setting.ids w.idsDrawn) :=
    congrArg Prod.fst (run_drawLocalName setting source w)
  have hname : IsName name := heq ▸ localName_isName _ source hid
  refine ⟨hname, imagePath_directlyInside setting.options hname, fun hautogen => ?_⟩
  refine ⟨sourceExtension source, sourceExtension_isExtension source, ?_⟩
  rw [heq, hautogen]
  rfl

/-- A source that climbs up, and whose name ends in a dot behind another extension. -/
theorem drawLocalName_directlyInside_dotted :
    let setting : Setting := { ids := fun _ => "id1" }
    let source := "x:/a/../../b.png.?c=/../d.gif"
    ((drawLocalName setting source).run {}).1 = "id1.jpg" ∧
      IsId (setting.ids 0) ∧ IsName "id1.jpg" ∧
      DirectlyInside ⟨"images"⟩ "id1.jpg" ⟨"images/id1.jpg"⟩ ∧
      ∃ ext, IsExtension ext ∧ "id1.jpg" = "id1" ++ "." ++ ext := by
  intro setting source
  have hid : IsId (setting.ids 0) := ⟨by decide, by decide, by decide⟩
  have hdrawn : ((drawLocalName setting source).run {}).1 = "id1.jpg" := by decide +kernel
  have hdirectory : imageDirectory setting.options = ⟨"images"⟩ := by decide +kernel
  have hpath : imagePath setting.options "id1.jpg" = ⟨"images/id1.jpg"⟩ := by decide +kernel
  obtain ⟨hname, hinside, hgenerated⟩ := drawLocalName_directlyInside setting source {} hid
  rw [hdrawn] at hname hinside hgenerated
  rw [hdirectory, hpath] at hinside
  exact ⟨hdrawn, hid, hname, hinside, hgenerated rfl⟩

end HtmlToLatex
