import HtmlToLatex.GeneratedId
import HtmlToLatex.Image
import HtmlToLatex.Proofs.Paths
import HtmlToLatex.Proofs.UrlPath

set_option autoImplicit false

/-! # The names of image files

The local name of an image is taken from its source or made from an id. Either way it is one name in
a directory, `localName_isName`, and its characters are those of the source and the id and those
that reading a URL and naming put in, `forall_mem_localName`. -/

namespace HtmlToLatex

/-! ## Sources -/

theorem fileName?_of_keptName? {autogen : Bool} {source name : String}
    (h : keptName? autogen source = some name) : (sourcePath source).fileName? = some name := by
  unfold keptName? at h
  split at h
  · cases h
  · exact h

theorem sourceExtension_eq_default_or (source : String) :
    sourceExtension source = defaultExtension ∨
      (sourcePath source).extension? = some (sourceExtension source) := by
  unfold sourceExtension
  cases (sourcePath source).extension? with
  | none => exact .inl rfl
  | some ext =>
      by_cases hext : ext = ""
      · exact .inl (by simp [Option.filter, hext])
      · exact .inr (by simp [Option.filter, hext])

section Characters

variable {C : Char → Prop}

theorem forall_mem_sourcePath (hC : Url.InPaths C) {source : String}
    (hsource : ∀ c ∈ source.toList, C c) : ∀ c ∈ (sourcePath source).text.toList, C c := by
  unfold sourcePath
  split
  next url hurl =>
    split
    · simp
    · simpa using hC.parse hsource hurl
  · intro c hc
    rw [String.toList_ofList] at hc
    exact hsource c ((List.takeWhile_sublist _).subset hc)

/-- **The characters of a local name** are those of the source and the id, or put in by reading a
URL and by naming. -/
theorem forall_mem_localName (hC : Url.InPaths C) (hdot : C '.')
    (hdefault : ∀ c ∈ defaultExtension.toList, C c) (autogen : Bool) {source id : String}
    (hsource : ∀ c ∈ source.toList, C c) (hid : ∀ c ∈ id.toList, C c) :
    ∀ c ∈ (localName autogen source id).toList, C c := by
  have hpath := forall_mem_sourcePath hC hsource
  unfold localName
  cases hkept : keptName? autogen source with
  | some name =>
      intro c hc
      exact hpath c ((Path.fileName?_spec (fileName?_of_keptName? hkept)).2 hc)
  | none =>
      have hext : ∀ c ∈ (sourceExtension source).toList, C c := by
        rcases sourceExtension_eq_default_or source with heq | hsome
        · exact heq ▸ hdefault
        · exact fun c hc => hpath c ((Path.extension?_spec hsome).2 hc)
      simp only [Option.getD_none, generatedName, String.toList_append, List.forall_mem_append]
      exact ⟨⟨hid, by simpa using hdot⟩, hext⟩

end Characters

/-- An id that makes the name of a file: it is not empty and has neither slashes nor dots. -/
structure IsId (id : String) : Prop where
  ne_empty : id ≠ ""
  noSlash : '/' ∉ id.toList
  noDot : '.' ∉ id.toList

theorem mem_idChars_of_mem_idDigits {c : Char} {count n : Nat} (h : c ∈ idDigits count n) :
    c ∈ idChars := by
  induction count generalizing n with
  | zero => cases h
  | succ count ih =>
      rcases List.mem_cons.1 h with rfl | hrest
      · have hlength : n % idChars.length < idChars.length := Nat.mod_lt n (by decide +kernel)
        rw [idChar, List.getD_eq_getElem?_getD, List.getElem?_eq_getElem hlength, Option.getD_some]
        exact List.getElem_mem hlength
      · exact ih hrest

/-- The ids that the program generates make names of files. -/
theorem generatedId_isId (seed n : Nat) : IsId (generatedId seed n) := by
  have hchars : (generatedId seed n).toList = (idDigits idLength (seed + n)).reverse := by
    simp [generatedId]
  have hmem (c : Char) (hc : c ∈ (generatedId seed n).toList) : c ∈ idChars := by
    rw [hchars, List.mem_reverse] at hc
    exact mem_idChars_of_mem_idDigits hc
  refine ⟨fun hempty => ?_, fun hc => ?_, fun hc => ?_⟩
  · rw [hempty] at hchars
    simp [idLength, idDigits] at hchars
  · exact absurd (hmem _ hc) (by decide +kernel)
  · exact absurd (hmem _ hc) (by decide +kernel)

theorem imagesName_isName : IsName imagesName :=
  ⟨by decide, by decide, by decide, by decide⟩

/-- **A local name is one name,** whatever the source is. -/
theorem localName_isName (autogen : Bool) (source : String) {id : String} (hid : IsId id) :
    IsName (localName autogen source id) := by
  unfold localName
  cases hkept : keptName? autogen source with
  | some name => exact (Path.fileName?_spec (fileName?_of_keptName? hkept)).1
  | none =>
      rw [Option.getD_none]
      have hext : '/' ∉ (sourceExtension source).toList := by
        rcases sourceExtension_eq_default_or source with heq | hsome
        · rw [heq]
          decide
        · exact (Path.extension?_spec hsome).1
      have hchars : (generatedName id source).toList =
          id.toList ++ '.' :: (sourceExtension source).toList := by
        simp [generatedName]
      -- The first character of the name is that of the id, which is no dot.
      obtain ⟨first, rest, hfirst⟩ : ∃ first rest, id.toList = first :: rest :=
        List.exists_cons_of_ne_nil (by simpa using hid.ne_empty)
      have hnodot : first ≠ '.' := by
        rintro rfl
        exact hid.noDot (by simp [hfirst])
      have hhead : (generatedName id source).toList.head? = some first := by
        rw [hchars, hfirst]
        rfl
      refine ⟨?_, ?_, ?_, ?_⟩
      · intro h
        rw [h] at hhead
        cases hhead
      · rw [hchars, List.mem_append, List.mem_cons]
        rintro (h | h | h)
        · exact hid.noSlash h
        · cases h
        · exact hext h
      · intro h
        rw [h] at hhead
        exact hnodot (Option.some.inj hhead.symm)
      · intro h
        rw [h] at hhead
        exact hnodot (Option.some.inj hhead.symm)

end HtmlToLatex
