import HtmlToLatex.Proofs.Directories

set_option autoImplicit false

/-! # Reading files

A file is read from where it would be opened for writing, `readBytes_eq_ok`. So it reads as before
as long as the directories are kept and nothing is written in its place, and what was written is
read again. -/

namespace HtmlToLatex
namespace FileSystem

variable {fs fs' : FileSystem} {p : Path} {place : Location} {content : ByteArray}

/-! ## Where files are read -/

theorem resolve_eq_file : fs.resolve p = .ok (place, .file content) ↔
    ∃ front dir last, Opens fs p front dir last ∧ place = dir ++ [last] ∧
      fs.item? (dir ++ [last]) = some (.file content) := by
  constructor
  · intro h
    unfold resolve at h
    obtain ⟨_, hcheck, h⟩ := exists_of_bind_eq_ok h
    rcases List.eq_nil_or_concat (namesOf p) with hnil | ⟨front, last, hconcat⟩
    · rw [hnil] at h
      cases h
    rw [List.concat_eq_append] at hconcat
    rw [hconcat, List.reverse_append, List.reverse_singleton, List.singleton_append] at h
    dsimp only at h
    rw [List.reverse_reverse] at h
    obtain ⟨dir, hdescend, h⟩ := exists_of_bind_eq_ok h
    obtain ⟨⟨found, item⟩, henter, h⟩ := exists_of_bind_eq_ok h
    cases item with
    | directory => cases h
    | file content' =>
        dsimp only at h
        split at h
        · cases h
        next hslash =>
          cases h
          obtain ⟨rfl, ⟨-, hcontra⟩ | ⟨hlookup, hitem⟩⟩ := enter_ok henter
          · cases hcontra
          rw [hlookup.towards] at hitem ⊢
          exact ⟨front, dir, last, ⟨hconcat, hdescend, hlookup, by simpa using hslash, hcheck,
            by rw [hitem]; nofun⟩, rfl, hitem⟩
  · rintro ⟨front, dir, last, hopens, rfl, hitem⟩
    have hnames : (namesOf p).reverse = last :: front.reverse := by simp [hopens.names]
    unfold resolve
    rw [hopens.check, hnames]
    change (fs.descend _ front.reverse.reverse >>= _) = _
    rw [List.reverse_reverse, hopens.descend]
    change (fs.enter dir last >>= _) = _
    rw [enter_of_isLookedUp hopens.lookedUp, hitem]
    change (if endsInSlash p = true then _ else _) = _
    rw [if_neg (by simp [hopens.noSlash])]

/-- A file is read from where it would be opened for writing. -/
theorem readBytes_eq_ok : fs.readBytes p = .ok content ↔
    ∃ front dir last, Opens fs p front dir last ∧
      fs.item? (dir ++ [last]) = some (.file content) := by
  have hresolve : fs.readBytes p = .ok content ↔
      ∃ place, fs.resolve p = .ok (place, .file content) := by
    unfold readBytes
    constructor
    · intro h
      obtain ⟨⟨place, item⟩, hresolve, h⟩ := exists_of_bind_eq_ok h
      cases item with
      | directory => cases h
      | file content' =>
          cases h
          exact ⟨place, hresolve⟩
    · rintro ⟨place, hresolve⟩
      rw [hresolve]
      rfl
  rw [hresolve]
  simp only [resolve_eq_file]
  constructor
  · rintro ⟨place, front, dir, last, hopens, -, hitem⟩
    exact ⟨front, dir, last, hopens, hitem⟩
  · rintro ⟨front, dir, last, hopens, hitem⟩
    exact ⟨_, front, dir, last, hopens, rfl, hitem⟩

/-- A file reads as before if it is in its place and the directories are kept. -/
theorem Opens.readBytes_eq {front : List String} {dir : Location} {last : String}
    (h : Opens fs p front dir last) (hcwd : fs'.workingDirectory = fs.workingDirectory)
    (hdirs : KeepsDirectories fs fs') (hitem : fs'.item? (dir ++ [last]) = some (.file content)) :
    fs'.readBytes p = .ok content := by
  refine readBytes_eq_ok.2 ⟨front, dir, last, { h with descend := ?_, noDirectory := ?_ }, hitem⟩
  · rw [start_congr hcwd]
    exact descend_keeps hdirs h.descend
  · rw [hitem]
    nofun

/-! ## What was written -/

theorem readBytes_of_writeBytes (h : fs.writeBytes p content = .ok fs') :
    fs'.readBytes p = .ok content := by
  have hdirs := (writeBytes_touches h).keepsDirectories
  obtain ⟨written, hwrite, h⟩ := exists_of_bind_eq_ok h
  cases h
  obtain ⟨front, dir, last, hopens, rfl⟩ := fileToWrite_ok hwrite
  exact hopens.readBytes_eq rfl hdirs (item?_setItem_self fs (by simp) _)

theorem textOfBytes_toUTF8 (text : String) : textOfBytes text.toUTF8 = .ok text := by
  have hvalid : text.toUTF8.IsValidUTF8 := text.isValidUTF8
  rw [textOfBytes, String.fromUTF8?, dif_pos hvalid]
  rfl

/-- A text that was written is read again. -/
theorem readText_of_writeText {text : String} (h : fs.writeText p text = .ok fs') :
    fs'.readText p = .ok text := by
  unfold readText
  rw [readBytes_of_writeBytes h]
  exact textOfBytes_toUTF8 text

/-- What can be read as a text can be read. -/
theorem readBytes_of_readText {text : String} (h : fs.readText p = .ok text) :
    ∃ content, fs.readBytes p = .ok content := by
  obtain ⟨content, hcontent, -⟩ := exists_of_bind_eq_ok h
  exact ⟨content, hcontent⟩

/-! ## The path of a file -/

theorem dropIdle_of_filter (rooted : Bool) {pieces rest : List (List Char)} {piece : List Char}
    (h : pieces.filter (· ≠ []) = piece :: rest) (hdot : piece ≠ ['.']) :
    ∃ front, Path.dropIdle rooted pieces = piece :: front := by
  induction pieces with
  | nil => cases h
  | cons first pieces ih =>
      unfold Path.dropIdle
      by_cases hempty : first = []
      · rw [if_pos (.inl hempty)]
        rw [List.filter_cons_of_neg (by simpa using hempty)] at h
        exact ih h
      · rw [List.filter_cons_of_pos (by simpa using hempty)] at h
        obtain ⟨rfl, -⟩ := List.cons.inj h
        rw [if_neg (by simp [hempty, hdot])]
        exact ⟨pieces, rfl⟩

/-- The last name under which a file is looked up is its name. -/
theorem fileName?_of_namesOf {front : List String} {last : String}
    (hnames : namesOf p = front ++ [last]) (hlast : IsLookedUp last) :
    p.fileName? = some last := by
  have hdot : last.toList ≠ ['.'] := fun heq => hlast.ne_dot (String.toList_inj.1 heq)
  have hdots : last.toList ≠ ['.', '.'] := fun heq => hlast.ne_dots (String.toList_inj.1 heq)
  have hfilter : (splitOnElement '/' p.text.toList).reverse.filter (· ≠ []) =
      last.toList :: (front.map String.toList).reverse := by
    have hlists := congrArg (List.map String.toList) hnames
    rw [namesOf, List.map_map, List.map_append, List.map_singleton] at hlists
    rw [List.filter_reverse, ← List.reverse_concat, ← hlists]
    simp
  obtain ⟨rest, hpieces⟩ := dropIdle_of_filter p.isAbsolute hfilter hdot
  have hchars : p.fileNameChars? = some last.toList := by
    rw [Path.fileNameChars?, Path.pieces, hpieces]
    exact if_neg (by simp [hdot, hdots])
  rw [Path.fileName?, hchars, Option.map_some, String.ofList_toList]

/-- What can be read has a file name. -/
theorem exists_fileName?_of_readBytes (h : fs.readBytes p = .ok content) :
    ∃ name, p.fileName? = some name := by
  obtain ⟨front, dir, last, hopens, -⟩ := readBytes_eq_ok.1 h
  exact ⟨last, fileName?_of_namesOf hopens.names hopens.lookedUp⟩

/-- There is a directory at the path that a file is in. -/
theorem Opens.descend_directory {front : List String} {dir : Location} {last : String}
    (h : Opens fs p front dir last) :
    ∃ place, fs.descend (fs.start p.directory) (namesOf p.directory) = .ok place := by
  unfold Path.directory
  split
  next parent hparent =>
    split
    · exact ⟨fs.workingDirectory, rfl⟩
    next hempty =>
      have hfront : fs.descend (fs.start p) (namesOf p).dropLast = .ok dir := by
        rw [h.names, List.dropLast_concat, h.descend]
      exact (isDirectory_iff.1 (isDirectory_parent? hparent hempty h.check hfront)).2
  · exact ⟨fs.workingDirectory, rfl⟩

end FileSystem
end HtmlToLatex
