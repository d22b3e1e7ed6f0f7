import HtmlToLatex.FileSystem

set_option autoImplicit false

/-! # Paths and their names

Paths are taken apart and put together as texts, and files are looked up by the names in them. The
lemmas here go from the one to the other: the last name and the extension of a path, the parent,
whose names come first among those of the path, and a name that is appended. -/

namespace HtmlToLatex

/-! ## Splitting -/

theorem splitOnElement_subset {α : Type} [DecidableEq α] (sep : α) (s : List α) :
    ∀ piece ∈ splitOnElement sep s, piece ⊆ s ∧ sep ∉ piece := by
  induction s with
  | nil => simp [splitOnElement]
  | cons c r ih =>
      have hrest : ∀ piece ∈ splitOnElement sep r, piece ⊆ c :: r ∧ sep ∉ piece :=
        fun piece hmem => ⟨List.subset_cons_of_subset c (ih piece hmem).1, (ih piece hmem).2⟩
      simp only [splitOnElement]
      split
      · exact List.forall_mem_cons.2 ⟨⟨List.nil_subset _, List.not_mem_nil⟩, hrest⟩
      next hc =>
        split
        · simpa using fun h => hc h.symm
        next first others heq =>
          rw [heq] at hrest ih
          simp only [List.forall_mem_cons] at hrest ih ⊢
          refine ⟨⟨List.cons_subset_cons c ih.1.1, ?_⟩, hrest.2⟩
          simpa using ⟨fun h => hc h.symm, ih.1.2⟩

theorem Path.dropIdle_suffix (rooted : Bool) (pieces : List (List Char)) :
    dropIdle rooted pieces <:+ pieces := by
  induction pieces with
  | nil => exact List.suffix_refl _
  | cons piece pieces ih =>
      unfold dropIdle
      split
      · exact ih.trans (List.suffix_cons piece pieces)
      · exact List.suffix_refl _

/-- The first piece that counts is no empty one. -/
theorem Path.ne_nil_of_dropIdle {rooted : Bool} {pieces front : List (List Char)}
    {piece : List Char} (h : dropIdle rooted pieces = piece :: front) : piece ≠ [] := by
  induction pieces with
  | nil => cases h
  | cons first pieces ih =>
      unfold dropIdle at h
      split at h
      · exact ih h
      next hidle =>
        cases h
        exact fun hempty => hidle (.inl hempty)

theorem splitOnElement_of_not_mem {α : Type} [DecidableEq α] {sep : α} {s : List α} (h : sep ∉ s) :
    splitOnElement sep s = [s] := by
  induction s with
  | nil => rfl
  | cons c r ih =>
      rw [List.mem_cons, not_or] at h
      rw [splitOnElement, if_neg (Ne.symm h.1), ih h.2]

theorem splitOnElement_append {α : Type} [DecidableEq α] (sep : α) (s t : List α) :
    splitOnElement sep (s ++ sep :: t) = splitOnElement sep s ++ splitOnElement sep t := by
  induction s with
  | nil => simp [splitOnElement]
  | cons c r ih =>
      rw [List.cons_append, splitOnElement, splitOnElement, ih]
      split
      · rfl
      · cases hr : splitOnElement sep r with
        | nil => exact absurd hr (splitOnElement_ne_nil sep r)
        | cons part parts => rfl

/-- Joining loses nothing if no part has the separator. -/
theorem splitOnElement_joinWithElement {α : Type} [DecidableEq α] {sep : α} {parts : List (List α)}
    (hne : parts ≠ []) (h : ∀ part ∈ parts, sep ∉ part) :
    splitOnElement sep (joinWithElement sep parts) = parts := by
  induction parts with
  | nil => exact absurd rfl hne
  | cons part parts ih =>
      rw [List.forall_mem_cons] at h
      cases parts with
      | nil => exact splitOnElement_of_not_mem h.1
      | cons next others =>
          rw [joinWithElement, splitOnElement_append, splitOnElement_of_not_mem h.1,
            ih (List.cons_ne_nil _ _) h.2, List.singleton_append]
          exact fun hnil => absurd hnil (List.cons_ne_nil next others)

theorem joinWithElement_prefix {α : Type} (sep : α) {parts parts' : List (List α)}
    (h : parts <+: parts') : joinWithElement sep parts <+: joinWithElement sep parts' := by
  induction parts generalizing parts' with
  | nil => exact List.nil_prefix
  | cons part parts ih =>
      obtain ⟨rest, rfl⟩ := h
      cases parts with
      | nil =>
          cases rest with
          | nil => exact List.prefix_refl _
          | cons next others => exact List.prefix_append _ _
      | cons next others =>
          exact (List.prefix_append_right_inj part).2
            ((List.prefix_cons_inj sep).2 (ih (List.prefix_append _ _)))

/-! ## Last names -/

/-- A text that is one name in a directory. -/
structure IsName (name : String) : Prop where
  ne_empty : name ≠ ""
  noSlash : '/' ∉ name.toList
  ne_dot : name ≠ "."
  ne_dots : name ≠ ".."

theorem Path.fileName?_spec {p : Path} {name : String} (h : p.fileName? = some name) :
    IsName name ∧ name.toList ⊆ p.text.toList := by
  obtain ⟨piece, hpiece, rfl⟩ := Option.map_eq_some_iff.1 h
  unfold fileNameChars? at hpiece
  split at hpiece
  · cases hpiece
  next first front hpieces =>
    split at hpiece
    · cases hpiece
    next hdots =>
      cases hpiece
      have hmem : piece ∈ splitOnElement '/' p.text.toList := by
        rw [← List.mem_reverse]
        refine (dropIdle_suffix p.isAbsolute _).subset ?_
        rw [← pieces, hpieces]
        exact List.mem_cons_self ..
      obtain ⟨hsub, hslash⟩ := splitOnElement_subset '/' p.text.toList piece hmem
      rw [not_or] at hdots
      refine ⟨⟨?_, by simpa using hslash, ?_, ?_⟩, by simpa using hsub⟩
      · intro hempty
        exact ne_nil_of_dropIdle hpieces (by simpa using congrArg String.toList hempty)
      · intro hdot
        exact hdots.1 (by simpa using congrArg String.toList hdot)
      · intro hdots'
        exact hdots.2 (by simpa using congrArg String.toList hdots')

theorem Path.splitName_subset {name ext : List Char} (h : (splitName name).2 = some ext) :
    ext ⊆ name := by
  unfold splitName at h
  split at h
  · cases h
  · dsimp only at h
    split at h
    · cases h
      intro c hc
      exact List.mem_reverse.1 ((List.takeWhile_sublist _).subset (List.mem_reverse.1 hc))
    · cases h

/-- The extension of a name comes after its last dot. -/
theorem Path.dot_not_mem_of_splitName {name ext : List Char}
    (h : (splitName name).2 = some ext) : '.' ∉ ext := by
  unfold splitName at h
  split at h
  · cases h
  · dsimp only at h
    split at h
    · cases h
      intro hdot
      simpa using List.all_eq_true.1 List.all_takeWhile _ (List.mem_reverse.1 hdot)
    · cases h

theorem Path.extension?_spec {p : Path} {ext : String} (h : p.extension? = some ext) :
    '/' ∉ ext.toList ∧ ext.toList ⊆ p.text.toList := by
  obtain ⟨name, hname, h⟩ := Option.bind_eq_some_iff.1 h
  obtain ⟨chars, hchars, rfl⟩ := Option.map_eq_some_iff.1 h
  have hfile : p.fileName? = some (String.ofList name) := by rw [fileName?, hname, Option.map_some]
  obtain ⟨hisName, hsub⟩ := fileName?_spec hfile
  have hext : chars ⊆ (String.ofList name).toList := by
    simpa using splitName_subset hchars
  rw [String.toList_ofList]
  exact ⟨fun hc => hisName.noSlash (hext hc), List.Subset.trans hext hsub⟩

/-! ## Appending a name -/

theorem IsName.isAbsolute_eq {name : String} (h : IsName name) :
    Path.isAbsolute ⟨name⟩ = false := by
  unfold Path.isAbsolute
  cases hname : name.toList with
  | nil => rfl
  | cons c r =>
      have hslash : c ≠ '/' := by
        rintro rfl
        exact h.noSlash (by simp [hname])
      simpa using hslash

open FileSystem

/-- The text of a path with a name appended: there is one slash between them, unless the path is
    empty or brings the slash along. -/
theorem toList_join {name : String} (h : IsName name) (p : Path) :
    (p.text = "" ∧ (p.join ⟨name⟩).text.toList = name.toList) ∨
      ∃ front, (front ≠ [] ∧ p.text.toList = front ∨ p.text.toList = front ++ ['/']) ∧
        (p.join ⟨name⟩).text.toList = front ++ '/' :: name.toList := by
  unfold Path.join
  rw [if_neg (by simp [h.isAbsolute_eq])]
  rcases List.eq_nil_or_concat p.text.toList with hnil | ⟨front, c, hconcat⟩
  · have hempty : p.text = "" := by simpa using hnil
    refine .inl ⟨hempty, ?_⟩
    simp [hempty]
  · rw [List.concat_eq_append] at hconcat
    refine .inr ?_
    by_cases hc : c = '/'
    · subst hc
      refine ⟨front, .inr hconcat, ?_⟩
      simp [hconcat]
    · refine ⟨p.text.toList, .inl ⟨by simp [hconcat], rfl⟩, ?_⟩
      simp [hconcat, hc]

/-- A name that is appended comes after the names of the path. -/
theorem namesOf_join {name : String} (h : IsName name) (p : Path) :
    namesOf (p.join ⟨name⟩) = namesOf p ++ [name] := by
  have hne : name.toList ≠ [] := by simpa using h.ne_empty
  have hsplit := splitOnElement_of_not_mem h.noSlash
  unfold namesOf
  rcases toList_join h p with ⟨hempty, hjoin⟩ | ⟨front, hfront, hjoin⟩
  · rw [hjoin, hsplit, hempty]
    simp [hne, splitOnElement]
  · rw [hjoin, splitOnElement_append, hsplit]
    rcases hfront with ⟨-, heq⟩ | heq
    · rw [heq]
      simp [hne]
    · rw [heq, splitOnElement_append]
      simp [hne, splitOnElement]

theorem isAbsolute_join {name : String} (h : IsName name) (p : Path) :
    (p.join ⟨name⟩).isAbsolute = p.isAbsolute := by
  rcases toList_join h p with ⟨hempty, hjoin⟩ | ⟨front, hfront, hjoin⟩
  · have hname := h.isAbsolute_eq
    unfold Path.isAbsolute at hname ⊢
    rw [hjoin, hname, hempty]
    rfl
  · unfold Path.isAbsolute
    rw [hjoin]
    cases front with
    | nil =>
        rcases hfront with ⟨hne, -⟩ | heq
        · exact absurd rfl hne
        · rw [heq]
          rfl
    | cons c front => rcases hfront with ⟨-, heq⟩ | heq <;> rw [heq] <;> rfl

/-! ## Parents -/

/-- A path is absolute if nothing stands before its first slash. -/
theorem isAbsolute_iff (p : Path) :
    p.isAbsolute = true ↔
      ∃ piece others, splitOnElement '/' p.text.toList = [] :: piece :: others := by
  unfold Path.isAbsolute
  cases htext : p.text.toList with
  | nil => simp [splitOnElement]
  | cons c r =>
      rw [splitOnElement]
      split
      next hslash =>
        cases hr : splitOnElement '/' r with
        | nil => exact absurd hr (splitOnElement_ne_nil '/' r)
        | cons piece others => simp [hslash]
      next hslash =>
        split <;> simp [hslash]

/-- The pieces of a parent are those before the last name, without those at their end that do not
    count. Nothing stands for the parent of a single name but the place where the path starts. -/
theorem Path.parent?_pieces {p q : Path} (h : p.parent? = some q) :
    ∃ piece front, p.pieces = piece :: front ∧
      (dropIdle p.isAbsolute front = [] ∧ q = ⟨if p.isAbsolute then "/" else ""⟩ ∨
        q.text ≠ "" ∧
          splitOnElement '/' q.text.toList = (dropIdle p.isAbsolute front).reverse) := by
  unfold Path.parent? at h
  split at h
  · cases h
  next piece front hpieces =>
    refine ⟨piece, front, hpieces, ?_⟩
    split at h
    next hnil =>
      cases h
      exact .inl ⟨hnil, rfl⟩
    next hne =>
      cases h
      have hsplit : splitOnElement '/' (joinWithElement '/' (dropIdle p.isAbsolute front).reverse) =
          (dropIdle p.isAbsolute front).reverse := by
        refine splitOnElement_joinWithElement (by simpa using hne) fun part hpart => ?_
        have hsuffix := dropIdle_suffix p.isAbsolute (splitOnElement '/' p.text.toList).reverse
        rw [← Path.pieces, hpieces] at hsuffix
        refine (splitOnElement_subset '/' p.text.toList part ?_).2
        have hmem := (dropIdle_suffix p.isAbsolute front).subset (List.mem_reverse.1 hpart)
        exact List.mem_reverse.1 (hsuffix.subset (List.mem_cons_of_mem piece hmem))
      refine .inr ⟨fun hempty => ?_, by rw [String.toList_ofList, hsplit]⟩
      -- An empty piece would not have counted.
      rw [String.ofList_eq_empty_iff.1 hempty] at hsplit
      exact ne_nil_of_dropIdle (List.reverse_eq_iff.1 hsplit.symm) rfl

/-- The pieces of a path are those of its parent, the last one that counts, and some that do not
    count, unless nothing stands for the parent. -/
theorem Path.parent?_cases {p q : Path} (h : p.parent? = some q) :
    ∃ front piece idle, splitOnElement '/' p.text.toList = front ++ piece :: idle ∧ piece ≠ [] ∧
      (q = ⟨if p.isAbsolute then "/" else ""⟩ ∨
        splitOnElement '/' q.text.toList <+: front ∧
          splitOnElement '/' q.text.toList ≠ [[]]) := by
  obtain ⟨piece, front, hpieces, hparent⟩ := parent?_pieces h
  obtain ⟨idle, hidle⟩ := dropIdle_suffix p.isAbsolute (splitOnElement '/' p.text.toList).reverse
  rw [← Path.pieces, hpieces] at hidle
  have hsplit := congrArg List.reverse hidle
  rw [List.reverse_append, List.reverse_cons, List.reverse_reverse, List.append_assoc,
    List.singleton_append] at hsplit
  refine ⟨front.reverse, piece, idle.reverse, hsplit.symm, ne_nil_of_dropIdle hpieces, ?_⟩
  refine hparent.imp (·.2) fun ⟨htext, hnames⟩ => ⟨?_, fun hempty => htext ?_⟩
  · rw [hnames]
    exact List.reverse_prefix.2 (dropIdle_suffix p.isAbsolute front)
  · have hjoined := joinWithElement_splitOnElement '/' q.text.toList
    rw [hempty] at hjoined
    exact String.toList_eq_nil_iff.1 hjoined.symm

/-- The text of a parent comes first in the text of the path. -/
theorem Path.parent?_text {p q : Path} (h : p.parent? = some q) :
    q.text.toList <+: p.text.toList := by
  obtain ⟨front, piece, idle, hsplit, -, rfl | ⟨hfront, -⟩⟩ := parent?_cases h
  · cases habsolute : p.isAbsolute with
    | false => exact List.nil_prefix
    | true =>
        obtain ⟨r, hr⟩ : ∃ r, p.text.toList = '/' :: r := by
          cases htext : p.text.toList with
          | nil => simp [Path.isAbsolute, htext] at habsolute
          | cons c r => exact ⟨r, by simpa [Path.isAbsolute, htext] using habsolute⟩
        rw [hr]
        exact List.prefix_append ['/'] r
  · rw [← joinWithElement_splitOnElement '/' q.text.toList,
      ← joinWithElement_splitOnElement '/' p.text.toList, hsplit]
    exact joinWithElement_prefix '/' (hfront.trans (List.prefix_append _ _))

/-- The names of a parent come before the last name of the path. -/
theorem namesOf_parent? {p q : Path} (h : p.parent? = some q) :
    namesOf q <+: (namesOf p).dropLast := by
  obtain ⟨front, piece, idle, hsplit, hpiece, rfl | ⟨hfront, -⟩⟩ := Path.parent?_cases h
  · cases p.isAbsolute <;> exact List.nil_prefix
  · have hlast : (namesOf p).dropLast = (front.filter (· ≠ [])).map String.ofList ++
        ((piece :: idle.filter (· ≠ [])).map String.ofList).dropLast := by
      rw [namesOf, hsplit, List.filter_append, List.filter_cons_of_pos (by simpa using hpiece),
        List.map_append]
      exact List.dropLast_append_of_ne_nil (by simp)
    rw [hlast]
    exact ((hfront.filter _).map _).trans (List.prefix_append _ _)

/-- The names of a parent come first among those of the path, and both paths start at one place. -/
theorem parent?_spec {p q : Path} (h : p.parent? = some q) :
    q.isAbsolute = p.isAbsolute ∧ namesOf q <+: namesOf p := by
  refine ⟨?_, (namesOf_parent? h).trans (List.dropLast_prefix _)⟩
  obtain ⟨front, piece, idle, hsplit, -, rfl | ⟨⟨tail, hfront⟩, hne⟩⟩ := Path.parent?_cases h
  · cases p.isAbsolute <;> rfl
  · rw [Bool.eq_iff_iff, isAbsolute_iff, isAbsolute_iff, hsplit, ← hfront]
    constructor
    · rintro ⟨second, others, heq⟩
      exact ⟨second, others ++ tail ++ piece :: idle, by rw [heq]; simp⟩
    · rintro ⟨second, others, heq⟩
      -- A single empty piece would not have counted.
      match hparts : splitOnElement '/' q.text.toList with
      | [] => exact absurd hparts (splitOnElement_ne_nil '/' _)
      | [first] =>
          rw [hparts] at heq
          obtain rfl : first = [] := (List.cons.inj heq).1
          exact absurd hparts hne
      | first :: next :: others' =>
          rw [hparts] at heq
          exact ⟨next, others', by rw [(List.cons.inj heq).1]⟩

/-! ## Files in one directory -/

namespace Path

/-- The pieces that are dropped are empty ones and single dots. -/
theorem exists_idle (rooted : Bool) (pieces : List (List Char)) :
    ∃ idle, pieces = idle ++ dropIdle rooted pieces ∧
      ∀ piece ∈ idle, piece = [] ∨ piece = ['.'] := by
  induction pieces with
  | nil => exact ⟨[], rfl, nofun⟩
  | cons piece pieces ih =>
      unfold dropIdle
      split
      next hidle =>
        obtain ⟨idle, heq, hall⟩ := ih
        refine ⟨piece :: idle, congrArg (piece :: ·) heq, ?_⟩
        exact List.forall_mem_cons.2 ⟨hidle.imp_right (·.1), hall⟩
      · exact ⟨[], rfl, nofun⟩

/-- What is left counts. -/
theorem dropIdle_dropIdle (rooted : Bool) (pieces : List (List Char)) :
    dropIdle rooted (dropIdle rooted pieces) = dropIdle rooted pieces := by
  induction pieces with
  | nil => rfl
  | cons piece pieces ih =>
      rw [dropIdle]
      split
      · exact ih
      next hidle => rw [dropIdle, if_neg hidle]

/-- All that stands at the end of a path counts. -/
def IsTrimmed (p : Path) : Prop :=
  p.pieces = (splitOnElement '/' p.text.toList).reverse

/-- A directory is the root, or all that stands at its end counts. -/
theorem directory_isTrimmed (p : Path) : p.directory = ⟨"/"⟩ ∨ p.directory.IsTrimmed := by
  have hdot : IsTrimmed ⟨"."⟩ := by
    unfold IsTrimmed
    decide
  unfold directory
  split
  next q hparent =>
    split
    · exact .inr hdot
    next hempty =>
      obtain ⟨piece, front, -, ⟨-, heq⟩ | ⟨-, hsplit⟩⟩ := parent?_pieces hparent
      · cases habsolute : p.isAbsolute with
        | true => exact .inl (by rw [heq, habsolute]; rfl)
        | false => exact absurd (by rw [heq, habsolute]; rfl) hempty
      · refine .inr ?_
        rw [IsTrimmed, pieces, hsplit, List.reverse_reverse, (parent?_spec hparent).1,
          dropIdle_dropIdle]
  · exact .inr hdot

/-- The pieces of a path that ends in what counts, with a name appended. -/
theorem IsTrimmed.splitOnElement_join {p : Path} (h : p.IsTrimmed) {name : String}
    (hname : IsName name) :
    splitOnElement '/' (p.join ⟨name⟩).text.toList =
      splitOnElement '/' p.text.toList ++ [name.toList] := by
  rw [IsTrimmed, pieces] at h
  rcases toList_join hname p with ⟨hempty, -⟩ | ⟨front, ⟨-, hfront⟩ | hfront, hjoin⟩
  · rw [hempty] at h
    simp [splitOnElement, dropIdle] at h
  · rw [hjoin, splitOnElement_append, splitOnElement_of_not_mem hname.noSlash, hfront]
  · -- An empty piece at the end does not count.
    rw [hfront, splitOnElement_append, splitOnElement, List.reverse_concat] at h
    exact absurd rfl (ne_nil_of_dropIdle h)

/-- A name at the end of a path counts. -/
theorem pieces_of_split {p : Path} {parts : List (List Char)} {name : String}
    (hname : IsName name) (h : splitOnElement '/' p.text.toList = parts ++ [name.toList]) :
    p.pieces = name.toList :: parts.reverse := by
  have hempty : name.toList ≠ [] := by simpa using hname.ne_empty
  have hdot : name.toList ≠ ['.'] := fun heq => hname.ne_dot (String.toList_inj.1 heq)
  rw [pieces, h, List.reverse_concat, dropIdle, if_neg (by simp [hempty, hdot])]

theorem fileNameChars?_of_split {p : Path} {parts : List (List Char)} {name : String}
    (hname : IsName name) (h : splitOnElement '/' p.text.toList = parts ++ [name.toList]) :
    p.fileNameChars? = some name.toList := by
  have hdot : name.toList ≠ ['.'] := fun heq => hname.ne_dot (String.toList_inj.1 heq)
  have hdots : name.toList ≠ ['.', '.'] := fun heq => hname.ne_dots (String.toList_inj.1 heq)
  rw [fileNameChars?, pieces_of_split hname h]
  exact if_neg (not_or.2 ⟨hdot, hdots⟩)

/-- A path that ends in what counts is the parent of each name in it. -/
theorem IsTrimmed.parent?_join {p : Path} (h : p.IsTrimmed) {name : String}
    (hname : IsName name) : (p.join ⟨name⟩).parent? = some p := by
  rw [parent?, pieces_of_split hname (h.splitOnElement_join hname), isAbsolute_join hname]
  dsimp only
  rw [← pieces, h]
  split
  next hnil => exact absurd (List.reverse_eq_nil_iff.1 hnil) (splitOnElement_ne_nil _ _)
  · rw [List.reverse_reverse, joinWithElement_splitOnElement, String.ofList_toList]

/-- A name in a directory is that of a file in the directory. -/
theorem directory_join_directory (p : Path) {name : String} (hname : IsName name) :
    (p.directory.join ⟨name⟩).directory = p.directory := by
  have hparent : (p.directory.join ⟨name⟩).parent? = some p.directory := by
    rcases p.directory_isTrimmed with hroot | htrimmed
    · have hsplit : splitOnElement '/' (Path.join ⟨"/"⟩ ⟨name⟩).text.toList =
          [[]] ++ [name.toList] := by
        have htext : (Path.join ⟨"/"⟩ ⟨name⟩).text.toList = '/' :: name.toList := by
          simp [join, hname.isAbsolute_eq]
        rw [htext, splitOnElement, if_pos rfl, splitOnElement_of_not_mem hname.noSlash]
        rfl
      rw [hroot, parent?, pieces_of_split hname hsplit, isAbsolute_join hname]
      rfl
    · exact htrimmed.parent?_join hname
  have hne : p.directory.text ≠ "" := by
    unfold directory
    split
    · split
      · simp
      · assumption
    · simp
  rw [directory, hparent]
  exact if_neg hne

/-! ## Names that are appended -/

/-- A name that is appended is a piece of its own, and the last one. -/
theorem exists_splitOnElement_join {name : String} (h : IsName name) (p : Path) :
    ∃ parts, splitOnElement '/' (p.join ⟨name⟩).text.toList = parts ++ [name.toList] := by
  rcases toList_join h p with ⟨-, hjoin⟩ | ⟨front, -, hjoin⟩
  · exact ⟨[], by rw [hjoin, splitOnElement_of_not_mem h.noSlash, List.nil_append]⟩
  · exact ⟨_, by rw [hjoin, splitOnElement_append, splitOnElement_of_not_mem h.noSlash]⟩

theorem fileName?_join {name : String} (h : IsName name) (p : Path) :
    (p.join ⟨name⟩).fileName? = some name := by
  obtain ⟨parts, hsplit⟩ := exists_splitOnElement_join h p
  rw [fileName?, fileNameChars?_of_split h hsplit, Option.map_some, String.ofList_toList]

theorem join_isTrimmed {name : String} (h : IsName name) (p : Path) :
    (p.join ⟨name⟩).IsTrimmed := by
  obtain ⟨parts, hsplit⟩ := exists_splitOnElement_join h p
  rw [IsTrimmed, pieces_of_split h hsplit, hsplit, List.reverse_concat]

end Path

end HtmlToLatex
