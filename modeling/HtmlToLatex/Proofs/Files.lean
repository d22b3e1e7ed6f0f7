import Mathlib.Data.List.Induction
import HtmlToLatex.Proofs.Conversion
import HtmlToLatex.Proofs.Paths

set_option autoImplicit false

/-! # Places in a file system

Where a path leads depends on its names alone, `placeOf`; the file system only decides whether one
gets there. What an operation that succeeds has done is said in these terms, one lemma for each
operation. -/

namespace HtmlToLatex
namespace FileSystem

variable {fs fs' : FileSystem} {from_ place : Location} {p q : Path}

/-! ## Going along names -/

/-- Where a name leads from a directory. -/
def towards (from_ : Location) (name : String) : Location :=
  if name = "." then from_ else if name = ".." then from_.dropLast else from_ ++ [name]

/-- Where names lead from a directory, one after the other. -/
def follow (from_ : Location) (names : List String) : Location :=
  names.foldl towards from_

/-- Where a path leads. -/
def placeOf (fs : FileSystem) (p : Path) : Location :=
  follow (fs.start p) (namesOf p)

/-- The places that a path leads to or passes. -/
def OnTheWay (fs : FileSystem) (p : Path) (place : Location) : Prop :=
  ∃ front, front <+: namesOf p ∧ place = follow (fs.start p) front

/-- Paths start in the same place under the same working directory. -/
theorem start_congr (hcwd : fs'.workingDirectory = fs.workingDirectory) (p : Path) :
    fs'.start p = fs.start p := by
  rw [start, start, hcwd]

theorem placeOf_congr (hcwd : fs'.workingDirectory = fs.workingDirectory) (p : Path) :
    fs'.placeOf p = fs.placeOf p := by
  rw [placeOf, placeOf, start_congr hcwd]

theorem follow_concat (from_ : Location) (names : List String) (name : String) :
    follow from_ (names ++ [name]) = towards (follow from_ names) name := by
  simp [follow]

theorem towards_of_isName {name : String} (h : IsName name) (from_ : Location) :
    towards from_ name = from_ ++ [name] := by
  rw [towards, if_neg h.ne_dot, if_neg h.ne_dots]

theorem follow_append (from_ : Location) (names names' : List String) :
    follow from_ (names ++ names') = follow (follow from_ names) names' :=
  List.foldl_append

/-- Empty pieces and single dots lead nowhere. -/
theorem follow_idle (from_ : Location) {idle : List (List Char)}
    (h : ∀ piece ∈ idle, piece = [] ∨ piece = ['.']) :
    follow from_ ((idle.filter (· ≠ [])).map String.ofList) = from_ := by
  induction idle with
  | nil => rfl
  | cons piece idle ih =>
      rw [List.forall_mem_cons] at h
      rcases h.1 with rfl | rfl
      · exact ih h.2
      · exact ih h.2

/-- Where a path leads, taken apart at its last name. -/
theorem placeOf_of_pieces {name : List Char} {front : List (List Char)}
    (h : p.pieces = name :: front) :
    fs.placeOf p = towards
      (follow (fs.start p) (((Path.dropIdle p.isAbsolute front).reverse.filter (· ≠ [])).map
        String.ofList)) (String.ofList name) := by
  obtain ⟨idle, hsplit, hidle⟩ :=
    Path.exists_idle p.isAbsolute (splitOnElement '/' p.text.toList).reverse
  obtain ⟨inner, hfront, hinner⟩ := Path.exists_idle p.isAbsolute front
  have hname : name ≠ [] := Path.ne_nil_of_dropIdle h
  rw [← Path.pieces, h, hfront] at hsplit
  have hpieces := congrArg List.reverse hsplit
  simp only [List.reverse_reverse, List.reverse_append, List.reverse_cons, List.append_assoc,
    List.singleton_append] at hpieces
  rw [placeOf, namesOf, hpieces, List.filter_append, List.filter_append,
    List.filter_cons_of_pos (by simpa using hname)]
  simp only [List.map_append, List.map_cons, follow_append]
  rw [follow_idle _ (by simpa using hinner)]
  exact follow_idle _ (by simpa using hidle)

/-- A path leads to its last name in its directory. -/
theorem placeOf_of_fileName? (fs : FileSystem) {name : String} (h : p.fileName? = some name) :
    fs.placeOf p = fs.placeOf p.directory ++ [name] := by
  obtain ⟨hname, -⟩ := Path.fileName?_spec h
  obtain ⟨chars, hchars, rfl⟩ := Option.map_eq_some_iff.1 h
  obtain ⟨front, hpieces⟩ : ∃ front, p.pieces = chars :: front := by
    unfold Path.fileNameChars? at hchars
    split at hchars
    · cases hchars
    next hpieces =>
      split at hchars
      · cases hchars
      · cases hchars
        exact ⟨_, hpieces⟩
  obtain ⟨q, hparent⟩ : ∃ q, p.parent? = some q := by
    rw [Path.parent?, hpieces]
    dsimp only
    split <;> exact ⟨_, rfl⟩
  obtain ⟨piece, front', hpieces', hkept⟩ := Path.parent?_pieces hparent
  obtain ⟨rfl, rfl⟩ := List.cons.inj (hpieces.symm.trans hpieces')
  rw [placeOf_of_pieces hpieces, towards_of_isName hname]
  congr 1
  rw [Path.directory, hparent]
  dsimp only
  rcases hkept with ⟨hnil, rfl⟩ | ⟨htext, hsplit⟩
  · rw [hnil, start]
    cases p.isAbsolute <;> rfl
  · rw [if_neg htext, placeOf, namesOf, hsplit, start, start, (parent?_spec hparent).1]

/-- A name that is looked up among the items of a directory. -/
structure IsLookedUp (name : String) : Prop where
  ne_dot : name ≠ "."
  ne_dots : name ≠ ".."
  short : name.utf8ByteSize ≤ maxNameBytes

theorem IsLookedUp.towards {name : String} (h : IsLookedUp name) (from_ : Location) :
    towards from_ name = from_ ++ [name] := by
  rw [FileSystem.towards, if_neg h.ne_dot, if_neg h.ne_dots]

theorem enter_of_isLookedUp {name : String} (h : IsLookedUp name) (fs : FileSystem)
    (from_ : Location) : fs.enter from_ name =
      match fs.item? (from_ ++ [name]) with
      | some item => .ok (from_ ++ [name], item)
      | none => .error .notFound := by
  rw [enter, if_neg h.ne_dot, if_neg h.ne_dots]
  exact if_neg (Nat.not_lt.2 h.short)

/-- A name leads by itself, or is too long, or is looked up. -/
theorem enter_cases (fs : FileSystem) (from_ : Location) (name : String) :
    (name = "." ∨ name = "..") ∧ fs.enter from_ name = .ok (towards from_ name, .directory) ∨
      fs.enter from_ name = .error .nameTooLong ∨ IsLookedUp name := by
  by_cases hdot : name = "."
  · subst hdot
    exact .inl ⟨.inl rfl, rfl⟩
  by_cases hdots : name = ".."
  · subst hdots
    exact .inl ⟨.inr rfl, rfl⟩
  by_cases hlong : maxNameBytes < name.utf8ByteSize
  · exact .inr (.inl (by rw [enter, if_neg hdot, if_neg hdots, if_pos hlong]))
  · exact .inr (.inr ⟨hdot, hdots, by omega⟩)

/-- Entering leads where the name says. What is found under a name that is looked up is there. -/
theorem enter_ok {name : String} {item : Item} (h : fs.enter from_ name = .ok (place, item)) :
    place = towards from_ name ∧ (((name = "." ∨ name = "..") ∧ item = .directory) ∨
      (IsLookedUp name ∧ fs.item? place = some item)) := by
  rcases enter_cases fs from_ name with ⟨hdots, heq⟩ | heq | hlookup
  · rw [heq] at h
    cases h
    exact ⟨rfl, .inl ⟨hdots, rfl⟩⟩
  · cases heq.symm.trans h
  · rw [enter_of_isLookedUp hlookup] at h
    split at h
    next found hfound =>
      cases h
      exact ⟨(hlookup.towards from_).symm, .inr ⟨hlookup, hfound⟩⟩
    · cases h

/-- Nothing is found only under a name that is looked up. -/
theorem enter_notFound {name : String} (h : fs.enter from_ name = .error .notFound) :
    IsLookedUp name ∧ fs.item? (from_ ++ [name]) = none := by
  rcases enter_cases fs from_ name with ⟨-, heq⟩ | heq | hlookup
  · cases heq.symm.trans h
  · cases heq.symm.trans h
  · rw [enter_of_isLookedUp hlookup] at h
    split at h
    · cases h
    next hnone => exact ⟨hlookup, hnone⟩

theorem descend_ok {names : List String} (h : fs.descend from_ names = .ok place) :
    place = follow from_ names := by
  induction names generalizing from_ with
  | nil =>
      cases h
      rfl
  | cons name names ih =>
      unfold descend at h
      obtain ⟨⟨next, item⟩, henter, h⟩ := exists_of_bind_eq_ok h
      cases item with
      | file content => cases h
      | directory =>
          rw [ih h, (enter_ok henter).1]
          rfl

theorem resolveParent_ok {last : String} (h : fs.resolveParent p = .ok (place, some last)) :
    ∃ front, namesOf p = front ++ [last] ∧ fs.descend (fs.start p) front = .ok place ∧
      checkPath p = .ok () := by
  unfold resolveParent at h
  obtain ⟨_, hcheck, h⟩ := exists_of_bind_eq_ok h
  split at h
  · cases h
  next last front hnames =>
    obtain ⟨dir, hdescend, h⟩ := exists_of_bind_eq_ok h
    cases h
    refine ⟨front.reverse, ?_, hdescend, hcheck⟩
    rw [← List.reverse_reverse (namesOf p), hnames, List.reverse_cons]

theorem resolveParent_of_descend {front : List String} {last : String}
    (hcheck : checkPath p = .ok ()) (hnames : namesOf p = front ++ [last])
    (hdescend : fs.descend (fs.start p) front = .ok place) :
    fs.resolveParent p = .ok (place, some last) := by
  unfold resolveParent
  rw [hcheck, hnames, List.reverse_append, List.reverse_singleton, List.singleton_append]
  change (fs.descend (fs.start p) front.reverse.reverse >>= _) = _
  rw [List.reverse_reverse, hdescend]
  rfl

/-- A file that is opened for writing stands in a directory that its path leads to, under the last
    name of the path. There is no directory of that name. -/
structure Opens (fs : FileSystem) (p : Path) (front : List String) (dir : Location)
    (last : String) : Prop where
  names : namesOf p = front ++ [last]
  descend : fs.descend (fs.start p) front = .ok dir
  lookedUp : IsLookedUp last
  noSlash : endsInSlash p = false
  check : checkPath p = .ok ()
  noDirectory : fs.item? (dir ++ [last]) ≠ some .directory

theorem fileToWrite_ok (h : fs.fileToWrite p = .ok place) :
    ∃ front dir last, Opens fs p front dir last ∧ place = dir ++ [last] := by
  unfold fileToWrite at h
  obtain ⟨⟨dir, last?⟩, hparent, h⟩ := exists_of_bind_eq_ok h
  cases last? with
  | none => cases h
  | some last =>
      obtain ⟨front, hnames, hdescend, hcheck⟩ := resolveParent_ok hparent
      dsimp only at h
      split at h
      · cases h
      next hrefused =>
        rw [not_or, not_or] at hrefused
        have hopens (hlookup : IsLookedUp last)
            (hitem : fs.item? (dir ++ [last]) ≠ some .directory) : Opens fs p front dir last :=
          ⟨hnames, hdescend, hlookup, by simpa using hrefused.2.2, hcheck, hitem⟩
        split at h
        · cases h
        next henter =>
          cases h
          obtain ⟨hplace, ⟨-, hcontra⟩ | ⟨hlookup, hitem⟩⟩ := enter_ok henter
          · cases hcontra
          · rw [hlookup.towards] at hplace
            subst hplace
            exact ⟨front, dir, last, hopens hlookup (by rw [hitem]; nofun), rfl⟩
        next henter =>
          cases h
          obtain ⟨hlookup, hitem⟩ := enter_notFound henter
          exact ⟨front, dir, last, hopens hlookup (by rw [hitem]; nofun), rfl⟩
        · cases h

/-- A file that can be opened is opened. -/
theorem Opens.fileToWrite {front : List String} {dir : Location} {last : String}
    (h : Opens fs p front dir last) : fs.fileToWrite p = .ok (dir ++ [last]) := by
  have hallowed : ¬(last = "." ∨ last = ".." ∨ endsInSlash p = true) := by
    simp [h.lookedUp.ne_dot, h.lookedUp.ne_dots, h.noSlash]
  have hitem := h.noDirectory
  unfold FileSystem.fileToWrite
  rw [resolveParent_of_descend h.check h.names h.descend]
  change (if _ then _ else _) = _
  rw [if_neg hallowed, enter_of_isLookedUp h.lookedUp]
  cases hfound : fs.item? (dir ++ [last]) with
  | none => rfl
  | some item =>
      cases item with
      | file content => rfl
      | directory => exact absurd hfound hitem

theorem makeDirectory_ok (h : fs.makeDirectory p = .ok fs') :
    ∃ front dir last, namesOf p = front ++ [last] ∧ fs.descend (fs.start p) front = .ok dir ∧
      IsLookedUp last ∧ fs.item? (dir ++ [last]) = none ∧
      fs' = fs.setItem (dir ++ [last]) .directory := by
  unfold makeDirectory at h
  obtain ⟨⟨dir, last?⟩, hparent, h⟩ := exists_of_bind_eq_ok h
  cases last? with
  | none => cases h
  | some last =>
      obtain ⟨front, hnames, hdescend, -⟩ := resolveParent_ok hparent
      dsimp only at h
      split at h
      · cases h
      · split at h
        · cases h
        next henter =>
          cases h
          obtain ⟨hlookup, hnone⟩ := enter_notFound henter
          exact ⟨front, dir, last, hnames, hdescend, hlookup, hnone, rfl⟩
        · cases h

/-! ## What stays -/

/-- Directories that are there in one file system are there in another, too. -/
def KeepsDirectories (fs fs' : FileSystem) : Prop :=
  ∀ place, fs.item? place = some .directory → fs'.item? place = some .directory

theorem enter_keeps (hdirs : KeepsDirectories fs fs') {name : String}
    (h : fs.enter from_ name = .ok (place, .directory)) :
    fs'.enter from_ name = .ok (place, .directory) := by
  obtain ⟨rfl, ⟨rfl | rfl, -⟩ | ⟨hlookup, hitem⟩⟩ := enter_ok h
  · rfl
  · rfl
  · rw [hlookup.towards] at hitem ⊢
    rw [enter_of_isLookedUp hlookup, hdirs _ hitem]

theorem descend_keeps (hdirs : KeepsDirectories fs fs') {names : List String}
    (h : fs.descend from_ names = .ok place) : fs'.descend from_ names = .ok place := by
  induction names generalizing from_ with
  | nil => exact h
  | cons name names ih =>
      unfold descend at h ⊢
      obtain ⟨⟨next, item⟩, henter, h⟩ := exists_of_bind_eq_ok h
      cases item with
      | file content => cases h
      | directory =>
          rw [enter_keeps hdirs henter]
          exact ih h

/-- Between file systems with the same directories, a path opens the same file. -/
theorem fileToWrite_keeps (hcwd : fs'.workingDirectory = fs.workingDirectory)
    (hdirs : KeepsDirectories fs fs') (hback : KeepsDirectories fs' fs)
    (h : fs.fileToWrite p = .ok place) : fs'.fileToWrite p = .ok place := by
  obtain ⟨front, dir, last, hopens, rfl⟩ := fileToWrite_ok h
  have hopens' : Opens fs' p front dir last :=
    { hopens with
      descend := by
        rw [start_congr hcwd]
        exact descend_keeps hdirs hopens.descend
      noDirectory := mt (hback _) hopens.noDirectory }
  exact hopens'.fileToWrite

/-- A path leads to something if its last name can be entered in a directory that the others lead
    to. -/
structure Reaches (fs : FileSystem) (p : Path) (front : List String) (dir : Location)
    (last : String) (place : Location) (item : Item) : Prop where
  names : namesOf p = front ++ [last]
  descend : fs.descend (fs.start p) front = .ok dir
  enter : fs.enter dir last = .ok (place, item)
  slash : item = .directory ∨ endsInSlash p = false

theorem existsAt_iff : fs.existsAt p = true ↔ checkPath p = .ok () ∧
    (namesOf p = [] ∨ ∃ front dir last place item, Reaches fs p front dir last place item) := by
  unfold existsAt resolve
  rw [isOk_bind_iff]
  rcases List.eq_nil_or_concat (namesOf p) with hnil | ⟨front, last, hconcat⟩
  · constructor
    · rintro ⟨u, hcheck, -⟩
      exact ⟨hcheck, .inl hnil⟩
    · rintro ⟨hcheck, -⟩
      exact ⟨(), hcheck, by rw [hnil]; rfl⟩
  rw [List.concat_eq_append] at hconcat
  have hreverse : (namesOf p).reverse = last :: front.reverse := by simp [hconcat]
  simp only [hreverse, List.reverse_reverse, isOk_bind_iff]
  constructor
  · rintro ⟨u, hcheck, dir, hdescend, ⟨place, item⟩, henter, hslash⟩
    refine ⟨hcheck, .inr ⟨front, dir, last, place, item, hconcat, hdescend, henter, ?_⟩⟩
    cases item with
    | directory => exact .inl rfl
    | file content =>
        refine .inr (Bool.eq_false_iff.2 fun hends => ?_)
        simp [hends, Except.isOk, Except.toBool] at hslash
  · rintro ⟨hcheck, hnil | ⟨front', dir, last', place, item, hnames, hdescend, henter, hslash⟩⟩
    · rw [hconcat] at hnil
      exact absurd hnil (List.append_ne_nil_of_right_ne_nil front (List.cons_ne_nil last []))
    · -- A list has only one last element.
      obtain ⟨rfl, hlast⟩ := List.append_inj' (hconcat.symm.trans hnames) rfl
      cases hlast
      refine ⟨(), hcheck, dir, hdescend, ⟨place, item⟩, henter, ?_⟩
      cases item with
      | directory => rfl
      | file content =>
          have hends : endsInSlash p = false := by simpa using hslash
          simp [hends, Except.isOk, Except.toBool]

/-- What a path led to it still leads to, if the directories are kept and so is the item there. -/
theorem existsAt_keeps (hcwd : fs'.workingDirectory = fs.workingDirectory)
    (hdirs : KeepsDirectories fs fs')
    (hplace : ∀ item, fs.item? (fs.placeOf p) = some item → fs'.item? (fs.placeOf p) = some item)
    (h : fs.existsAt p = true) : fs'.existsAt p = true := by
  rw [existsAt_iff] at h ⊢
  obtain ⟨hcheck, hnil | ⟨front, dir, last, place, item, h⟩⟩ := h
  · exact ⟨hcheck, .inl hnil⟩
  refine ⟨hcheck, .inr ⟨front, dir, last, place, item, h.names, ?_, ?_, h.slash⟩⟩
  · rw [start_congr hcwd]
    exact descend_keeps hdirs h.descend
  · obtain ⟨rfl, ⟨-, rfl⟩ | ⟨hlookup, hitem⟩⟩ := enter_ok h.enter
    · exact enter_keeps hdirs h.enter
    · have hleads : fs.placeOf p = towards dir last := by
        rw [placeOf, h.names, follow_concat, ← descend_ok h.descend]
      rw [← hleads] at hitem
      have hitem := hplace item hitem
      rw [hleads, hlookup.towards] at hitem
      rw [enter_of_isLookedUp hlookup, hitem, hlookup.towards]

/-- A file in a directory that a path leads to is there under the path. -/
theorem Opens.existsAt {front : List String} {dir : Location} {last : String}
    (h : Opens fs' p front dir last) (hdescend : fs.descend (fs.start p) front = .ok dir)
    {item : Item} (hitem : fs.item? (dir ++ [last]) = some item) :
    fs.existsAt p = true := by
  rw [existsAt_iff]
  refine ⟨h.check, .inr ⟨front, dir, last, dir ++ [last], item, h.names, hdescend, ?_,
    .inr h.noSlash⟩⟩
  rw [enter_of_isLookedUp h.lookedUp, hitem]

/-! ## Directories that are made -/

/-- A file system is another one with directories at some places where nothing was. -/
structure AddsDirectories (allowed : Location → Prop) (fs fs' : FileSystem) : Prop where
  workingDirectory : fs'.workingDirectory = fs.workingDirectory
  item : ∀ place, fs'.item? place = fs.item? place ∨
    (fs.item? place = none ∧ fs'.item? place = some .directory ∧ allowed place)

theorem AddsDirectories.refl (allowed : Location → Prop) (fs : FileSystem) :
    AddsDirectories allowed fs fs :=
  ⟨rfl, fun _ => .inl rfl⟩

theorem AddsDirectories.mono {allowed allowed' : Location → Prop}
    (h : AddsDirectories allowed fs fs') (himp : ∀ place, allowed place → allowed' place) :
    AddsDirectories allowed' fs fs' :=
  ⟨h.workingDirectory, fun place => (h.item place).imp_right fun hadded =>
    ⟨hadded.1, hadded.2.1, himp place hadded.2.2⟩⟩

theorem AddsDirectories.trans {allowed : Location → Prop} {fs'' : FileSystem}
    (h : AddsDirectories allowed fs fs') (h' : AddsDirectories allowed fs' fs'') :
    AddsDirectories allowed fs fs'' := by
  refine ⟨h'.workingDirectory.trans h.workingDirectory, fun place => ?_⟩
  rcases h'.item place with hsame | ⟨hnone, hdir, hallowed⟩
  · rw [hsame]
    exact h.item place
  · rcases h.item place with hsame' | ⟨-, hdir', -⟩
    · exact .inr ⟨hsame' ▸ hnone, hdir, hallowed⟩
    · cases hnone.symm.trans hdir'

theorem makeDirectory_adds (h : fs.makeDirectory p = .ok fs') :
    AddsDirectories (fs.OnTheWay p) fs fs' := by
  obtain ⟨front, dir, last, hnames, hdescend, hlookup, hnone, rfl⟩ := makeDirectory_ok h
  have hplace : dir ++ [last] = follow (fs.start p) (namesOf p) := by
    rw [hnames, follow_concat, ← descend_ok hdescend, hlookup.towards]
  refine ⟨rfl, fun place => ?_⟩
  by_cases heq : place = dir ++ [last]
  · subst heq
    refine .inr ⟨hnone, item?_setItem_self fs (by simp) _, namesOf p, List.prefix_refl _, hplace⟩
  · exact .inl (item?_setItem_of_ne fs heq _)

theorem ensureDirectory_adds (h : fs.ensureDirectory p = .ok fs') :
    AddsDirectories (fs.OnTheWay p) fs fs' := by
  unfold ensureDirectory at h
  split at h
  next hmake =>
    cases h
    exact makeDirectory_adds hmake
  · split at h
    · cases h
      exact .refl _ _
    · cases h

/-- What lies on the way to a parent lies on the way to the path. -/
theorem onTheWay_of_parent? (hcwd : fs'.workingDirectory = fs.workingDirectory)
    (hparent : p.parent? = some q) (h : fs'.OnTheWay q place) : fs.OnTheWay p place := by
  obtain ⟨habsolute, hinitial⟩ := parent?_spec hparent
  obtain ⟨front, hfront, rfl⟩ := h
  refine ⟨front, hfront.trans hinitial, ?_⟩
  rw [start, start, habsolute, hcwd]

theorem makeDirectoriesTo_adds (depth : Nat) (fs : FileSystem) (p : Path) :
    AddsDirectories (fs.OnTheWay p) fs (fs.makeDirectoriesTo depth p).1 := by
  induction depth generalizing fs p with
  | zero => exact .refl _ _
  | succ depth ih =>
      unfold makeDirectoriesTo
      split
      · exact .refl _ _
      split
      next hmake => exact makeDirectory_adds hmake
      · split
        · exact .refl _ _
        next parent hparent =>
          have habove : AddsDirectories (fs.OnTheWay p) fs (fs.makeDirectoriesTo depth parent).1 :=
            (ih fs parent).mono fun _ => onTheWay_of_parent? rfl hparent
          -- The directories above are kept, whether or not the last one can be made.
          split
          next hfailed =>
            rw [hfailed] at habove
            exact habove
          next fs' hmade =>
            rw [hmade] at habove
            split
            next hensure =>
              refine habove.trans ((ensureDirectory_adds hensure).mono fun place hplace => ?_)
              obtain ⟨front, hfront, rfl⟩ := hplace
              refine ⟨front, hfront, ?_⟩
              rw [start_congr habove.workingDirectory]
            · exact habove
      · split <;> exact .refl _ _

/-- Making a directory with those above it adds directories on the way to it, and nothing else,
    whether or not it fails. -/
theorem makeDirectories_adds (fs : FileSystem) (p : Path) :
    AddsDirectories (fs.OnTheWay p) fs (fs.makeDirectories p).1 :=
  makeDirectoriesTo_adds _ fs p

theorem AddsDirectories.keepsDirectories {allowed : Location → Prop}
    (h : AddsDirectories allowed fs fs') : KeepsDirectories fs fs' := by
  intro place hplace
  rcases h.item place with hsame | ⟨hnone, -⟩
  · rw [hsame, hplace]
  · cases hnone.symm.trans hplace

/-- What a path led to it still leads to after directories are made. -/
theorem AddsDirectories.existsAt {allowed : Location → Prop} (h : AddsDirectories allowed fs fs')
    (hthere : fs.existsAt p = true) : fs'.existsAt p = true := by
  refine existsAt_keeps h.workingDirectory h.keepsDirectories (fun item hitem => ?_) hthere
  rcases h.item (fs.placeOf p) with hsame | ⟨hnone, -⟩
  · rw [hsame, hitem]
  · cases hnone.symm.trans hitem

/-! ## A file that is written -/

/-- A file system is another one in which at most the file has changed that a path opens for
    writing. No directory has come in its place. -/
structure TouchesOnly (p : Path) (fs fs' : FileSystem) : Prop where
  workingDirectory : fs'.workingDirectory = fs.workingDirectory
  item : ∀ place, fs'.item? place = fs.item? place ∨
    (fs.fileToWrite p = .ok place ∧ fs'.item? place ≠ some .directory)

theorem TouchesOnly.refl (p : Path) (fs : FileSystem) : TouchesOnly p fs fs :=
  ⟨rfl, fun _ => .inl rfl⟩

theorem writeBytes_touches {content : ByteArray} (h : fs.writeBytes p content = .ok fs') :
    TouchesOnly p fs fs' := by
  obtain ⟨written, hopens, h⟩ := exists_of_bind_eq_ok h
  cases h
  obtain ⟨front, dir, last, -, rfl⟩ := fileToWrite_ok hopens
  refine ⟨rfl, fun place => ?_⟩
  by_cases heq : place = dir ++ [last]
  · subst heq
    refine .inr ⟨hopens, ?_⟩
    rw [item?_setItem_self fs (by simp)]
    nofun
  · exact .inl (item?_setItem_of_ne fs heq _)

theorem writeText_touches {text : String} (h : fs.writeText p text = .ok fs') :
    TouchesOnly p fs fs' :=
  writeBytes_touches h

/-- The file that a path opens is where the path leads. -/
theorem placeOf_of_fileToWrite (h : fs.fileToWrite p = .ok place) : fs.placeOf p = place := by
  obtain ⟨front, dir, last, hopens, rfl⟩ := fileToWrite_ok h
  rw [placeOf, hopens.names, follow_concat, ← descend_ok hopens.descend,
    hopens.lookedUp.towards]

theorem TouchesOnly.keepsDirectories (h : TouchesOnly p fs fs') : KeepsDirectories fs fs' := by
  intro place hplace
  rcases h.item place with hsame | ⟨hwrite, -⟩
  · rw [hsame, hplace]
  · obtain ⟨front, dir, last, hopens, rfl⟩ := fileToWrite_ok hwrite
    exact absurd hplace hopens.noDirectory

/-- What another path led to it still leads to after a file is written. -/
theorem TouchesOnly.existsAt (h : TouchesOnly p fs fs') (hother : fs.placeOf q ≠ fs.placeOf p)
    (hthere : fs.existsAt q = true) : fs'.existsAt q = true := by
  refine existsAt_keeps h.workingDirectory h.keepsDirectories (fun item hitem => ?_) hthere
  rcases h.item (fs.placeOf q) with hsame | ⟨hwrite, -⟩
  · rw [hsame, hitem]
  · exact absurd (placeOf_of_fileToWrite hwrite).symm hother

/-- A file that was written is there. -/
theorem existsAt_of_writeBytes {content : ByteArray} (h : fs.writeBytes p content = .ok fs') :
    fs'.existsAt p = true := by
  have hdirs := (writeBytes_touches h).keepsDirectories
  obtain ⟨written, hwrite, h⟩ := exists_of_bind_eq_ok h
  cases h
  obtain ⟨front, dir, last, hopens, rfl⟩ := fileToWrite_ok hwrite
  exact hopens.existsAt (descend_keeps hdirs hopens.descend)
    (item?_setItem_self fs (by simp) _)

/-! ## Paths that do not step back -/

/-- Items are in directories. -/
def WellFormed (fs : FileSystem) : Prop :=
  ∀ place name item, fs.item? (place ++ [name]) = some item → fs.item? place = some .directory

theorem WellFormed.of_items
    (h : ∀ entry ∈ fs.items, fs.item? entry.1.dropLast = some .directory) : fs.WellFormed := by
  intro place name item hitem
  unfold item? at hitem
  rw [if_neg (by simp), List.lookup_eq_some_iff] at hitem
  obtain ⟨before, after, hitems, -⟩ := hitem
  have hentry : (place ++ [name], item) ∈ fs.items := by simp [hitems]
  simpa using h _ hentry

theorem WellFormed.item?_above (h : fs.WellFormed) {place back : Location} (hback : back ≠ [])
    {item : Item} (hitem : fs.item? (place ++ back) = some item) :
    fs.item? place = some .directory := by
  induction back using List.reverseRecOn generalizing item with
  | nil => exact absurd rfl hback
  | append_singleton back name ih =>
      rw [← List.append_assoc] at hitem
      have habove := h _ _ _ hitem
      by_cases hnil : back = []
      · simpa [hnil] using habove
      · exact ih hnil habove

/-- Whether there is a `..` after a name that leads down. Only such a path passes places that are
    not above the one it leads to. -/
def stepsBack : List String → Bool
  | [] => false
  | name :: names => if name = "." ∨ name = ".." then stepsBack names else names.contains ".."

theorem stepsBack_of_not_mem {names : List String} (h : ".." ∉ names) :
    stepsBack names = false := by
  induction names with
  | nil => rfl
  | cons name names ih =>
      rw [List.mem_cons, not_or] at h
      unfold stepsBack
      split
      · exact ih h.2
      · simpa using h.2

theorem isPrefix_follow {names : List String} (h : ".." ∉ names) (from_ : Location) :
    from_ <+: follow from_ names := by
  induction names generalizing from_ with
  | nil => exact List.prefix_refl _
  | cons name names ih =>
      rw [List.mem_cons, not_or] at h
      have hnext : from_ <+: towards from_ name := by
        unfold towards
        rw [if_neg (Ne.symm h.1)]
        split
        · exact List.prefix_refl _
        · exact List.prefix_append _ _
      exact hnext.trans (ih h.2 _)

/-- What is made on the way to a directory is not in it. -/
theorem AddsDirectories.item?_within (h : AddsDirectories (fs.OnTheWay p) fs fs')
    (hnames : ".." ∉ namesOf p) (name : String) :
    fs'.item? (fs.placeOf p ++ [name]) = fs.item? (fs.placeOf p ++ [name]) := by
  rcases h.item (fs.placeOf p ++ [name]) with hsame | ⟨-, -, front, ⟨back, hfront⟩, hplace⟩
  · exact hsame
  · have hback : ".." ∉ back := fun hmem => hnames (hfront ▸ List.mem_append_right _ hmem)
    have habove : follow (fs.start p) front <+: fs.placeOf p := by
      rw [placeOf, ← hfront, follow, follow, List.foldl_append]
      exact isPrefix_follow hback _
    rw [← hplace] at habove
    exact absurd habove.length_le (by simp)

/-- If something is in the directory that a path leads to later, and the path does not step back,
    the path leads there already. -/
theorem WellFormed.descend_of_item? (h : fs.WellFormed) {names : List String}
    (hnames : stepsBack names = false) (hlater : fs'.descend from_ names = .ok place)
    {last : String} {item : Item} (hitem : fs.item? (place ++ [last]) = some item) :
    fs.descend from_ names = .ok place := by
  induction names generalizing from_ with
  | nil => exact hlater
  | cons name names ih =>
      have hleads := descend_ok hlater
      unfold descend at hlater ⊢
      obtain ⟨⟨next, found⟩, henter, hlater⟩ := exists_of_bind_eq_ok hlater
      cases found with
      | file content => cases hlater
      | directory =>
          obtain ⟨rfl, ⟨hdots, -⟩ | ⟨hlookup, -⟩⟩ := enter_ok henter
          · rw [stepsBack, if_pos hdots] at hnames
            have hsame : fs.enter from_ name = .ok (towards from_ name, .directory) := by
              rcases hdots with rfl | rfl <;> rfl
            rw [hsame]
            exact ih hnames hlater
          · rw [stepsBack, if_neg (not_or.2 ⟨hlookup.ne_dot, hlookup.ne_dots⟩)] at hnames
            have hdown : ".." ∉ names := by simpa using hnames
            -- The next directory is above the item, since nothing leads back up from it.
            obtain ⟨back, hback⟩ : towards from_ name <+: place :=
              hleads ▸ isPrefix_follow hdown _
            have hbelow : fs.item? (towards from_ name ++ (back ++ [last])) = some item := by
              rw [← List.append_assoc, hback]
              exact hitem
            have hnext : fs.item? (towards from_ name) = some .directory :=
              h.item?_above (by simp) hbelow
            rw [hlookup.towards] at hlater hnext
            rw [enter_of_isLookedUp hlookup, hnext]
            exact ih (stepsBack_of_not_mem hdown) hlater

end FileSystem
end HtmlToLatex
