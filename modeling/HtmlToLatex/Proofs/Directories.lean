import HtmlToLatex.Proofs.Files

set_option autoImplicit false

/-! # Making directories again

There is a directory at a path if its names can be followed to the end, `isDirectory_iff`. From
this: making directories leads to a directory or fails, and once it has been tried, trying again
changes nothing and comes to the same, `makeDirectories_again`. -/

namespace HtmlToLatex
namespace FileSystem

variable {fs fs' : FileSystem} {from_ place : Location} {p q : Path}

/-! ## Directories at paths -/

theorem descend_append (fs : FileSystem) (from_ : Location) (front back : List String) :
    fs.descend from_ (front ++ back) = fs.descend from_ front >>= (fs.descend · back) := by
  induction front generalizing from_ with
  | nil => rfl
  | cons name front ih =>
      rw [List.cons_append, descend, descend, bind_assoc]
      cases fs.enter from_ name with
      | error e => rfl
      | ok found =>
          obtain ⟨next, item⟩ := found
          cases item with
          | file content => rfl
          | directory => exact ih next

/-- Names that come first can be followed if all of them can. -/
theorem descend_of_prefix {front names : List String} (hfront : front <+: names)
    (h : fs.descend from_ names = .ok place) : ∃ dir, fs.descend from_ front = .ok dir := by
  obtain ⟨back, rfl⟩ := hfront
  rw [descend_append] at h
  obtain ⟨dir, hdir, -⟩ := exists_of_bind_eq_ok h
  exact ⟨dir, hdir⟩

theorem descend_singleton {name : String} :
    fs.descend from_ [name] = .ok place ↔ fs.enter from_ name = .ok (place, .directory) := by
  unfold descend
  cases fs.enter from_ name with
  | error e => constructor <;> intro h <;> cases h
  | ok found =>
      obtain ⟨next, item⟩ := found
      cases item with
      | file content => constructor <;> intro h <;> cases h
      | directory => constructor <;> intro h <;> cases h <;> rfl

theorem resolve_eq_directory : fs.resolve p = .ok (place, .directory) ↔
    checkPath p = .ok () ∧ fs.descend (fs.start p) (namesOf p) = .ok place := by
  unfold resolve
  rcases List.eq_nil_or_concat (namesOf p) with hnil | ⟨front, last, hconcat⟩
  · rw [hnil]
    cases checkPath p with
    | error e => exact ⟨nofun, nofun⟩
    | ok u =>
        constructor
        · intro h
          cases h
          exact ⟨rfl, rfl⟩
        · rintro ⟨-, h⟩
          cases h
          rfl
  · rw [List.concat_eq_append] at hconcat
    rw [hconcat, List.reverse_append, List.reverse_singleton, List.singleton_append,
      descend_append]
    dsimp only
    rw [List.reverse_reverse]
    constructor
    · intro h
      obtain ⟨_, hcheck, h⟩ := exists_of_bind_eq_ok h
      obtain ⟨dir, hdescend, h⟩ := exists_of_bind_eq_ok h
      obtain ⟨⟨found, item⟩, henter, h⟩ := exists_of_bind_eq_ok h
      cases item with
      | file content =>
          dsimp only at h
          split at h <;> cases h
      | directory =>
          cases h
          refine ⟨hcheck, ?_⟩
          rw [hdescend]
          exact descend_singleton.2 henter
    · rintro ⟨hcheck, h⟩
      obtain ⟨dir, hdescend, h⟩ := exists_of_bind_eq_ok h
      rw [hcheck, hdescend]
      have henter := descend_singleton.1 h
      change (fs.enter dir last >>= _) = _
      rw [henter]
      rfl

/-- There is a directory at a path if its names can be followed to the end. -/
theorem isDirectory_iff : fs.isDirectory p = true ↔
    checkPath p = .ok () ∧ ∃ place, fs.descend (fs.start p) (namesOf p) = .ok place := by
  rw [← exists_and_left]
  simp only [← resolve_eq_directory]
  unfold isDirectory
  constructor
  · intro h
    split at h
    next place hresolve => exact ⟨place, hresolve⟩
    · cases h
  · rintro ⟨place, hresolve⟩
    rw [hresolve]

theorem isDirectory_keeps (hcwd : fs'.workingDirectory = fs.workingDirectory)
    (hdirs : KeepsDirectories fs fs') (h : fs.isDirectory p = true) : fs'.isDirectory p = true := by
  rw [isDirectory_iff] at h ⊢
  obtain ⟨hcheck, place, hdescend⟩ := h
  exact ⟨hcheck, place, by rw [start_congr hcwd]; exact descend_keeps hdirs hdescend⟩

/-! ## Where a directory is already -/

theorem makeDirectory_of_isDirectory (h : fs.isDirectory p = true) :
    fs.makeDirectory p = .error .exists := by
  obtain ⟨hcheck, place, hdescend⟩ := isDirectory_iff.1 h
  unfold makeDirectory
  rcases List.eq_nil_or_concat (namesOf p) with hnil | ⟨front, last, hconcat⟩
  · rw [resolveParent, hcheck, hnil]
    rfl
  · rw [List.concat_eq_append] at hconcat
    rw [hconcat, descend_append] at hdescend
    obtain ⟨dir, hdir, hlast⟩ := exists_of_bind_eq_ok hdescend
    rw [resolveParent_of_descend hcheck hconcat hdir]
    change (if last = "." ∨ last = ".." then Except.error FileError.exists else _) = _
    split
    · rfl
    · rw [descend_singleton.1 hlast]

/-- Making a directory that is there changes nothing. -/
theorem makeDirectoriesTo_of_isDirectory (depth : Nat) (h : fs.isDirectory p = true) :
    fs.makeDirectoriesTo (depth + 1) p = (fs, .ok ()) := by
  unfold makeDirectoriesTo
  rw [makeDirectory_of_isDirectory h]
  simp [h]

/-! ## Where a directory is made -/

theorem checkPath_of_makeDirectory (h : fs.makeDirectory p = .ok fs') : checkPath p = .ok () := by
  unfold makeDirectory resolveParent at h
  obtain ⟨_, hparent, -⟩ := exists_of_bind_eq_ok h
  obtain ⟨_, hcheck, -⟩ := exists_of_bind_eq_ok hparent
  exact hcheck

theorem isDirectory_of_makeDirectory (h : fs.makeDirectory p = .ok fs') :
    fs'.isDirectory p = true := by
  have hcheck := checkPath_of_makeDirectory h
  have hdirs := (makeDirectory_adds h).keepsDirectories
  obtain ⟨front, dir, last, hnames, hdescend, hlookup, -, rfl⟩ := makeDirectory_ok h
  refine isDirectory_iff.2 ⟨hcheck, dir ++ [last], ?_⟩
  rw [hnames, descend_append]
  change (descend _ (fs.start p) front >>= _) = _
  rw [descend_keeps hdirs hdescend]
  refine descend_singleton.2 ?_
  rw [enter_of_isLookedUp hlookup, item?_setItem_self fs (by simp)]

theorem isDirectory_of_ensureDirectory (h : fs.ensureDirectory p = .ok fs') :
    fs'.isDirectory p = true := by
  unfold ensureDirectory at h
  split at h
  next hmake =>
    cases h
    exact isDirectory_of_makeDirectory hmake
  · split at h
    next hthere =>
      cases h
      exact hthere
    · cases h

/-- Making directories leads to a directory, unless it fails. -/
theorem isDirectory_of_makeDirectoriesTo {depth : Nat} (hp : p.text ≠ "")
    (h : fs.makeDirectoriesTo depth p = (fs', .ok ())) : fs'.isDirectory p = true := by
  cases depth with
  | zero => cases h
  | succ depth =>
      unfold makeDirectoriesTo at h
      rw [if_neg hp] at h
      split at h
      next hmake =>
        cases h
        exact isDirectory_of_makeDirectory hmake
      · split at h
        · cases h
        · split at h
          · cases h
          · split at h
            next hensure =>
              cases h
              exact isDirectory_of_ensureDirectory hensure
            · cases h
      · split at h
        next hthere =>
          cases h
          exact hthere
        · cases h

/-! ## Trying again -/

theorem checkPath_of_parent? (hparent : p.parent? = some q) (hq : q.text ≠ "")
    (h : checkPath p = .ok ()) : checkPath q = .ok () := by
  obtain ⟨rest, hrest⟩ := Path.parent?_text hparent
  have htext : p.text = q.text ++ String.ofList rest := by
    rw [← String.toList_inj, String.toList_append, String.toList_ofList, hrest]
  have hsize : q.text.utf8ByteSize ≤ p.text.utf8ByteSize := by
    rw [htext, String.utf8ByteSize_append]
    omega
  unfold checkPath at h ⊢
  split at h
  · cases h
  next hnull =>
    split at h
    · cases h
    · split at h
      · cases h
      next hshort =>
        have hnull' : ¬q.text.toList.contains '\x00' = true := by
          rw [← hrest] at hnull
          simpa using fun hmem => hnull (by simpa using .inl hmem)
        rw [if_neg hnull', if_neg hq, if_neg (by omega)]

/-- If a path leads to its last name, there is a directory at its parent. -/
theorem isDirectory_parent? (hparent : p.parent? = some q) (hq : q.text ≠ "")
    (hcheck : checkPath p = .ok ())
    (h : fs.descend (fs.start p) (namesOf p).dropLast = .ok place) :
    fs.isDirectory q = true := by
  have hstart : fs.start q = fs.start p := by rw [start, start, (parent?_spec hparent).1]
  refine isDirectory_iff.2 ⟨checkPath_of_parent? hparent hq hcheck, ?_⟩
  rw [hstart]
  exact descend_of_prefix (namesOf_parent? hparent) h

theorem isDirectory_parent?_of_isDirectory (hparent : p.parent? = some q) (hq : q.text ≠ "")
    (h : fs.isDirectory p = true) : fs.isDirectory q = true := by
  obtain ⟨hcheck, place, hdescend⟩ := isDirectory_iff.1 h
  obtain ⟨dir, hdir⟩ := descend_of_prefix (List.dropLast_prefix _) hdescend
  exact isDirectory_parent? hparent hq hcheck hdir

theorem isDirectory_parent?_of_makeDirectory (hparent : p.parent? = some q) (hq : q.text ≠ "")
    (h : fs.makeDirectory p = .ok fs') : fs.isDirectory q = true := by
  obtain ⟨front, dir, last, hnames, hdescend, -⟩ := makeDirectory_ok h
  have hfront : fs.descend (fs.start p) (namesOf p).dropLast = .ok dir := by
    rw [hnames, List.dropLast_concat, hdescend]
  exact isDirectory_parent? hparent hq (checkPath_of_makeDirectory h) hfront

/-- Directories cannot be made, and nothing is changed, if the last one cannot be made and those
    above it change nothing. -/
theorem makeDirectoriesTo_stuck {depth : Nat} {e : FileError} (hp : p.text ≠ "")
    (hmake : fs.makeDirectory p = .error e) (hnot : ¬fs.isDirectory p = true)
    (habove : ∀ q, p.parent? = some q → (fs.makeDirectoriesTo depth q).1 = fs) :
    ∃ e', fs.makeDirectoriesTo (depth + 1) p = (fs, .error e') := by
  have hensure : fs.ensureDirectory p = .error e := by
    unfold ensureDirectory
    rw [hmake]
    exact if_neg hnot
  unfold makeDirectoriesTo
  rw [if_neg hp, hmake]
  split
  next hcontra => cases hcontra
  · split
    · exact ⟨_, rfl⟩
    next q hparent =>
      have hsame := habove q hparent
      rcases hq : fs.makeDirectoriesTo depth q with ⟨fs', r⟩
      rw [hq] at hsame
      obtain rfl : fs' = fs := hsame
      cases r with
      | error e' => exact ⟨e', rfl⟩
      | ok u =>
          dsimp only
          rw [hensure]
          exact ⟨e, rfl⟩
  · rw [if_neg hnot]
    exact ⟨_, rfl⟩

/-- Once directories have been made, or not been made, trying again changes nothing and comes to
    the same. -/
theorem makeDirectoriesTo_again {depth : Nat} {r : Except FileError Unit}
    (h : fs.makeDirectoriesTo depth p = (fs', r)) :
    ∃ r', fs'.makeDirectoriesTo depth p = (fs', r') ∧ r'.isOk = r.isOk := by
  induction depth generalizing p fs' r with
  | zero =>
      cases h
      exact ⟨_, rfl, rfl⟩
  | succ depth ih =>
      by_cases hp : p.text = ""
      · unfold makeDirectoriesTo at h ⊢
        rw [if_pos hp] at h ⊢
        cases h
        exact ⟨_, rfl, rfl⟩
      cases r with
      | ok u =>
          have hthere := isDirectory_of_makeDirectoriesTo hp h
          exact ⟨_, makeDirectoriesTo_of_isDirectory depth hthere, rfl⟩
      | error e =>
          suffices hstuck : ∃ e', fs'.makeDirectoriesTo (depth + 1) p = (fs', .error e') by
            obtain ⟨e', hagain⟩ := hstuck
            exact ⟨_, hagain, rfl⟩
          have horiginal := h
          unfold makeDirectoriesTo at h
          rw [if_neg hp] at h
          split at h
          · cases h
          next hmissing =>
            split at h
            · cases h
              exact ⟨_, horiginal⟩
            next q hparent =>
              rcases hq : fs.makeDirectoriesTo depth q with ⟨fs₁, r₁⟩
              rw [hq] at h
              -- The directories above have been tried, so trying them again changes nothing. It is
              -- left to see that the last one cannot be made now, either.
              obtain ⟨r₂, hagain, hsame⟩ := ih hq
              have habove (q' : Path) (hparent' : p.parent? = some q') :
                  (fs₁.makeDirectoriesTo depth q').1 = fs₁ := by
                obtain rfl : q = q' := Option.some.inj (hparent.symm.trans hparent')
                rw [hagain]
              cases r₁ with
              | error e₁ =>
                  cases h
                  cases depth with
                  | zero =>
                      cases hq
                      exact ⟨_, horiginal⟩
                  | succ depth =>
                      have hq' : q.text ≠ "" := fun hempty => by
                        simp [makeDirectoriesTo, hempty] at hq
                      have hnot : ¬fs'.isDirectory q = true := fun hthere => by
                        rw [makeDirectoriesTo_of_isDirectory depth hthere] at hagain
                        cases hagain
                        cases hsame
                      -- Without its parent the last one is not made, and not there.
                      cases hmake : fs'.makeDirectory p with
                      | ok fs₂ =>
                          exact absurd (isDirectory_parent?_of_makeDirectory hparent hq' hmake) hnot
                      | error e₂ =>
                          refine makeDirectoriesTo_stuck hp hmake (fun hthere => hnot ?_) habove
                          exact isDirectory_parent?_of_isDirectory hparent hq' hthere
              | ok u =>
                  dsimp only at h
                  split at h
                  · cases h
                  next hensure =>
                    cases h
                    unfold ensureDirectory at hensure
                    split at hensure
                    · cases hensure
                    next e₂ hmake =>
                      split at hensure
                      · cases hensure
                      next hnot => exact makeDirectoriesTo_stuck hp hmake hnot habove
          next e' hmake hne =>
            split at h
            · cases h
            · cases h
              exact ⟨_, horiginal⟩

/-- What came of making a directory and those above it comes of it again, and nothing changes. -/
theorem makeDirectories_again {r : Except FileError Unit} (h : fs.makeDirectories p = (fs', r)) :
    ∃ r', fs'.makeDirectories p = (fs', r') ∧ r'.isOk = r.isOk :=
  makeDirectoriesTo_again h

/-- A directory that was made does not have to be made again, whatever came after it. -/
theorem makeDirectories_of_keeps {made : FileSystem} (h : fs.makeDirectories p = (made, .ok ()))
    (hcwd : fs'.workingDirectory = made.workingDirectory) (hdirs : KeepsDirectories made fs') :
    fs'.makeDirectories p = (fs', .ok ()) := by
  by_cases hp : p.text = ""
  · unfold makeDirectories makeDirectoriesTo
    rw [if_pos hp]
  · have hthere := isDirectory_of_makeDirectoriesTo hp h
    exact makeDirectoriesTo_of_isDirectory _ (isDirectory_keeps hcwd hdirs hthere)

end FileSystem
end HtmlToLatex
