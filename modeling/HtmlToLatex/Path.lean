set_option autoImplicit false

/-! # File paths

A path is its text; slashes separate the names in it. Empty names and single dots do not count,
except for a dot that opens a relative path. Only paths of Unicode text are considered, so that a
name and its text are the same; names of other bytes, which some systems allow, are left out. The
operations below take a path apart without looking at any file system. -/

namespace HtmlToLatex

/-- A file path, kept as it was written. -/
structure Path where
  text : String
  deriving Repr, BEq, DecidableEq, Inhabited

/-- Splits a list at every occurrence of an element. -/
def splitOnElement {α : Type} [DecidableEq α] (sep : α) : List α → List (List α)
  | [] => [[]]
  | c :: r =>
    if c = sep then [] :: splitOnElement sep r
    else
      match splitOnElement sep r with
      | [] => [[c]]
      | part :: parts => (c :: part) :: parts

/-- Joins lists with an element between them. -/
def joinWithElement {α : Type} (sep : α) : List (List α) → List α
  | [] => []
  | [part] => part
  | part :: parts => part ++ sep :: joinWithElement sep parts

theorem splitOnElement_ne_nil {α : Type} [DecidableEq α] (sep : α) (s : List α) :
    splitOnElement sep s ≠ [] := by
  cases s with
  | nil => simp [splitOnElement]
  | cons c r =>
    simp only [splitOnElement]
    split
    · simp
    · split <;> simp

/-- Splitting loses nothing. -/
theorem joinWithElement_splitOnElement {α : Type} [DecidableEq α] (sep : α) (s : List α) :
    joinWithElement sep (splitOnElement sep s) = s := by
  induction s with
  | nil => rfl
  | cons c r ih =>
    simp only [splitOnElement]
    split
    next h =>
      subst h
      cases hs : splitOnElement c r with
      | nil => exact absurd hs (splitOnElement_ne_nil _ _)
      | cons part parts => rw [hs] at ih; simp [joinWithElement, ih]
    next h =>
      cases hs : splitOnElement sep r with
      | nil => exact absurd hs (splitOnElement_ne_nil _ _)
      | cons part parts =>
        rw [hs] at ih
        cases parts with
        | nil => simpa [joinWithElement] using ih
        | cons q qs => simpa [joinWithElement] using ih

namespace Path

/-- Whether the path starts at the root. -/
def isAbsolute (p : Path) : Bool :=
  p.text.toList.head? == some '/'

/-- Drops the pieces at the front that do not count as names, the front being the end of the
    path: empty ones and single dots. A single dot counts when it opens a relative path. -/
def dropIdle (rooted : Bool) : List (List Char) → List (List Char)
  | [] => []
  | piece :: pieces =>
    if piece = [] ∨ (piece = ['.'] ∧ (rooted = true ∨ pieces ≠ [])) then dropIdle rooted pieces
    else piece :: pieces

/-- The pieces of the path between slashes, last one first, without those at the end that do not
    count. -/
def pieces (p : Path) : List (List Char) :=
  dropIdle p.isAbsolute (splitOnElement '/' p.text.toList).reverse

/-- The last name of the path, unless it is `.` or `..`. -/
def fileNameChars? (p : Path) : Option (List Char) :=
  match p.pieces with
  | [] => none
  | piece :: _ => if piece = ['.'] ∨ piece = ['.', '.'] then none else some piece

/-- The last name of the path, unless it is `.` or `..`. -/
def fileName? (p : Path) : Option String :=
  p.fileNameChars?.map String.ofList

/-- The path without its last name. A path without a name has no parent. -/
def parent? (p : Path) : Option Path :=
  match p.pieces with
  | [] => none
  | _ :: front =>
    match dropIdle p.isAbsolute front with
    | [] => some ⟨if p.isAbsolute then "/" else ""⟩
    | names => some ⟨String.ofList (joinWithElement '/' names.reverse)⟩

/-- Splits a file name at its last dot, which belongs to neither part. A name without a dot, or
    whose only dot opens it, has no second part; nor has `..`. -/
def splitName (name : List Char) : List Char × Option (List Char) :=
  if name = ['.', '.'] then (name, none)
  else
    let back := name.reverse.takeWhile (· ≠ '.')
    match name.reverse.dropWhile (· ≠ '.') with
    | _ :: front@(_ :: _) => (front.reverse, some back.reverse)
    | _ => (name, none)

/-- The file name without its extension. -/
def stem? (p : Path) : Option String :=
  p.fileNameChars?.map fun name => String.ofList (splitName name).1

/-- What follows the last dot of the file name. -/
def extension? (p : Path) : Option String :=
  p.fileNameChars?.bind fun name => (splitName name).2.map String.ofList

/-- Appends a path. An absolute path stands for itself. -/
def join (p q : Path) : Path :=
  if q.isAbsolute then q
  else if p.text.toList.getLast?.any (· ≠ '/') then ⟨p.text ++ "/" ++ q.text⟩
  else ⟨p.text ++ q.text⟩

/-- The directory that holds the file of a path; `.` for a bare file name. -/
def directory (p : Path) : Path :=
  match p.parent? with
  | some parent => if parent.text = "" then ⟨"."⟩ else parent
  | none => ⟨"."⟩

end Path
end HtmlToLatex
