import HtmlToLatex.Path

set_option autoImplicit false

/-! # Files

A tree of directories and files without links, as a list of the items at their locations. Paths
are resolved from the root or from the working directory, one name at a time: each name on the
way must be that of a directory. -/

namespace HtmlToLatex

/-- Where an item is: the names from the root down. -/
abbrev Location := List String

/-- A file with its bytes, or a directory. -/
inductive Item where
  | file (content : ByteArray)
  | directory
  deriving BEq, Inhabited

/-- The ways in which a file operation fails. -/
inductive FileError where
  | notFound
  | exists
  | notADirectory
  | isADirectory
  | nameTooLong
  /-- The path holds a null character. -/
  | nullInPath
  /-- The file was to be read as text and is none. -/
  | notText
  deriving Repr, BEq, DecidableEq, Inhabited

/-- The wording of a failure. -/
def FileError.message : FileError → String
  | .notFound => "No such file or directory (os error 2)"
  | .exists => "File exists (os error 17)"
  | .notADirectory => "Not a directory (os error 20)"
  | .isADirectory => "Is a directory (os error 21)"
  | .nameTooLong => "File name too long (os error 36)"
  | .nullInPath => "file name contained an unexpected NUL byte"
  | .notText => "stream did not contain valid UTF-8"

/-- A file system. The root is always a directory. -/
structure FileSystem where
  items : List (Location × Item) := []
  /-- Relative paths start here. -/
  workingDirectory : Location := []
  deriving Inhabited

namespace FileSystem

/-! ## Items at locations -/

/-- The item at a location. -/
def item? (fs : FileSystem) (at_ : Location) : Option Item :=
  if at_ = [] then some .directory else fs.items.lookup at_

/-- Puts an item at a location, in place of the one that is there. -/
def setItem (fs : FileSystem) (at_ : Location) (item : Item) : FileSystem :=
  { fs with items := (at_, item) :: fs.items.filter fun entry => entry.1 ≠ at_ }

theorem workingDirectory_setItem (fs : FileSystem) (at_ : Location) (item : Item) :
    (fs.setItem at_ item).workingDirectory = fs.workingDirectory := rfl

theorem item?_setItem_self (fs : FileSystem) {at_ : Location} (h : at_ ≠ []) (item : Item) :
    (fs.setItem at_ item).item? at_ = some item := by
  simp [item?, setItem, h]

theorem lookup_filter_ne (entries : List (Location × Item)) {at_ other : Location}
    (h : other ≠ at_) :
    (entries.filter fun entry => entry.1 ≠ at_).lookup other = entries.lookup other := by
  induction entries with
  | nil => rfl
  | cons entry entries ih =>
    obtain ⟨place, item⟩ := entry
    by_cases hp : place = at_
    · subst hp
      have hb : (other == place) = false := by simpa using h
      rw [List.filter_cons_of_neg (by simp), List.lookup_cons, hb]
      exact ih
    · rw [List.filter_cons_of_pos (by simpa using hp), List.lookup_cons, List.lookup_cons, ih]

/-- Other locations are not touched. -/
theorem item?_setItem_of_ne (fs : FileSystem) {at_ other : Location} (h : other ≠ at_)
    (item : Item) : (fs.setItem at_ item).item? other = fs.item? other := by
  have hb : (other == at_) = false := by simpa using h
  simp only [item?, setItem, List.lookup_cons, hb]
  rw [lookup_filter_ne _ h]

/-! ## Resolving paths -/

/-- The greatest number of bytes in one name. -/
def maxNameBytes : Nat := 255

/-- Paths of this many bytes or more are refused. -/
def pathByteLimit : Nat := 4096

/-- The names of a path as they are resolved. -/
def namesOf (p : Path) : List String :=
  ((splitOnElement '/' p.text.toList).filter (· ≠ [])).map String.ofList

/-- Whether a path ends in a slash. -/
def endsInSlash (p : Path) : Bool :=
  p.text.toList.getLast? == some '/'

/-- Refuses a path before it is looked at. -/
def checkPath (p : Path) : Except FileError Unit :=
  if p.text.toList.contains '\x00' then .error .nullInPath
  else if p.text = "" then .error .notFound
  else if pathByteLimit ≤ p.text.utf8ByteSize then .error .nameTooLong
  else .ok ()

/-- Where a path starts. -/
def start (fs : FileSystem) (p : Path) : Location :=
  if p.isAbsolute then [] else fs.workingDirectory

/-- Goes from a directory to the item of a name in it. -/
def enter (fs : FileSystem) (from_ : Location) (name : String) :
    Except FileError (Location × Item) :=
  if name = "." then .ok (from_, .directory)
  else if name = ".." then .ok (from_.dropLast, .directory)
  else if maxNameBytes < name.utf8ByteSize then .error .nameTooLong
  else
    match fs.item? (from_ ++ [name]) with
    | some item => .ok (from_ ++ [name], item)
    | none => .error .notFound

/-- Follows names from a directory; all of them must lead to directories. -/
def descend (fs : FileSystem) (from_ : Location) : List String → Except FileError Location
  | [] => .ok from_
  | name :: names => do
    match ← fs.enter from_ name with
    | (place, .directory) => fs.descend place names
    | (_, .file _) => .error .notADirectory

/-- The location of what a path names, with the item there. -/
def resolve (fs : FileSystem) (p : Path) : Except FileError (Location × Item) := do
  checkPath p
  match (namesOf p).reverse with
  | [] => .ok (fs.start p, .directory)
  | last :: front =>
    let place ← fs.descend (fs.start p) front.reverse
    match ← fs.enter place last with
    | (place, .directory) => .ok (place, .directory)
    | (place, .file content) =>
      if endsInSlash p then .error .notADirectory else .ok (place, .file content)

/-- The directory in which the last name of a path is looked up, and that name. There is none if
    the path names the root. -/
def resolveParent (fs : FileSystem) (p : Path) : Except FileError (Location × Option String) := do
  checkPath p
  match (namesOf p).reverse with
  | [] => .ok (fs.start p, none)
  | last :: front => do
    let place ← fs.descend (fs.start p) front.reverse
    .ok (place, some last)

/-! ## Operations -/

/-- Whether there is something at a path. -/
def existsAt (fs : FileSystem) (p : Path) : Bool :=
  (fs.resolve p).isOk

/-- Whether there is a directory at a path. -/
def isDirectory (fs : FileSystem) (p : Path) : Bool :=
  match fs.resolve p with
  | .ok (_, .directory) => true
  | _ => false

/-- The bytes of the file at a path. -/
def readBytes (fs : FileSystem) (p : Path) : Except FileError ByteArray := do
  match ← fs.resolve p with
  | (_, .file content) => .ok content
  | (_, .directory) => .error .isADirectory

/-- The text of a file's bytes. -/
def textOfBytes (content : ByteArray) : Except FileError String :=
  match String.fromUTF8? content with
  | some text => .ok text
  | none => .error .notText

/-- The text of the file at a path. -/
def readText (fs : FileSystem) (p : Path) : Except FileError String := do
  textOfBytes (← fs.readBytes p)

/-- The location of the file that a path opens for writing, whether it is there or not. Its
    directory must be there. -/
def fileToWrite (fs : FileSystem) (p : Path) : Except FileError Location := do
  match ← fs.resolveParent p with
  | (_, none) => .error .isADirectory
  | (place, some last) =>
    if last = "." ∨ last = ".." ∨ endsInSlash p then .error .isADirectory
    else
      match fs.enter place last with
      | .ok (_, .directory) => .error .isADirectory
      | .ok (place, .file _) => .ok place
      | .error .notFound => .ok (place ++ [last])
      | .error e => .error e

/-- Writes a file in place of the one that is there, or a new one. -/
def writeBytes (fs : FileSystem) (p : Path) (content : ByteArray) :
    Except FileError FileSystem := do
  let place ← fs.fileToWrite p
  .ok (fs.setItem place (.file content))

/-- Writes a text file in place of the one that is there, or a new one. -/
def writeText (fs : FileSystem) (p : Path) (text : String) : Except FileError FileSystem :=
  fs.writeBytes p text.toUTF8

/-- Makes one directory; its parent must be there. -/
def makeDirectory (fs : FileSystem) (p : Path) : Except FileError FileSystem := do
  match ← fs.resolveParent p with
  | (_, none) => .error .exists
  | (place, some last) =>
    if last = "." ∨ last = ".." then .error .exists
    else
      match fs.enter place last with
      | .ok _ => .error .exists
      | .error .notFound => .ok (fs.setItem (place ++ [last]) .directory)
      | .error e => .error e

/-- Makes one directory, which may be there already. -/
def ensureDirectory (fs : FileSystem) (p : Path) : Except FileError FileSystem :=
  match fs.makeDirectory p with
  | .ok fs' => .ok fs'
  | .error e => if fs.isDirectory p then .ok fs else .error e

/-- Makes a directory after the directories above it, `depth` of them at most. What was made
    before a failure stays, so the file system is returned in any case. -/
def makeDirectoriesTo (fs : FileSystem) : Nat → Path → FileSystem × Except FileError Unit
  | 0, _ => (fs, .error .notFound)
  | depth + 1, p =>
    if p.text = "" then (fs, .ok ())
    else
      match fs.makeDirectory p with
      | .ok fs' => (fs', .ok ())
      | .error .notFound =>
        match p.parent? with
        | none => (fs, .error .notFound)
        | some parent =>
          match makeDirectoriesTo fs depth parent with
          | (fs', .error e) => (fs', .error e)
          | (fs', .ok ()) =>
            match fs'.ensureDirectory p with
            | .ok fs'' => (fs'', .ok ())
            | .error e => (fs', .error e)
      | .error e => if fs.isDirectory p then (fs, .ok ()) else (fs, .error e)

/-- Makes a directory and those above it that are missing. What was made before a failure stays. -/
def makeDirectories (fs : FileSystem) (p : Path) : FileSystem × Except FileError Unit :=
  fs.makeDirectoriesTo (p.text.length + 1) p

/-- Whether a location is at or below another one. -/
def isUnder (top place : Location) : Bool :=
  top.isPrefixOf place

/-- Removes the item at a path, a directory with all that it holds. -/
def remove (fs : FileSystem) (p : Path) : Except FileError FileSystem := do
  let (place, _) ← fs.resolve p
  .ok { fs with items := fs.items.filter fun entry => !isUnder place entry.1 }

/-- The items below the working directory, at their locations relative to it. -/
def listing (fs : FileSystem) : List (Location × Item) :=
  fs.items.filterMap fun (place, item) =>
    if isUnder fs.workingDirectory place && place.length > fs.workingDirectory.length then
      some (place.drop fs.workingDirectory.length, item)
    else none

end FileSystem
end HtmlToLatex
