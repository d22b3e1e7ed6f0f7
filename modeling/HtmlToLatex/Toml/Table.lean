import HtmlToLatex.Toml.Value

set_option autoImplicit false

/-! # Tables under construction

A table may be opened by a header, by the header of a table inside it, or by a dotted key, and
each way limits how it may be added to later. Tables that are complete as they are written, between
braces, are values and cannot be added to. -/

namespace HtmlToLatex.Toml

mutual

/-- What a key stands for while a document is read. -/
inductive Item where
  | value (v : Value)
  | table (t : Table)
  /-- The tables of one array, last one first. -/
  | tables (ts : List Table)

/-- A table that may still be added to. -/
inductive Table where
  /-- `implicit`: it has no header of its own. `dotted`: it was opened by a dotted key. -/
  | mk (implicit dotted : Bool) (entries : List (String × Item))

end

instance : Inhabited Item := ⟨.value default⟩

instance : Inhabited Table := ⟨.mk false false []⟩

namespace Table

/-- A table without entries that has a header. -/
def empty : Table := .mk false false []

def implicit : Table → Bool
  | .mk implicit _ _ => implicit

def dotted : Table → Bool
  | .mk _ dotted _ => dotted

def entries : Table → List (String × Item)
  | .mk _ _ entries => entries

/-- A table with other entries. -/
def withEntries (t : Table) (entries : List (String × Item)) : Table :=
  .mk t.implicit t.dotted entries

/-- What a key stands for. -/
def find? (t : Table) (key : String) : Option Item :=
  t.entries.lookup key

/-- Adds a key that is not there yet. -/
def add (t : Table) (key : String) (item : Item) : Table :=
  t.withEntries (t.entries ++ [(key, item)])

/-- Changes what a key stands for. -/
def replace (t : Table) (key : String) (item : Item) : Table :=
  t.withEntries (t.entries.map fun entry => if entry.1 = key then (key, item) else entry)

/-- Removes a key. -/
def remove (t : Table) (key : String) : Table :=
  t.withEntries (t.entries.filter fun entry => entry.1 ≠ key)

/-- Changes the table at the end of a path; tables on the way that are missing are opened. The last
    table of an array stands for the array. A dotted key does not lead through tables that have a
    header. -/
def modifyAt (dotted : Bool) (f : Table → Option Table) : List String → Table → Option Table
  | [], t => f t
  | key :: path, t =>
    match t.find? key with
    | none => do
      let inner ← modifyAt dotted f path (.mk true dotted [])
      some (t.add key (.table inner))
    | some (.table inner) =>
      if dotted && !inner.implicit then none
      else do
        let inner ← modifyAt dotted f path inner
        some (t.replace key (.table inner))
    | some (.tables (last :: earlier)) => do
      let last ← modifyAt dotted f path last
      some (t.replace key (.tables (last :: earlier)))
    | some (.tables []) | some (.value _) => none

/-- Adds a value under a dotted key. Every key is given once. A key of several parts adds only to
    tables that were opened by such keys. -/
def insert (t : Table) (path : List String) (key : String) (v : Value) : Option Table :=
  modifyAt (!path.isEmpty) (fun inner =>
    if inner.dotted = path.isEmpty ∨ (inner.find? key).isSome then none
    else some (inner.add key (.value v))) path t

end Table

/-! ## Finished tables -/

mutual

/-- The value of a finished item. -/
def Item.toValue : Item → Value
  | .value v => v
  | .table t => .table t.toEntries
  | .tables ts => .array (Table.toValues ts).reverse

/-- The entries of a finished table. -/
def Table.toEntries : Table → List (String × Value)
  | .mk _ _ entries => Table.entriesToValues entries

def Table.toValues : List Table → List Value
  | [] => []
  | t :: ts => .table t.toEntries :: Table.toValues ts

def Table.entriesToValues : List (String × Item) → List (String × Value)
  | [] => []
  | (key, item) :: rest => (key, item.toValue) :: Table.entriesToValues rest

end

end HtmlToLatex.Toml
