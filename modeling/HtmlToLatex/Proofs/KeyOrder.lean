import HtmlToLatex.Toml.Document

set_option autoImplicit false

/-! # The order of keys in a document

A document is read line by line, and each line adds to tables that are still open. Here the lines
are read first, `statementsOf`, and the tables are made from them afterwards, which comes to the
same, `parse_eq`. So it can be said where the keys of a document stand: each one where it is first
mentioned, except that a table takes a new place with a header of its own, `keys_of_parse`. No key
stands there twice, and without such headers the order is that of the first mentions,
`keyOrder_eq_eraseDups`. -/

namespace HtmlToLatex.Toml

/-! ## Statements -/

/-- What a line of a document says. -/
inductive Statement where
  /-- A table starts. -/
  | header (path : List String)
  /-- The next table of an array starts. -/
  | arrayHeader (path : List String)
  /-- A key has a value. -/
  | entry (key : List String) (v : Value)

/-- Reads a header and what follows its line. -/
def readHeading (s : List Char) : Option (Statement × List Char) :=
  match s with
  | '[' :: '[' :: r => do
    let (path, r) ← readKey r
    let r ← afterLine? (← after? ']' (← after? ']' r))
    some (.arrayHeader path, r)
  | '[' :: r => do
    let (path, r) ← readKey r
    let r ← afterLine? (← after? ']' r)
    some (.header path, r)
  | _ => none

/-- Reads a key with its value and what follows their line. -/
def readSetting (s : List Char) : Option (Statement × List Char) := do
  let ((key, v), r) ← readEntry (readValue maxDepth) s
  let r ← afterLine? r
  some (.entry key v, r)

/-- Reads the statements in lines, at most `limit` of them. -/
def statementsFrom : Nat → List Char → Option (List Statement)
  | 0, _ => none
  | limit + 1, s =>
    match skipBlanks s with
    | [] => some []
    | '[' :: r => (readHeading ('[' :: r)).bind fun (statement, r) =>
        (statementsFrom limit r).map (statement :: ·)
    | s =>
      if s.head? = some '#' ∨ (afterLineEnd? s).isSome then
        (afterLine? s).bind (statementsFrom limit)
      else (readSetting s).bind fun (statement, r) => (statementsFrom limit r).map (statement :: ·)

/-- Reads the statements of a document. -/
def statementsOf (text : String) : Option (List Statement) :=
  let s :=
    match text.toList with
    | '\ufeff' :: r => r
    | s => s
  statementsFrom (s.length + 1) s

/-- Adds to a document what a line says. -/
def Builder.take (b : Builder) : Statement → Option Builder
  | .header path => b.openTable path
  | .arrayHeader path => b.openArrayTable path
  | .entry key v => (b.current.insertAt key v).map fun current => { b with current }

theorem readHeader_eq (b : Builder) (s : List Char) :
    readHeader b s = (readHeading s).bind fun (statement, r) =>
      (b.take statement).map fun b => (b, r) := by
  unfold readHeading
  split
  case h_1 | h_2 =>
    simp only [readHeader, Builder.take, Option.bind_eq_bind, Option.map_eq_bind,
      Function.comp_def, Option.bind_assoc, Option.bind_some]
  case h_3 => simp [readHeader]

theorem readEntryLine_eq (b : Builder) (s : List Char) :
    readEntryLine b s = (readSetting s).bind fun (statement, r) =>
      (b.take statement).map fun b => (b, r) := by
  unfold readEntryLine readSetting
  simp only [Builder.take, Option.bind_eq_bind, Option.map_eq_bind, Function.comp_def,
    Option.bind_assoc, Option.bind_some]

/-- What a line says can be added at once or together with what the next lines say. -/
theorem bind_take_bind (b : Builder) (next : List Char → Option (List Statement))
    (line : Option (Statement × List Char)) :
    ((line.bind fun (statement, r) => (b.take statement).map fun b => (b, r)).bind
      fun (b, r) => (next r).bind fun statements => statements.foldlM Builder.take b) =
    (line.bind fun (statement, r) => (next r).map (statement :: ·)).bind
      fun statements => statements.foldlM Builder.take b := by
  rcases line with _ | ⟨statement, r⟩
  · rfl
  · cases htaken : b.take statement <;> cases hnext : next r <;> simp [htaken, hnext]

/-- Lines can be read before anything is made of them. -/
theorem readLines_eq (limit : Nat) (b : Builder) (s : List Char) :
    readLines limit b s = (statementsFrom limit s).bind fun statements =>
      statements.foldlM Builder.take b := by
  induction limit generalizing b s with
  | zero => rfl
  | succ limit ih =>
      rw [readLines, statementsFrom]
      generalize skipBlanks s = s
      split
      · rfl
      next r =>
        refine Eq.trans ?_ (bind_take_bind b (statementsFrom limit) (readHeading ('[' :: r)))
        rw [← readHeader_eq]
        simp only [← ih]
        rfl
      next hempty hheader =>
        by_cases hidle : s.head? = some '#' ∨ (afterLineEnd? s).isSome = true
        · simp only [if_pos hidle, ih]
          exact (Option.bind_assoc ..).symm
        · simp only [if_neg hidle]
          refine Eq.trans ?_ (bind_take_bind b (statementsFrom limit) (readSetting s))
          rw [← readEntryLine_eq]
          simp only [← ih]
          rfl

/-- A document is made of what its lines say. -/
theorem parse_eq (text : String) :
    parse text = (statementsOf text).bind fun statements =>
      (statements.foldlM Builder.take {}).bind fun b => b.close.map Table.toEntries := by
  unfold parse statementsOf
  simp only [readLines_eq, Option.map_eq_bind]
  exact Option.bind_assoc ..

/-! ## Keys of tables -/

/-- The keys of a table, in the order in which they came into it. -/
def Table.keys (t : Table) : List String :=
  t.entries.map Prod.fst

/-- Keys with one more at the end, if it is not among them. -/
def withKey (keys : List String) (key : String) : List String :=
  if key ∈ keys then keys else keys ++ [key]

theorem withKey_of_mem {keys : List String} {key : String} (h : key ∈ keys) :
    withKey keys key = keys :=
  if_pos h

theorem withKey_of_not_mem {keys : List String} {key : String} (h : key ∉ keys) :
    withKey keys key = keys ++ [key] :=
  if_neg h

theorem mem_withKey (keys : List String) (key : String) : key ∈ withKey keys key := by
  unfold withKey
  split
  · assumption
  · simp

theorem lookup_eq_none_iff_not_mem {α : Type} {entries : List (String × α)} {key : String} :
    entries.lookup key = none ↔ key ∉ entries.map Prod.fst := by
  rw [List.lookup_eq_none_iff, List.mem_map]
  constructor
  · rintro h ⟨entry, hmem, rfl⟩
    simpa using h entry hmem
  · intro h entry hmem
    rw [bne_iff_ne]
    rintro rfl
    exact h ⟨entry, hmem, rfl⟩

namespace Table

variable {t t' : Table} {key : String} {item : Item}

theorem find?_eq_none_iff : t.find? key = none ↔ key ∉ t.keys :=
  lookup_eq_none_iff_not_mem

theorem mem_keys_of_find? (h : t.find? key = some item) : key ∈ t.keys :=
  Decidable.byContradiction fun hnot => by
    rw [find?_eq_none_iff.2 hnot] at h
    cases h

theorem keys_add (h : t.find? key = none) : (t.add key item).keys = withKey t.keys key := by
  rw [withKey_of_not_mem (find?_eq_none_iff.1 h)]
  simp [keys, add, withEntries, entries]

theorem keys_replace {found : Item} (h : t.find? key = some found) :
    (t.replace key item).keys = withKey t.keys key := by
  rw [withKey_of_mem (mem_keys_of_find? h)]
  simp only [keys, replace, withEntries, entries, List.map_map]
  refine List.map_congr_left fun entry _ => ?_
  rw [Function.comp_apply]
  split
  next h => exact h.symm
  · rfl

theorem keys_remove : (t.remove key).keys = t.keys.filter (· ≠ key) := by
  simp [keys, remove, withEntries, entries, List.filter_map, Function.comp_def]

/-- Changing the table at the end of a path opens no other key than the first one of the path. -/
theorem keys_modifyAt {dotted : Bool} {f : Table → Option Table} {path : List String}
    (h : modifyAt dotted f (key :: path) t = some t') : t'.keys = withKey t.keys key := by
  unfold modifyAt at h
  split at h
  next hnone =>
    obtain ⟨inner, -, heq⟩ := Option.bind_eq_some_iff.1 h
    cases heq
    exact keys_add hnone
  next hsome =>
    split at h
    · cases h
    · obtain ⟨inner, -, heq⟩ := Option.bind_eq_some_iff.1 h
      cases heq
      exact keys_replace hsome
  next hsome =>
    obtain ⟨inner, -, heq⟩ := Option.bind_eq_some_iff.1 h
    cases heq
    exact keys_replace hsome
  · cases h
  · cases h

theorem keys_insertAt {path : List String} {v : Value} (h : t.insertAt path v = some t') :
    ∃ key rest, path = key :: rest ∧ t'.keys = withKey t.keys key := by
  obtain ⟨last, hlast, h⟩ := Option.bind_eq_some_iff.1 h
  obtain ⟨front, rfl⟩ := List.getLast?_eq_some_iff.1 hlast
  rw [List.dropLast_concat, insert] at h
  cases front with
  | nil =>
      -- A key of one part is put into the table itself, where it must be new.
      refine ⟨last, [], rfl, ?_⟩
      rw [modifyAt] at h
      split at h
      · cases h
      next hnew =>
        cases h
        have hnone : t.find? last = none := by simpa using (not_or.1 hnew).2
        exact keys_add hnone
  | cons key front => exact ⟨key, front ++ [last], rfl, keys_modifyAt h⟩

/-- Finishing a table keeps its keys. -/
theorem map_fst_toEntries (t : Table) : t.toEntries.map Prod.fst = t.keys := by
  obtain ⟨implicit, dotted, entries⟩ := t
  simp only [toEntries, keys, Table.entries]
  induction entries with
  | nil => rfl
  | cons entry rest ih =>
      obtain ⟨key, item⟩ := entry
      rw [entriesToValues, List.map_cons, List.map_cons, ih]

end Table

/-! ## Keys of documents -/

namespace Builder

/-- The keys of the document, with that of the open table. -/
def keys (b : Builder) : List String :=
  match b.path with
  | [] => b.current.keys
  | key :: _ => withKey b.root.keys key

/-- Whether no header was read. -/
def atTop (b : Builder) : Bool :=
  b.path.isEmpty

variable {b b' : Builder} {root : Table}

theorem keys_close (h : b.close = some root) : root.keys = b.keys := by
  unfold close at h
  unfold keys
  split at h
  next hnone =>
    cases h
    rw [List.getLast?_eq_none_iff.1 hnone]
  next last hlast =>
    obtain ⟨front, hfront⟩ := List.getLast?_eq_some_iff.1 hlast
    rw [hfront, List.dropLast_concat] at h
    rw [hfront]
    cases front with
    | cons key front => exact Table.keys_modifyAt h
    | nil =>
        rw [Table.modifyAt] at h
        dsimp only [List.nil_append]
        split at h
        · split at h
          next hsome =>
            cases h
            exact Table.keys_replace hsome
          · cases h
        · split at h
          next hnone =>
            cases h
            exact Table.keys_add hnone
          · cases h

end Builder

/-- A place in a document where a key at the top level is mentioned. -/
structure Mention where
  key : String
  /-- The place is the header of the table with this key. -/
  isOwnHeader : Bool := false
  deriving Repr, DecidableEq

/-- The mention of a key at the top level in a statement. A key with a value is at the top level if
    no header was read. -/
def Statement.mention? (atTop : Bool) : Statement → Option Mention
  | .header path => path.head?.map fun key => { key, isOwnHeader := path.tail.isEmpty }
  | .arrayHeader path => path.head?.map fun key => { key }
  | .entry path _ => if atTop then path.head?.map fun key => { key } else none

/-- Whether a statement gives a key its value. -/
def Statement.isEntry : Statement → Bool
  | .entry _ _ => true
  | _ => false

/-- The mentions of keys at the top level in statements. -/
def mentionsFrom (atTop : Bool) : List Statement → List Mention
  | [] => []
  | statement :: rest =>
    (statement.mention? atTop).toList ++ mentionsFrom (atTop && statement.isEntry) rest

/-- The mentions of keys at the top level of a document. -/
def mentionsIn (statements : List Statement) : List Mention :=
  mentionsFrom true statements

/-- The keys after a mention of one. A key takes its place where it is first mentioned, and a table
    takes a new one with a header of its own. -/
def placeKey (keys : List String) (m : Mention) : List String :=
  withKey (if m.isOwnHeader then keys.filter (· ≠ m.key) else keys) m.key

/-- The keys of a document in order. -/
def keyOrder (mentions : List Mention) : List String :=
  mentions.foldl placeKey []

namespace Builder

variable {b b' : Builder} {path : List String}

/-- A header of a table inside another one only mentions the outer one. -/
theorem keys_openTable (h : b.openTable path = some b') :
    ∃ key rest, path = key :: rest ∧ b'.path = path ∧
      b'.keys = placeKey b.keys { key, isOwnHeader := rest.isEmpty } := by
  obtain ⟨closed, hclosed, h⟩ := Option.bind_eq_some_iff.1 h
  obtain ⟨last, hlast, h⟩ := Option.bind_eq_some_iff.1 h
  obtain ⟨entries, -, h⟩ := Option.bind_eq_some_iff.1 h
  obtain ⟨root, hroot, h⟩ := Option.bind_eq_some_iff.1 h
  cases h
  obtain ⟨front, rfl⟩ := List.getLast?_eq_some_iff.1 hlast
  rw [List.dropLast_concat] at hroot
  cases front with
  | nil =>
      refine ⟨last, [], rfl, rfl, ?_⟩
      cases hroot
      simp [keys, placeKey, Table.keys_remove, keys_close hclosed]
  | cons key front =>
      refine ⟨key, front ++ [last], rfl, rfl, ?_⟩
      simp [keys, placeKey, Table.keys_modifyAt hroot, keys_close hclosed,
        withKey_of_mem (mem_withKey _ _)]

theorem keys_openArrayTable (h : b.openArrayTable path = some b') :
    ∃ key rest, path = key :: rest ∧ b'.path = path ∧ b'.keys = placeKey b.keys { key } := by
  obtain ⟨closed, hclosed, h⟩ := Option.bind_eq_some_iff.1 h
  obtain ⟨last, hlast, h⟩ := Option.bind_eq_some_iff.1 h
  obtain ⟨root, hroot, h⟩ := Option.bind_eq_some_iff.1 h
  cases h
  obtain ⟨front, rfl⟩ := List.getLast?_eq_some_iff.1 hlast
  rw [List.dropLast_concat] at hroot
  have hkeys : ∃ key rest, front ++ [last] = key :: rest ∧
      root.keys = withKey closed.keys key := by
    cases front with
    | cons key front => exact ⟨key, front ++ [last], rfl, Table.keys_modifyAt hroot⟩
    | nil =>
        refine ⟨last, [], rfl, ?_⟩
        rw [Table.modifyAt] at hroot
        split at hroot
        next hnone =>
          cases hroot
          exact Table.keys_add hnone
        next hsome =>
          cases hroot
          rw [withKey_of_mem (Table.mem_keys_of_find? hsome)]
        · cases hroot
  obtain ⟨key, rest, hpath, hroot⟩ := hkeys
  refine ⟨key, rest, hpath, rfl, ?_⟩
  simp [keys, hpath, placeKey, hroot, keys_close hclosed, withKey_of_mem (mem_withKey _ _)]

/-- What a statement does to the keys is what its mention does. -/
theorem keys_take {statement : Statement} (h : b.take statement = some b') :
    b'.keys = (statement.mention? b.atTop).toList.foldl placeKey b.keys ∧
      b'.atTop = (b.atTop && statement.isEntry) := by
  cases statement with
  | header path =>
      obtain ⟨key, rest, rfl, hpath, hkeys⟩ := keys_openTable h
      simp [Statement.mention?, Statement.isEntry, atTop, hpath, hkeys]
  | arrayHeader path =>
      obtain ⟨key, rest, rfl, hpath, hkeys⟩ := keys_openArrayTable h
      simp [Statement.mention?, Statement.isEntry, atTop, hpath, hkeys]
  | entry path v =>
      obtain ⟨current, hcurrent, rfl⟩ := Option.map_eq_some_iff.1 h
      obtain ⟨key, rest, rfl, hkeys⟩ := Table.keys_insertAt hcurrent
      cases hpath : b.path <;>
        simp [Statement.mention?, Statement.isEntry, atTop, keys, hpath, hkeys, placeKey]

theorem keys_foldlM_take {statements : List Statement}
    (h : statements.foldlM Builder.take b = some b') :
    b'.keys = (mentionsFrom b.atTop statements).foldl placeKey b.keys := by
  induction statements generalizing b with
  | nil =>
      cases h
      rfl
  | cons statement rest ih =>
      rw [List.foldlM_cons] at h
      obtain ⟨next, hnext, h⟩ := Option.bind_eq_some_iff.1 h
      obtain ⟨hkeys, htop⟩ := keys_take hnext
      rw [mentionsFrom, List.foldl_append, ih h, hkeys, htop]

end Builder

/-- **The order of keys.** The keys of a document are those that its lines mention, each in the
place that it takes there. -/
theorem keys_of_parse {text : String} {entries : List (String × Value)}
    (h : parse text = some entries) :
    ∃ statements, statementsOf text = some statements ∧
      entries.map Prod.fst = keyOrder (mentionsIn statements) := by
  rw [parse_eq] at h
  obtain ⟨statements, hstatements, h⟩ := Option.bind_eq_some_iff.1 h
  obtain ⟨b, hb, h⟩ := Option.bind_eq_some_iff.1 h
  obtain ⟨root, hroot, rfl⟩ := Option.map_eq_some_iff.1 h
  refine ⟨statements, hstatements, ?_⟩
  rw [Table.map_fst_toEntries, Builder.keys_close hroot, Builder.keys_foldlM_take hb]
  rfl

/-! ## The order -/

theorem nodup_withKey {keys : List String} (h : keys.Nodup) (key : String) :
    (withKey keys key).Nodup := by
  unfold withKey
  split
  · exact h
  next hnot =>
    rw [List.nodup_append]
    exact ⟨h, by simp, fun a ha b hb => by
      rw [List.mem_singleton.1 hb]
      rintro rfl
      exact hnot ha⟩

theorem nodup_foldl_placeKey {keys : List String} (h : keys.Nodup) (mentions : List Mention) :
    (mentions.foldl placeKey keys).Nodup := by
  induction mentions generalizing keys with
  | nil => exact h
  | cons m rest ih =>
      refine ih (nodup_withKey ?_ m.key)
      split
      · exact h.filter _
      · exact h

/-- No key stands in a document twice. -/
theorem nodup_keys_of_parse {text : String} {entries : List (String × Value)}
    (h : parse text = some entries) : (entries.map Prod.fst).Nodup := by
  obtain ⟨statements, -, hkeys⟩ := keys_of_parse h
  rw [hkeys]
  exact nodup_foldl_placeKey List.nodup_nil _

/-- No table is mentioned before a header of its own. -/
def OwnHeadersFirst (mentions : List Mention) : Prop :=
  mentions.Pairwise fun m m' => m'.isOwnHeader = true → m.key ≠ m'.key

theorem eraseDups_concat (keys : List String) (key : String) :
    (keys ++ [key]).eraseDups = withKey keys.eraseDups key := by
  rw [List.eraseDups_append]
  by_cases h : key ∈ keys
  · rw [withKey_of_mem (List.mem_eraseDups.2 h)]
    simp [List.removeAll, h]
  · rw [withKey_of_not_mem fun hmem => h (List.mem_eraseDups.1 hmem)]
    simp [List.removeAll, h, List.eraseDups_cons]

theorem OwnHeadersFirst.placeKey_eq {before rest : List Mention} {m : Mention}
    (h : OwnHeadersFirst (before ++ m :: rest)) :
    placeKey (before.map Mention.key).eraseDups m =
      ((before ++ [m]).map Mention.key).eraseDups := by
  rw [List.map_append, List.map_singleton, eraseDups_concat, placeKey]
  split
  next hown =>
    have hnew : ∀ key ∈ (before.map Mention.key).eraseDups, key ≠ m.key := by
      intro key hkey
      obtain ⟨m', hm', rfl⟩ := List.mem_map.1 (List.mem_eraseDups.1 hkey)
      exact (List.pairwise_append.1 h).2.2 m' hm' m List.mem_cons_self hown
    rw [List.filter_eq_self.2 fun key hkey => by simpa using hnew key hkey]
  · rfl

/-- If no table is mentioned before its header, the keys stand in the order of their first
    mentions. -/
theorem keyOrder_eq_eraseDups {mentions : List Mention} (h : OwnHeadersFirst mentions) :
    keyOrder mentions = (mentions.map Mention.key).eraseDups := by
  -- The mentions that were counted already come before the others.
  suffices hall : ∀ before rest, OwnHeadersFirst (before ++ rest) →
      rest.foldl placeKey (before.map Mention.key).eraseDups =
        ((before ++ rest).map Mention.key).eraseDups from hall [] mentions h
  intro before rest
  induction rest generalizing before with
  | nil => intro; rw [List.append_nil, List.foldl_nil]
  | cons m rest ih =>
      intro hfirst
      rw [List.foldl_cons, hfirst.placeKey_eq]
      have hsplit : before ++ m :: rest = before ++ [m] ++ rest := by simp
      rw [hsplit] at hfirst ⊢
      exact ih (before ++ [m]) hfirst

end HtmlToLatex.Toml
