import HtmlToLatex.Proofs.Cells
import HtmlToLatex.Proofs.Tables

set_option autoImplicit false

/-! # Reading tables back

What a table shows can be read off its text: `decodeTabular` counts the columns that are declared
and takes the rows apart. `convertTable_decodes` says that it finds the cells that were set,
whatever is in them, but for one thing: a row without cells is written like a row with one empty
cell. The columns are those of the first row alone, so that the table is wide enough for rows that
are not longer: `convertTable_declares`. -/

namespace HtmlToLatex

open Conversion

/-! ## Reading -/

/-- What a table opens with, before its columns are declared. -/
def tableOpening : List Char :=
  beginMark "tabular".toList ++ ['{']

/-- What stands between the columns and the first row. -/
def tableTop : List Char :=
  '}' :: "\n\t\\hline\n".toList

/-- Reads the columns of a table. All that comes after the line below them is left. -/
def readColumns (s : List Char) : List Char × List Char :=
  let opened := s.drop tableOpening.length
  let columns := upToBrace opened
  (columns, opened.drop (columns.length + tableTop.length))

/-- How many columns a table declares. -/
def declaredColumns (t : String) : Nat :=
  (readColumns t.toList).1.count 'c'

/-- The cells of a row. -/
def readRow (row : List Char) : List String :=
  (splitCells 0 false row).map fun cell => trim (String.ofList cell)

/-- How many columns a table declares, and the cells of its rows. What comes after the last row is
    its end. -/
def decodeTabular (t : String) : Nat × List (List String) :=
  (declaredColumns t, (splitRows (readColumns t.toList).2).dropLast.map readRow)

/-! ## Columns -/

/-- A row as it is written, up to its end. -/
def writtenRow (row : String) : List Char :=
  '\t' :: row.toList

theorem toList_rows (rows : List String) :
    (String.join (rows.map fun row => "\t" ++ row ++ Latex.rowEnd)).toList =
      rows.flatMap fun row => writtenRow row ++ rowTerminator := by
  induction rows with
  | nil => rfl
  | cons row rows ih =>
      rw [List.map_cons, String.join_cons, String.toList_append, ih, List.flatMap_cons]
      simp [writtenRow, rowTerminator]

theorem toList_tabular (columns : Nat) (rows : List String) :
    (Latex.tabular columns rows).toList =
      tableOpening ++ ((Latex.columnSpec columns).toList ++ (tableTop ++
        ((rows.flatMap fun row => writtenRow row ++ rowTerminator) ++
          '\t' :: endMark "tabular".toList))) := by
  rw [Latex.tabular]
  have htab : "\t".toList = ['\t'] := rfl
  simp only [String.toList_append, toList_begin, toList_end, toList_group, toList_rows, htab,
    tableOpening, tableTop, inBraces, List.append_assoc, List.cons_append, List.nil_append]

theorem toList_columnSpec (columns : Nat) :
    (Latex.columnSpec columns).toList = '|' :: (List.replicate columns ['c', '|']).flatten := by
  have hjoin : (String.join (List.replicate columns "c|")).toList =
      (List.replicate columns ['c', '|']).flatten := by
    induction columns with
    | zero => rfl
    | succ n ih =>
        rw [List.replicate_succ, String.join_cons, String.toList_append, ih]
        rfl
  rw [Latex.columnSpec, String.toList_append, hjoin]
  rfl

/-- The columns that a table is written with are read. -/
theorem readColumns_tabular (columns : Nat) (rows : List String) :
    readColumns (Latex.tabular columns rows).toList =
      ((Latex.columnSpec columns).toList,
        (rows.flatMap fun row => writtenRow row ++ rowTerminator) ++
          '\t' :: endMark "tabular".toList) := by
  have hbrace : '}' ∉ (Latex.columnSpec columns).toList := by
    rw [toList_columnSpec]
    simp
  have hcolumns := upToBrace_append hbrace
  rw [toList_tabular, readColumns, List.drop_left]
  generalize (Latex.columnSpec columns).toList = spec at hcolumns ⊢
  have hspec (rest : List Char) : upToBrace (spec ++ (tableTop ++ rest)) = spec := by
    have htop : tableTop = '}' :: tableTop.tail := rfl
    rw [htop]
    simpa using hcolumns (tableTop.tail ++ rest)
  simp only [hspec, List.drop_left, ← List.drop_drop]

theorem declaredColumns_tabular (columns : Nat) (rows : List String) :
    declaredColumns (Latex.tabular columns rows) = columns := by
  have hcount : ['c', '|'].count 'c' = 1 := rfl
  rw [declaredColumns, readColumns_tabular, toList_columnSpec, List.count_cons_of_ne (by decide),
    List.count_flatten, List.map_replicate, hcount, List.sum_replicate_nat, Nat.mul_one]

/-! ## Rows -/

/-- How a row looks on paper: without cells it is like one with an empty cell. -/
def shownRow (row : List String) : List String :=
  if row = [] then [""] else row

theorem shownRow_of_ne_nil {row : List String} (h : row ≠ []) : shownRow row = row :=
  if_neg h

theorem cellText_of_blank {blank : List Char} (hblank : ∀ c ∈ blank, isBlank c = true) :
    CellText false blank := by
  refine .of_inert (fun c hc => isInert_of_isBlank (hblank c hc)) fun hmem => ?_
  cases hblank '&' hmem

theorem trim_between_blanks {front back : List Char} (hfront : ∀ c ∈ front, isBlank c = true)
    (hback : ∀ c ∈ back, isBlank c = true) (t : String) :
    trim (String.ofList (front ++ t.toList ++ back)) = trim t := by
  have hfront' : IsBlankText (String.ofList front) := by simpa [IsBlankText] using hfront
  have hback' : IsBlankText (String.ofList back) := by simpa [IsBlankText] using hback
  rw [String.ofList_append, String.ofList_append, trim_append_blank hback',
    trim_blank_append hfront', String.ofList_toList]

/-- The cells of a row with blanks before it are found where they were joined. -/
theorem map_trim_splitCells {blank : List Char} (hblank : ∀ c ∈ blank, isBlank c = true)
    {cells : List String} (hcells : ∀ t ∈ cells, CellText false t.toList ∧ trim t = t) :
    (splitCells 0 false (blank ++ (" & ".intercalate cells).toList)).map
      (fun cell => trim (String.ofList cell)) = shownRow cells := by
  have hspace : ∀ c ∈ [' '], isBlank c = true := List.all_eq_true.1 rfl
  have hnil : splitCells 0 false [] = [[]] := rfl
  induction cells generalizing blank with
  | nil =>
      have hsplit := (cellText_of_blank hblank).splitCells_append 0 nofun []
      have htrim : trim (String.ofList blank) = "" :=
        trim_eq_empty_of_blank (by simpa [IsBlankText] using hblank)
      rw [String.intercalate_nil, String.toList_empty, hsplit, hnil]
      simp [shownRow, htrim]
  | cons t cells ih =>
      rw [List.forall_mem_cons] at hcells
      obtain ⟨⟨ht, htrim⟩, hrest⟩ := hcells
      have hfront := (cellText_of_blank hblank).append ht
      cases cells with
      | nil =>
          have hsplit := hfront.splitCells_append 0 nofun []
          have hcell := trim_between_blanks hblank (List.forall_mem_nil _) t
          rw [List.append_nil] at hsplit hcell
          rw [String.intercalate_singleton, hsplit, shownRow_of_ne_nil (by simp), hnil,
            List.modifyHead_cons, List.map_cons, List.append_nil, hcell, htrim, List.map_nil]
      | cons u us =>
          -- The ampersand has a space before it and one behind it, which go with the cells.
          have hjoined : blank ++ (" & ".intercalate (t :: u :: us)).toList =
              (blank ++ t.toList ++ [' ']) ++
                '&' :: ([' '] ++ (" & ".intercalate (u :: us)).toList) := by
            simp [String.intercalate_cons_cons]
          have hsplit := (hfront.append (cellText_of_blank hspace)).splitCells_append 0
            nofun ('&' :: ([' '] ++ (" & ".intercalate (u :: us)).toList))
          have hseparator (rest : List Char) :
              splitCells 0 false ('&' :: rest) = [] :: splitCells 0 false rest := rfl
          have hcell := trim_between_blanks hblank hspace t
          have hcells := ih hspace hrest
          rw [hjoined, hsplit, hseparator, List.modifyHead_cons, List.map_cons, List.append_nil,
            hcell, htrim, hcells, shownRow_of_ne_nil (by simp), shownRow_of_ne_nil (by simp)]

theorem readRow_writtenRow {cells : List String}
    (hcells : ∀ t ∈ cells, CellText false t.toList ∧ trim t = t) :
    readRow (writtenRow (" & ".intercalate cells)) = shownRow cells :=
  have htab : ∀ c ∈ ['\t'], isBlank c = true := List.all_eq_true.1 rfl
  map_trim_splitCells htab hcells

/-- Rows are found where they were written, with what comes after the last one. -/
theorem splitRows_rows {rows : List (List Char)} (hrows : ∀ row ∈ rows, CellText true row)
    {last : List Char} (hlast : CellText true last) :
    splitRows ((rows.flatMap fun row => row ++ rowTerminator) ++ last) = rows ++ [last] := by
  induction rows with
  | nil =>
      have hnil : ¬['\\', '\\'] <+: [] := by decide
      simpa [splitRows_nil] using hlast.splitRows_append hnil
  | cons row rows ih =>
      rw [List.forall_mem_cons] at hrows
      have hterminator (rest : List Char) : ¬['\\', '\\'] <+: rowTerminator ++ rest := by
        intro hstart
        cases (List.cons_prefix_cons.1 hstart).1
      rw [List.flatMap_cons, List.append_assoc, List.append_assoc,
        hrows.1.splitRows_append (hterminator _), splitRows_terminator, ih hrows.2]
      simp

/-- In a row that is written, no end of a row can be found. -/
theorem cellText_writtenRow {cells : List String} (hcells : ∀ t ∈ cells, CellText false t.toList) :
    CellText true (writtenRow (" & ".intercalate cells)) := by
  have hjoined : CellText true (" & ".intercalate cells).toList := by
    induction cells with
    | nil => exact .nil
    | cons t cells ih =>
        rw [List.forall_mem_cons] at hcells
        cases cells with
        | nil => simpa using hcells.1.letIn
        | cons u us =>
            have hseparator : CellText true " & ".toList :=
              .of_inert (List.all_eq_true.1 rfl) fun _ => rfl
            rw [String.intercalate_cons_cons, String.toList_append, String.toList_append]
            exact (hcells.1.letIn.append hseparator).append (ih hcells.2)
  exact .inert rfl (fun _ => rfl) hjoined

/-- The cells that a table is written with are read. -/
theorem decodeTabular_tabular (columns : Nat) {rows : List (List String)}
    (hrows : ∀ row ∈ rows, ∀ t ∈ row, CellText false t.toList ∧ trim t = t) :
    decodeTabular (Latex.tabular columns (rows.map (" & ".intercalate ·))) =
      (columns, rows.map shownRow) := by
  have hword : CellText true (inBraces "tabular".toList) :=
    (CellText.of_inert (List.all_eq_true.1 rfl) fun _ => rfl).wrapped
  have hnd : ∀ c ∈ "nd".toList, isInert c = true := List.all_eq_true.1 rfl
  have hlast : CellText true ('\t' :: endMark "tabular".toList) :=
    .inert rfl (fun _ => rfl) (.command "nd".toList rfl hnd (fun _ => rfl) hword)
  have hwritten : ∀ row ∈ rows.map fun row => writtenRow (" & ".intercalate row),
      CellText true row := by
    intro row hrow
    obtain ⟨cells, hcells, rfl⟩ := List.mem_map.1 hrow
    exact cellText_writtenRow fun t ht => (hrows cells hcells t ht).1
  have hsplit := splitRows_rows hwritten hlast
  rw [List.flatMap_map] at hsplit
  rw [decodeTabular, declaredColumns_tabular, readColumns_tabular, List.flatMap_map, hsplit,
    List.dropLast_concat, List.map_map]
  refine congrArg _ (List.map_congr_left fun cells hcells => ?_)
  exact readRow_writtenRow (hrows cells hcells)

/-! ## Tables of a walk -/

theorem tableOf?_eq_some {rows : List (List String)} {t : String} (h : tableOf? rows = some t) :
    ∃ first ∈ rows.head?, first ≠ [] ∧
      t = Latex.tabular first.length (rows.map (" & ".intercalate ·)) := by
  unfold tableOf? at h
  split at h
  · cases h
  · cases h
  next first rest hfirst =>
    cases h
    exact ⟨first, rfl, hfirst, rfl⟩

/-- **A table is read back as it was set.** What is read off its text are the number of cells in its
first row, which is that of its columns, and the trimmed texts of all cells, row by row; only a row
without cells is taken for one with an empty cell. Nothing that is set in a cell makes for another
cell or another row. -/
theorem convertTable_decodes {setting : Setting} {table : List Node}
    (h : HasPlainSources setting table) {w : World} {t : String}
    (ht : ((convertTable setting table).run w).1 = some t) :
    let rows := (((tableRows table).mapM (convertCells setting)).run w).1
    ∃ first ∈ rows.head?, decodeTabular t = (first.length, rows.map shownRow) := by
  intro rows
  have hcells : ∀ row ∈ rows, ∀ t ∈ row, CellText false t.toList ∧ trim t = t := by
    refine Yields.mapM_forall (tableRows table) (fun row hrow => ?_) w
    refine convertCells_cellText fun n hn => ?_
    exact forall_nodesIn_tableRows (fun n hn => h.followsInLine hn) hrow n hn
  obtain ⟨first, hfirst, -, rfl⟩ := tableOf?_eq_some ht
  exact ⟨first, hfirst, decodeTabular_tabular _ hcells⟩

/-- A table with ampersands in a text, in a link and in the source of an image, and with a row
without cells. -/
theorem convertTable_decodes_ampersands :
    let setting : Setting := { options := { imageWidth := some "5cm" }, ids := fun _ => "id" }
    let link : Node := .element "a" [⟨"href", "u?a&b"⟩] [.text "c & d"]
    let image : Node := .element "img" [⟨"src", "x&y.png"⟩] []
    let table : List Node :=
      [.element "tr" [] [.element "th" [] [link], .element "td" [] [.text " $x$ ", image]],
        .element "tbody" [] [.element "tr" [] []]]
    let rows := (((tableRows table).mapM (convertCells setting)).run {}).1
    HasPlainSources setting table ∧ ∃ t, ((convertTable setting table).run {}).1 = some t ∧
      ∃ first ∈ rows.head?, decodeTabular t = (first.length, rows.map shownRow) := by
  intro setting link image table rows
  have hid : "id".toList.all isInert = true := rfl
  have hplain : HasPlainSources setting table :=
    ⟨by decide, by decide, by decide, by decide, fun _ => hid⟩
  obtain ⟨t, ht⟩ := Option.isSome_iff_exists.1
    ((convertTable_shows setting table {}).1.2 ⟨_, rfl, List.cons_ne_nil _ _⟩)
  exact ⟨hplain, t, ht, convertTable_decodes hplain ht⟩

/-- A row without cells cannot be told from one with an empty cell, however the text is read. -/
theorem convertTable_not_injective :
    let setting : Setting := { ids := fun _ => "id" }
    ¬∃ decode : String → Nat × List (List String), ∀ table w t, HasPlainSources setting table →
      ((convertTable setting table).run w).1 = some t →
        let rows := (((tableRows table).mapM (convertCells setting)).run w).1
        ∃ first ∈ rows.head?, decode t = (first.length, rows) := by
  rintro setting ⟨decode, hdecode⟩
  let row (cells : List Node) : Node := .element "tr" [] cells
  let cell (children : List Node) : Node := .element "td" [] children
  let narrow : List Node := [row [cell [.text "a"]], row []]
  let wide : List Node := [row [cell [.text "a"]], row [cell []]]
  have hid : "id".toList.all isInert = true := rfl
  have hnarrow : HasPlainSources setting narrow :=
    ⟨by decide, by decide, by decide, by decide, fun _ => hid⟩
  have hwide : HasPlainSources setting wide :=
    ⟨by decide, by decide, by decide, by decide, fun _ => hid⟩
  have hsame :
      ((convertTable setting wide).run {}).1 = ((convertTable setting narrow).run {}).1 := by
    decide +kernel
  have hdiffer : (((tableRows wide).mapM (convertCells setting)).run {}).1 ≠
      (((tableRows narrow).mapM (convertCells setting)).run {}).1 := by
    decide +kernel
  obtain ⟨t, ht⟩ := Option.isSome_iff_exists.1
    ((convertTable_shows setting narrow {}).1.2 ⟨_, rfl, List.cons_ne_nil _ _⟩)
  obtain ⟨_, -, hfromNarrow⟩ := hdecode narrow {} t hnarrow ht
  obtain ⟨_, -, hfromWide⟩ := hdecode wide {} t hwide (hsame.trans ht)
  exact hdiffer (congrArg Prod.snd (hfromWide.symm.trans hfromNarrow))

/-- **A table is as wide as its first row.** All its rows are set, each with all its cells. The
columns that are declared are the cells of the first row, of which there is one at least; they
suffice exactly if no row is longer than the first. -/
theorem convertTable_declares (setting : Setting) (table : List Node) (w : World) {t : String}
    (ht : ((convertTable setting table).run w).1 = some t) :
    ∃ first ∈ (tableRows table).head?, rowCells first ≠ [] ∧
      (∃ lines : List (List String),
        List.Forall₂ (fun row line => line.length = (rowCells row).length) (tableRows table) lines ∧
          t = Latex.tabular (rowCells first).length (lines.map (" & ".intercalate ·))) ∧
      declaredColumns t = (rowCells first).length ∧
      ((∀ row ∈ tableRows table, (rowCells row).length ≤ declaredColumns t) ↔
        ∀ row ∈ (tableRows table).tail, (rowCells row).length ≤ (rowCells first).length) := by
  have hlines : Yields ((tableRows table).mapM (convertCells setting)) fun lines =>
      List.Forall₂ (fun row line => line.length = (rowCells row).length) (tableRows table) lines :=
    Yields.mapM _ fun row _ => convertCells_yields_length setting row
  have hrows := hlines w
  have htable : tableOf? (((tableRows table).mapM (convertCells setting)).run w).1 = some t := ht
  generalize (((tableRows table).mapM (convertCells setting)).run w).1 = lines at hrows htable
  generalize tableRows table = rows at hrows ⊢
  obtain ⟨line, hline, hfilled, htext⟩ := tableOf?_eq_some htable
  cases hrows with
  | nil => cases hline
  | @cons first _ rest lines hfirst hrest =>
      cases hline
      have hdeclared : declaredColumns t = (rowCells first).length := by
        rw [htext, declaredColumns_tabular, hfirst]
      rw [hfirst] at htext
      have hcells : rowCells first ≠ [] := by
        simpa [← List.length_eq_zero_iff, hfirst] using hfilled
      exact ⟨first, rfl, hcells, ⟨_, .cons hfirst hrest, htext⟩, hdeclared, by simp [hdeclared]⟩

/-- A table with a row of two cells and, in a section, a row of one. -/
theorem convertTable_declares_two :
    let setting : Setting := { ids := fun _ => "id" }
    let cell : Node := .element "td" [] [.text "a"]
    let table : List Node :=
      [.element "tr" [] [cell, cell], .element "tbody" [] [.element "tr" [] [cell]]]
    ∃ t, ((convertTable setting table).run {}).1 = some t ∧
      ∃ first ∈ (tableRows table).head?, rowCells first ≠ [] ∧
        (∃ lines : List (List String),
          List.Forall₂ (fun row line => line.length = (rowCells row).length) (tableRows table)
            lines ∧ t = Latex.tabular (rowCells first).length (lines.map (" & ".intercalate ·))) ∧
        declaredColumns t = (rowCells first).length ∧
        ((∀ row ∈ tableRows table, (rowCells row).length ≤ declaredColumns t) ↔
          ∀ row ∈ (tableRows table).tail, (rowCells row).length ≤ (rowCells first).length) := by
  intro setting cell table
  obtain ⟨t, ht⟩ := Option.isSome_iff_exists.1
    ((convertTable_shows setting table {}).1.2 ⟨_, rfl, List.cons_ne_nil _ _⟩)
  exact ⟨t, ht, convertTable_declares setting table {} ht⟩

/-- A table that is too narrow for its second row. -/
theorem convertTable_too_narrow :
    let setting : Setting := { ids := fun _ => "id" }
    let cell : Node := .element "td" [] [.text "a"]
    let table : List Node := [.element "tr" [] [cell], .element "tr" [] [cell, cell]]
    ∃ t, ((convertTable setting table).run {}).1 = some t ∧
      ∃ row ∈ tableRows table, declaredColumns t < (rowCells row).length := by
  intro setting cell table
  have ht : ((convertTable setting table).run {}).1 = some (Latex.tabular 1 ["a", "a & a"]) := by
    decide +kernel
  have hrows : tableRows table = [[cell], [cell, cell]] := rfl
  refine ⟨_, ht, [cell, cell], by simp [hrows], ?_⟩
  rw [declaredColumns_tabular]
  decide

end HtmlToLatex
