import HtmlToLatex.Proofs.Walk

set_option autoImplicit false

/-! # Tables that are shown

A table is as wide as its first row, so it is shown if that row has a cell, and not otherwise. All
rows are set before this is looked at. So a table whose first row is empty goes through all that its
other rows do to the world, and their text is lost. -/

namespace HtmlToLatex

open Conversion

/-! ## Rows and cells -/

/-- The cells among the children of a row. -/
def rowCells (row : List Node) : List Node :=
  tagged [.td, .th] row

/-- Each cell of a row is set to one text. -/
theorem convertCells_yields_length (setting : Setting) (row : List Node) :
    Yields (convertCells setting row) fun texts => texts.length = (rowCells row).length := by
  have hcells : Yields (convertCells setting row)
      fun texts => List.Forall₂ (fun _ _ => True) (rowCells row) texts :=
    Yields.mapM _ fun cell _ _ => trivial
  exact fun w => (hcells w).length_eq.symm

/-- There is a table if its first row has a cell. -/
theorem tableOf?_isSome_iff (rows : List (List String)) :
    (tableOf? rows).isSome = true ↔ ∃ first ∈ rows.head?, first ≠ [] := by
  rcases rows with _ | ⟨_ | ⟨cell, cells⟩, rest⟩ <;> simp [tableOf?]

/-- The first of some rows is empty if the first of their texts is. -/
theorem head?_filled_iff {rows : List (List Node)} {texts : List (List String)}
    (h : List.Forall₂ (fun row line => line.length = (rowCells row).length) rows texts) :
    (∃ line ∈ texts.head?, line ≠ []) ↔ ∃ row ∈ rows.head?, rowCells row ≠ [] := by
  cases h with
  | nil => simp
  | cons hlength _ => simp [← List.length_eq_zero_iff, hlength]

/-- Without cells in a table there is nothing to come across. -/
theorem eventsIn_table_of_no_cells {table : List Node}
    (h : ∀ row ∈ tableRows table, rowCells row = []) : eventsIn .table table = [] := by
  rw [eventsIn_table, List.flatMap_eq_nil_iff]
  intro row hrow
  rw [eventsIn_row, ← rowCells, h row hrow, List.flatMap_nil]

/-! ## Whole tables -/

/-- **A table is shown if its first row has a cell.** Whether or not it is shown, the world is as
all its cells leave it, one after the other. If it has no cells at all, nothing is shown and nothing
is done. -/
theorem convertTable_shows (setting : Setting) (table : List Node) (w : World) :
    let run := (convertTable setting table).run w
    (run.1.isSome = true ↔ ∃ row ∈ (tableRows table).head?, rowCells row ≠ []) ∧
      run.2 = (eventsIn .table table).foldl (Event.step setting) w ∧
      ((∀ row ∈ tableRows table, rowCells row = []) → run = (none, w)) := by
  intro run
  have hshown : run.1.isSome = true ↔ ∃ row ∈ (tableRows table).head?, rowCells row ≠ [] := by
    have hrows : Yields ((tableRows table).mapM (convertCells setting)) fun texts =>
        List.Forall₂ (fun row line => line.length = (rowCells row).length) (tableRows table)
          texts :=
      Yields.mapM _ fun row _ => convertCells_yields_length setting row
    exact (tableOf?_isSome_iff _).trans (head?_filled_iff (hrows w))
  have hworld : run.2 = (eventsIn .table table).foldl (Event.step setting) w :=
    convertTable_runs setting table w
  refine ⟨hshown, hworld, fun hnone => Prod.ext ?_ ?_⟩
  · rw [← Option.not_isSome_iff_eq_none, hshown]
    rintro ⟨row, hrow, hcells⟩
    exact hcells (hnone row (List.mem_of_mem_head? hrow))
  · rw [hworld, eventsIn_table_of_no_cells hnone]
    rfl

/-- A table whose first row is empty is not shown, although its second row has a cell, whose image
    is retrieved. -/
theorem convertTable_drops_row :
    let setting : Setting :=
      { options := { autogenImageNames := false }
        fetcher := .offline
        ids := fun _ => "id" }
    let cell : Node := .element "td" [] [.text "x", .element "img" [⟨"src", "a:/x.png"⟩] []]
    let table : List Node := [.element "tr" [] [], .element "tr" [] [cell]]
    let run := (convertTable setting table).run {}
    (∃ row ∈ tableRows table, rowCells row ≠ []) ∧ run.1 = none ∧ run.2.fetches ≠ [] ∧
      run.2.files.existsAt ⟨"images"⟩ = true := by
  intro setting cell table run
  have hrows : tableRows table = [[], [cell]] := rfl
  exact ⟨⟨[cell], by simp [hrows], List.cons_ne_nil _ _⟩, by decide +kernel, by decide +kernel,
    by decide +kernel⟩

end HtmlToLatex
