import HtmlToLatex.Proofs.Attempts
import HtmlToLatex.Proofs.Retrievals

set_option autoImplicit false

/-! # Rejected requests

A request to convert a file is rejected if it leaves the output without a name. If there is no name
to be had, that is noticed before anything is done. But an empty name is noticed only when the
output is to be written. By then the source is converted, so all that its images do to the files has
been done: `convertFile_rejects`. -/

namespace HtmlToLatex

open Conversion FileSystem

/-! ## Runs without retrievals -/

section Retrievals

variable {setting : Setting}

theorem Event.step_of_no_retrieval {event : Event} {w : World}
    (h : event.retrieval? setting w = none) : (event.step setting w).files = w.files := by
  cases event with
  | bareAnchor | block name => rfl
  | image source =>
      cases step_provision setting source w with
      | idle _ _ hfiles => exact hfiles
      | noDirectory _ _ _ _ hretrieval => cases h.symm.trans hretrieval
      | asked _ _ _ _ _ _ _ hretrieval => cases h.symm.trans hretrieval

/-- Events without retrievals leave the files alone. -/
theorem files_foldl_of_no_retrievals {events : List Event} {w : World}
    (h : retrievalsOf setting events w = []) :
    (events.foldl (Event.step setting) w).files = w.files := by
  induction events generalizing w with
  | nil => rfl
  | cons event events ih =>
      rw [retrievalsOf, List.append_eq_nil_iff, Option.toList_eq_nil_iff] at h
      rw [List.foldl_cons, ih h.2, Event.step_of_no_retrieval h.1]

end Retrievals

/-! ## Rejections -/

/-- The setting in which the source text of a file is converted. -/
def Setting.forFile (setting : Setting) (input : Path) (source : String) : Setting :=
  { setting with options := setting.options.withCompilationDir input.directory }.inferring source

/-- A request is rejected for an empty name, with a message and in a world: the source is read and
    converted, and nothing is written. -/
structure RejectsName (setting : Setting) (input : Path) (w : World) (name message : String)
    (after : World) : Prop where
  name_eq : name = ""
  message_eq : message = "output file name is empty"
  converted : ∃ source, w.files.readText input = .ok source ∧
    after = ((convert (setting.forFile input source) (Html.parseFragment source)).run w).2

theorem failureAt_ne_invalidInput (path : Path) (e : FileError) (message : String) :
    Attempt.failureAt path e ≠ .invalidInput message := nofun

/-- Exporting is rejected for an empty name, and then nothing is done. -/
theorem exportFile_rejects_iff (text name : String) (directory : Path) (w after : World)
    (message : String) :
    (exportFile text name directory).outcome w = (.error (.invalidInput message), after) ↔
      name = "" ∧ message = "output file name is empty" ∧ after = w := by
  rw [outcome_exportFile]
  split
  next hname =>
    simp only [hname, Prod.mk.injEq, Except.error.injEq, ConversionError.invalidInput.injEq,
      true_and]
    exact and_congr eq_comm eq_comm
  next hname =>
    refine ⟨fun h => ?_, fun h => absurd h.1 hname⟩
    split at h
    · exact absurd (Except.error.inj (Prod.mk.inj h).1) (failureAt_ne_invalidInput _ _ _)
    · split at h
      · exact absurd (Except.error.inj (Prod.mk.inj h).1) (failureAt_ne_invalidInput _ _ _)
      · cases (Prod.mk.inj h).1

theorem convertFileInto_rejects_iff (setting : Setting) (input directory : Path) (name : String)
    (w after : World) (message : String) :
    (convertFileInto setting input directory name).outcome w =
        (.error (.invalidInput message), after) ↔
      RejectsName setting input w name message after := by
  rw [outcome_convertFileInto]
  cases hread : w.files.readText input with
  | error e =>
      refine ⟨fun h => ?_, fun h => ?_⟩
      · exact absurd (Except.error.inj (Prod.mk.inj h).1) (failureAt_ne_invalidInput _ _ _)
      · obtain ⟨source, hsource, -⟩ := h.converted
        cases hread.symm.trans hsource
  | ok source =>
      refine (exportFile_rejects_iff _ _ _ _ _ _).trans ⟨?_, ?_⟩
      · rintro ⟨hname, hmessage, hafter⟩
        exact ⟨hname, hmessage, source, hread, hafter⟩
      · rintro ⟨hname, hmessage, source', hsource, hafter⟩
        cases hread.symm.trans hsource
        exact ⟨hname, hmessage, hafter⟩

/-- **What a rejected request has done.** A request is rejected without any effect if it gives no
name and the source has none. Otherwise it is rejected just if the given name is empty and the
source can be read. Then the source was converted: the requests are those of its retrievals, and the
files are as before if there are none. -/
theorem convertFile_rejects (setting : Setting) (input directory : Path) (w : World) :
    (∀ name message after,
      (convertFileInto setting input directory name).outcome w =
          (.error (.invalidInput message), after) ↔
        RejectsName setting input w name message after) ∧
    (∀ name? message after,
      (convertFile setting input name?).outcome w = (.error (.invalidInput message), after) ↔
        (name? = none ∧ input.fileName? = none ∧ message = input.text ++ " has no file name" ∧
          after = w) ∨
        ∃ name, name? = some name ∧ RejectsName setting input w name message after) ∧
    ∀ name message after, RejectsName setting input w name message after →
      ∃ source, w.files.readText input = .ok source ∧
        let tried := retrievals (setting.forFile input source) (Html.parseFragment source) w
        after.fetches = w.fetches ++ tried.filterMap Retrieval.call? ∧
          (tried = [] → after.files = w.files) := by
  refine ⟨fun name message after => convertFileInto_rejects_iff _ _ _ _ _ _ _,
    fun name? message after => ?_, fun name message after hrejects => ?_⟩
  · rw [outcome_convertFile]
    cases name? with
    | some name => simp [convertFileInto_rejects_iff]
    | none =>
        cases hname : input.fileName? with
        | none => simp [noFileName, eq_comm]
        | some name =>
            -- The name of a file is not empty.
            have hne : name ≠ "" := (Path.fileName?_spec hname).1.ne_empty
            simp only [Option.none_or, convertFileInto_rejects_iff]
            simpa using fun h : RejectsName setting input w name message after => hne h.name_eq
  · obtain ⟨source, hsource, rfl⟩ := hrejects.converted
    rw [convert_runs _ _ w]
    exact ⟨source, hsource, fetches_foldl _ w, files_foldl_of_no_retrievals⟩

/-- The output is to have an empty name. The request is rejected, but the image is retrieved. -/
theorem convertFile_rejects_late :
    let source := "<img src=\"a:/photo.png\">"
    let w : World := { files := { items :=
      [(["in"], .directory), (["in", "page.html"], .file source.toUTF8)] } }
    let setting : Setting :=
      { options := { autogenImageNames := false }
        fetcher := .storing "new"
        ids := fun _ => "id" }
    let rejected (request : Attempt Path) : Prop :=
      (request.outcome w).1 = .error (.invalidInput "output file name is empty") ∧
        (request.outcome w).2.fetches.map (·.destination) = [⟨"in/images/photo.png"⟩] ∧
        w.files.existsAt ⟨"in/images"⟩ = false ∧
        (request.outcome w).2.files.readText ⟨"in/images/photo.png"⟩ = .ok "new"
    rejected (convertFile setting ⟨"in/page.html"⟩ (some "")) ∧
      rejected (convertFileInto setting ⟨"in/page.html"⟩ ⟨"o"⟩ "") := by
  intro source w setting rejected
  exact ⟨⟨by decide +kernel, by decide +kernel, by decide +kernel, by decide +kernel⟩,
    ⟨by decide +kernel, by decide +kernel, by decide +kernel, by decide +kernel⟩⟩

end HtmlToLatex
