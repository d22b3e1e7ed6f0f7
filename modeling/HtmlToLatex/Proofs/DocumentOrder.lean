import HtmlToLatex.Proofs.Image
import HtmlToLatex.Proofs.Occurrences

set_option autoImplicit false

/-! # Effects in document order

Runs of text are set later than they are met, the rows of a table are gathered before any is set,
and each part of the walk visits other nodes. For the world none of this counts: a conversion
requests images, draws ids and changes files like a plain loop over the images that are reached, in
document order, each by its own step on what the one before has left. Only the log has more in it,
since anchors write there as well. -/

namespace HtmlToLatex

open Conversion

/-- Two worlds that differ in their logs only. -/
structure SameEffects (w w' : World) : Prop where
  files : w.files = w'.files
  fetches : w.fetches = w'.fetches
  idsDrawn : w.idsDrawn = w'.idsDrawn

theorem SameEffects.refl (w : World) : SameEffects w w := ⟨rfl, rfl, rfl⟩

theorem SameEffects.symm {w w' : World} (h : SameEffects w w') : SameEffects w' w :=
  ⟨h.files.symm, h.fetches.symm, h.idsDrawn.symm⟩

theorem SameEffects.trans {w w' w'' : World} (h : SameEffects w w') (h' : SameEffects w' w'') :
    SameEffects w w'' :=
  ⟨h.files.trans h'.files, h.fetches.trans h'.fetches, h.idsDrawn.trans h'.idsDrawn⟩

/-! ## Single images -/

section Images

variable (setting : Setting) {w w' : World}

theorem SameEffects.noteFailure (h : SameEffects w w') (source : String) (e : FetchError) :
    SameEffects (w.noteFailure setting source e) (w'.noteFailure setting source e) := by
  unfold World.noteFailure
  split
  · exact ⟨h.files, h.fetches, h.idsDrawn⟩
  · exact h

/-- The log is not looked at when an image is asked for. -/
theorem SameEffects.retrieve (h : SameEffects w w') (source : String) (destination : Path) :
    (w.retrieve setting source destination).1 = (w'.retrieve setting source destination).1 ∧
      SameEffects (w.retrieve setting source destination).2
        (w'.retrieve setting source destination).2 := by
  unfold World.retrieve
  cases Url.parse source with
  | error e => exact ⟨rfl, h⟩
  | ok url =>
      rw [h.files]
      rcases w'.files.makeDirectories (imageDirectory setting.options) with ⟨files, made⟩
      cases made with
      | error e => exact ⟨rfl, rfl, h.fetches, h.idsDrawn⟩
      | ok u =>
          dsimp only [World.request]
          rw [h.fetches]
          exact ⟨rfl, rfl, rfl, h.idsDrawn⟩

theorem SameEffects.provide (h : SameEffects w w') (source : String) (destination : Path) :
    SameEffects (w.provide setting source destination) (w'.provide setting source destination) := by
  unfold World.provide
  rw [h.files]
  split
  · exact h
  have hretrieved := h.retrieve setting source destination
  rcases hleft : w.retrieve setting source destination with ⟨outcome, after⟩
  rcases hright : w'.retrieve setting source destination with ⟨outcome', after'⟩
  rw [hleft, hright] at hretrieved
  obtain ⟨rfl, hafter⟩ : outcome = outcome' ∧ SameEffects after after' := hretrieved
  cases outcome with
  | ok u => exact hafter
  | error e => exact hafter.noteFailure setting source e

/-- The step of an image does not look at the log. -/
theorem SameEffects.convertSource (h : SameEffects w w') (source : String) :
    SameEffects ((convertSource setting source).run w).2
      ((convertSource setting source).run w').2 := by
  have hname : nextName setting source w = nextName setting source w' := by
    rw [nextName, nextName, h.idsDrawn]
  have hdrawn : SameEffects (w.drawFor setting.options.autogenImageNames source)
      (w'.drawFor setting.options.autogenImageNames source) :=
    ⟨h.files, h.fetches, by rw [World.drawFor, World.drawFor, h.idsDrawn]⟩
  rw [run_convertSource, run_convertSource, hname]
  exact hdrawn.provide setting source _

/-! ## The walk -/

/-- What a walk comes across acts like the images in it. -/
theorem SameEffects.foldl_step (h : SameEffects w w') (events : List Event) :
    SameEffects (events.foldl (Event.step setting) w)
      ((events.filterMap Event.source?).foldl
        (fun w source => ((HtmlToLatex.convertSource setting source).run w).2) w') := by
  induction events generalizing w w' with
  | nil => exact h
  | cons event events ih =>
      cases event with
      | image source => exact ih (h.convertSource setting source)
      | bareAnchor | block name => exact ih ⟨h.files, h.fetches, h.idsDrawn⟩

/-- The step of an image element with a source is that of its source. -/
theorem run_convertImage_of_source? {node : Node} {source : String}
    (h : node.source? = some source) (w : World) :
    ((convertImage setting node.attributes).run w).2 =
      ((HtmlToLatex.convertSource setting source).run w).2 := by
  unfold Node.source? at h
  split at h
  · rw [convertImage, h]
    rfl
  · cases h

theorem foldl_convertImage (images : List Occurrence)
    (h : ∀ image ∈ images, image.node.source?.isSome) (w : World) :
    images.foldl (fun w image => ((convertImage setting image.node.attributes).run w).2) w =
      (images.filterMap (·.node.source?)).foldl
        (fun w source => ((HtmlToLatex.convertSource setting source).run w).2) w := by
  rw [List.foldl_filterMap]
  refine List.foldl_ext _ _ _ fun v image himage => ?_
  obtain ⟨source, hsource⟩ := Option.isSome_iff_exists.1 (h image himage)
  rw [run_convertImage_of_source? setting hsource, hsource]

end Images

/-- **Effects happen in document order.** The requests, the ids and the files after a conversion are
those of taking the images with a source that the walk reaches one after the other, each by its own
step on the world that the one before has left. The images are picked from the list of all nodes in
document order by what is around them, so none is left out and none is taken twice. -/
theorem convert_in_document_order (setting : Setting) (nodes : List Node) (w : World) :
    SameEffects ((convert setting nodes).run w).2
      ((reachedImages nodes).foldl
        (fun w image => ((convertImage setting image.node.attributes).run w).2) w) := by
  have hsourced : ∀ image ∈ reachedImages nodes, image.node.source?.isSome := fun image himage => by
    have hshown := (List.mem_filter.1 himage).2
    exact (of_decide_eq_true hshown).1
  rw [convert_runs setting nodes w, foldl_convertImage setting _ hsourced, ← reachedSources_eq]
  exact (SameEffects.refl w).foldl_step setting _

end HtmlToLatex
