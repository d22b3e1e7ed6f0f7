import HtmlToLatex.Proofs.Agreement
import HtmlToLatex.Proofs.Image

set_option autoImplicit false

/-! # The text does not depend on the retrievals

What a fetcher answers, which files are there, where the images go and whether failures are logged
has no influence on the text and on the ids that are drawn. Side by side, two such conversions go
on alike from any worlds with as many ids drawn: every image draws an id or not by its source
alone, and gets its name before it is looked for. -/

namespace HtmlToLatex

open Conversion

/-- Two worlds in which as many ids are drawn. -/
def SameIds (w w' : World) : Prop :=
  w.idsDrawn = w'.idsDrawn

/-- The ids that are drawn between two worlds, in order. -/
def drawnIds (setting : Setting) (before after : World) : List String :=
  (List.range' before.idsDrawn (after.idsDrawn - before.idsDrawn)).map setting.ids

/-- The sources of a fragment for which an id is drawn, in document order. -/
def sourcesWithId (autogen : Bool) (fragment : List Node) : List String :=
  (reachedSources fragment).filter (needsId autogen)

theorem keptByMessages_sameIds : KeptByMessages SameIds where
  anchor _ _ hids := ⟨rfl, hids⟩
  block _ _ _ hids := ⟨rfl, hids⟩

/-! ## Single images -/

/-- The step of an image counts the ids by its source alone. -/
theorem idsDrawn_convertSource (setting : Setting) (source : String) (w : World) :
    ((convertSource setting source).run w).2.idsDrawn =
      w.idsDrawn + if needsId setting.options.autogenImageNames source then 1 else 0 := by
  rw [run_convertSource]
  exact idsDrawn_provide source _ _

theorem convertSource_agree {s s' : Setting} (hids : s.ids = s'.ids)
    (hautogen : s.options.autogenImageNames = s'.options.autogenImageNames)
    (hlayout : imageLayout s.options = imageLayout s'.options) (source : String) :
    Agree SameIds (convertSource s source) (convertSource s' source) := by
  intro w w' hw
  constructor
  · have hname : nextName s source w = nextName s' source w' := by
      simp only [nextName, hids, hautogen, show w.idsDrawn = w'.idsDrawn from hw]
    rw [run_convertSource, run_convertSource, hname, hlayout]
  · unfold SameIds
    rw [idsDrawn_convertSource, idsDrawn_convertSource, hautogen,
      show w.idsDrawn = w'.idsDrawn from hw]

/-! ## Options -/

/-- Options that differ in the directory for images and in the logging of failures only. -/
def Options.elsewhere (options : Options) (dir : Option Path) (debug : Bool) : Options :=
  { options with compilationDir := dir, debug }

/-- Where the images go and whether failures are logged is none of the text passes' business. -/
theorem alikeAt_elsewhere (options : Options) (ids : Nat → String) (fetcher fetcher' : Fetcher)
    (dir dir' : Option Path) (debug debug' : Bool) (node : Node) :
    AlikeAt SameIds { options := options.elsewhere dir debug, fetcher, ids }
      { options := options.elsewhere dir' debug', fetcher := fetcher', ids } node where
  text content _ := by
    simp only [normalizeText, normalizeChars, breakReplacement, chooseDelimiters,
      Options.elsewhere]
    rfl
  lineBreak _ := by
    simp only [lineBreak, Options.elsewhere]
    rfl
  image _ attributes _ _ _ := by
    let s : Setting := { options := options.elsewhere dir debug, fetcher, ids }
    let s' : Setting := { options := options.elsewhere dir' debug', fetcher := fetcher', ids }
    have hsource : ∀ source, Agree SameIds (convertSource s source) (convertSource s' source) :=
      convertSource_agree rfl rfl rfl
    unfold convertImage
    split
    · exact (hsource _).map some
    · exact Agree.pure none
  paragraph _ w := by
    simp only [paragraphOf, Options.elsewhere]
    rfl

theorem wrapDocument_elsewhere (options : Options) (dir : Option Path) (debug : Bool) :
    wrapDocument (options.elsewhere dir debug) = wrapDocument options := by
  funext body
  simp only [wrapDocument, documentHead, Options.elsewhere]
  rfl

/-! ## Whole conversions -/

/-- A conversion draws one id for each image that needs one. -/
theorem idsDrawn_convert (setting : Setting) (nodes : List Node) (w : World) :
    ((convert setting nodes).run w).2.idsDrawn =
      w.idsDrawn + (sourcesWithId setting.options.autogenImageNames nodes).length := by
  rw [convert_runs setting nodes w, sourcesWithId, reachedSources]
  induction eventsIn .block nodes generalizing w with
  | nil => rfl
  | cons event events ih =>
      rw [List.foldl_cons, ih]
      cases event with
      | image source =>
          simp only [Event.step, idsDrawn_convertSource, Event.source?, List.filterMap_cons,
            List.filter_cons]
          split
          · rw [List.length_cons]
            omega
          · omega
      | bareAnchor | block name => rfl

/-- **Nothing that happens to the images shows in the text.** Two conversions of one fragment that
differ in the fetcher, the files at the start, the directory for the images and the logging of
failures give the same text and draw the same ids in the same order, one for each image of the
fragment that needs one. -/
theorem convert_noninterference (options : Options) (ids : Nat → String) (nodes : List Node)
    (fetcher fetcher' : Fetcher) (dir dir' : Option Path) (debug debug' : Bool)
    (w : World) (files files' : FileSystem) :
    let s : Setting := { options := options.elsewhere dir debug, fetcher, ids }
    let s' : Setting := { options := options.elsewhere dir' debug', fetcher := fetcher', ids }
    let before : World := { w with files }
    let before' : World := { w with files := files' }
    let run := (convert s nodes).run before
    let run' := (convert s' nodes).run before'
    run.1 = run'.1 ∧ drawnIds s before run.2 = drawnIds s' before' run'.2 ∧
      run.2.idsDrawn = w.idsDrawn + (sourcesWithId options.autogenImageNames nodes).length := by
  intro s s' before before' run run'
  have hwrap : wrapDocument s.options = wrapDocument s'.options := by
    rw [wrapDocument_elsewhere, wrapDocument_elsewhere]
  have halike : ∀ n ∈ nodesIn nodes, AlikeAt SameIds s s' n := fun n _ => alikeAt_elsewhere ..
  obtain ⟨htext, hids⟩ := convert_agree keptByMessages_sameIds hwrap halike before before' rfl
  refine ⟨htext, ?_, idsDrawn_convert s nodes before⟩
  -- The ids themselves are those of the setting, so only how many are drawn is left to compare.
  simp only [drawnIds]
  rw [show run.2.idsDrawn = run'.2.idsDrawn from hids]

end HtmlToLatex
