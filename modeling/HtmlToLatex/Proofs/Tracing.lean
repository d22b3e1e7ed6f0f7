import HtmlToLatex.Proofs.Agreement
import HtmlToLatex.Proofs.Image

set_option autoImplicit false

/-! # What a walk traces

A walk traces each block when it comes to it, before what is inside, and nothing else: the messages
are those of the blocks that it comes across, in document order, `trace_convertBlocks`. Nobody looks
at them. From two worlds that differ in what was traced before only, a conversion goes on alike,
`convertBlocks_agree_traced`. -/

namespace HtmlToLatex

open Conversion

/-! ## The messages -/

/-- What is traced about an event. -/
def Event.traced? : Event → Option String
  | .block name => some (blockMessage name)
  | .image _ | .bareAnchor => none

/-- What a walk over sibling nodes traces: a message for each block that it comes to. -/
def tracedIn (nodes : List Node) : List String :=
  (eventsIn .block nodes).filterMap Event.traced?

@[simp]
theorem tracedIn_append (front back : List Node) :
    tracedIn (front ++ back) = tracedIn front ++ tracedIn back := by
  simp [tracedIn, eventsIn_eq_flatMap]

variable (setting : Setting)

theorem trace_step (event : Event) (w : World) :
    (event.step setting w).trace = w.trace ++ event.traced?.toList := by
  cases event with
  | image source =>
      rw [Event.step, run_convertSource]
      exact (provide_untouched (f := World.trace) (fun _ _ _ _ => rfl) source _ _).trans
        (List.append_nil _).symm
  | bareAnchor => exact (List.append_nil _).symm
  | block name => rfl

theorem trace_foldl (events : List Event) (w : World) :
    (events.foldl (Event.step setting) w).trace = w.trace ++ events.filterMap Event.traced? := by
  induction events generalizing w with
  | nil => exact (List.append_nil _).symm
  | cons event events ih =>
      rw [List.foldl_cons, ih, trace_step, List.append_assoc]
      cases h : event.traced? <;> simp [h]

/-- **A walk traces the blocks that it comes to, in document order.** -/
theorem trace_convertBlocks (nodes : List Node) (w : World) :
    ((convertBlocks setting nodes).run w).2.trace = w.trace ++ tracedIn nodes := by
  rw [convertBlocks, convertBlocksAfter_runs setting none nodes w, trace_foldl]
  rfl

theorem trace_convert (nodes : List Node) (w : World) :
    ((convert setting nodes).run w).2.trace = w.trace ++ tracedIn nodes :=
  trace_convertBlocks setting nodes w

theorem trace_convertNodes (nodes : List Node) (w : World) :
    ((convertNodes setting nodes).run w).2.trace = w.trace ++ tracedIn nodes :=
  trace_convertBlocks setting nodes w

/-- A container is traced before what is in it. -/
theorem tracedIn_container {name : String} (hname : (Tag.ofName name).isContainer = true)
    (attributes : List Attribute) (children : List Node) :
    tracedIn [.element name attributes children] = blockMessage name :: tracedIn children := by
  have hblock : (Tag.ofName name).isBlock = true := Tag.isBlock_of_isContainer hname
  have hinside : Place.inside .block (Tag.ofName name) = some .block := by
    revert hname
    cases Tag.ofName name <;> decide
  have hown : ownEvents (Tag.ofName name) attributes children = [] := by
    refine ownEvents_eq_nil ?_ ?_ attributes children <;>
      (revert hname; cases Tag.ofName name <;> decide)
  simp only [tracedIn, eventsIn, events, blockEvents_of_isBlock hblock, hinside, hown, ite_self,
    List.append_nil, List.singleton_append]
  rfl

/-! ## Nobody looks at the messages -/

/-- Two worlds that differ in what was traced only. -/
structure SameButTrace (w w' : World) : Prop where
  files : w.files = w'.files
  fetches : w.fetches = w'.fetches
  log : w.log = w'.log
  idsDrawn : w.idsDrawn = w'.idsDrawn

namespace SameButTrace

variable {w w' w'' : World}

theorem refl (w : World) : SameButTrace w w := ⟨rfl, rfl, rfl, rfl⟩

theorem trans (h : SameButTrace w w') (h' : SameButTrace w' w'') : SameButTrace w w'' :=
  ⟨h.files.trans h'.files, h.fetches.trans h'.fetches, h.log.trans h'.log,
    h.idsDrawn.trans h'.idsDrawn⟩

theorem eq (h : SameButTrace w w') : w' = { w with trace := w'.trace } := by
  obtain ⟨files, fetches, log, trace, idsDrawn⟩ := w
  obtain ⟨rfl, rfl, rfl, rfl⟩ := h
  rfl

end SameButTrace

/-- A message that is traced on one side only makes no difference. -/
theorem Conversion.Agree.traced {α : Type} {m m' : Conversion α} (h : Agree SameButTrace m m')
    (message : String) : Agree SameButTrace (trace message >>= fun _ => m) m' :=
  fun _ _ hw => h _ _ ⟨hw.files, hw.fetches, hw.log, hw.idsDrawn⟩

theorem keptByMessages_sameButTrace : KeptByMessages SameButTrace where
  anchor _ _ h := ⟨rfl, h.files, h.fetches, congrArg (· ++ [bareAnchorMessage]) h.log, h.idsDrawn⟩
  block _ _ _ h := ⟨rfl, h.files, h.fetches, h.log, h.idsDrawn⟩

theorem provide_traced (source : String) (destination : Path) (w : World) (trace : List String) :
    World.provide setting source destination { w with trace } =
      { w.provide setting source destination with trace } := by
  have hnote (e : FetchError) (v : World) : World.noteFailure setting source e { v with trace } =
      { v.noteFailure setting source e with trace } := by
    unfold World.noteFailure
    split <;> rfl
  unfold World.provide World.retrieve
  dsimp only
  split
  · rfl
  cases Url.parse source with
  | error e => exact hnote _ w
  | ok url =>
      dsimp only
      rcases w.files.makeDirectories (imageDirectory setting.options) with ⟨files, made⟩
      cases made with
      | error e => exact hnote _ { w with files }
      | ok u =>
          dsimp only
          cases (setting.fetcher w.fetches { url, destination } files).outcome with
          | ok u => rfl
          | error e => exact hnote e (World.request setting _ { w with files })

theorem convertSource_agree_traced (source : String) :
    Agree SameButTrace (convertSource setting source) (convertSource setting source) := by
  intro w w' h
  rw [h.eq, run_convertSource, run_convertSource]
  refine ⟨rfl, ?_⟩
  have hworld := provide_traced setting source
    (imagePath setting.options (nextName setting source w))
    (w.drawFor setting.options.autogenImageNames source) w'.trace
  exact hworld ▸ ⟨rfl, rfl, rfl, rfl⟩

/-- A conversion does not look at what was traced before. -/
theorem convertBlocks_agree_traced (nodes : List Node) :
    Agree SameButTrace (convertBlocks setting nodes) (convertBlocks setting nodes) := by
  refine convertBlocksAfter_agree keptByMessages_sameButTrace none nodes fun node _ => ?_
  refine ⟨fun _ _ => rfl, fun _ => rfl, fun _ attributes _ _ _ => ?_, fun _ _ => rfl⟩
  unfold convertImage
  split
  · exact (convertSource_agree_traced setting _).map some
  · exact Agree.pure none

end HtmlToLatex
