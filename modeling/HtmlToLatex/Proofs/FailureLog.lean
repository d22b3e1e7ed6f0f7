import HtmlToLatex.Proofs.DocumentOrder
import HtmlToLatex.Proofs.Noninterference
import HtmlToLatex.Proofs.Tracing

set_option autoImplicit false

/-! # Failures in the log

The options decide whether retrievals that fail are noted in the log. Beside these notes there are
messages of fetchers and about anchors, so the log is taken as a list of entries that can be written
in two ways, with the failures and without. The entries follow from the events of the walk alone.
The main statement is `convert_logs_failures`: the two logs are the two ways of writing one list of
entries, whose failures are those of the retrievals, and nothing but the log is different. -/

namespace HtmlToLatex

open Conversion

/-! ## Entries -/

/-- What is written to the log. -/
inductive LogEntry where
  | message (text : String)
  /-- An image was not retrieved. -/
  | failure (source : String) (reason : FetchError)
  deriving Repr, BEq, DecidableEq

/-- The lines of an entry. A failure takes two of them if failures are noted, and else none. -/
def LogEntry.lines (noted : Bool) : LogEntry → List String
  | .message text => [text]
  | .failure source reason =>
    if noted then ["image not retrieved: " ++ source, reason.message] else []

/-- The failure that an entry is about. -/
def LogEntry.failure? : LogEntry → Option (String × FetchError)
  | .message _ => none
  | .failure source reason => some (source, reason)

@[simp] theorem flatMap_lines_message (noted : Bool) (messages : List String) :
    (messages.map LogEntry.message).flatMap (LogEntry.lines noted) = messages := by
  simp [List.flatMap_map, LogEntry.lines]

@[simp] theorem filterMap_failure?_message (messages : List String) :
    (messages.map LogEntry.message).filterMap LogEntry.failure? = [] := by
  simp [List.filterMap_map, Function.comp_def, LogEntry.failure?]

/-! ## Inquiries -/

/-- What comes of providing an image: what the fetcher logs, and why the image is not retrieved if
    it should be and is not. -/
structure Inquiry where
  messages : List String := []
  failure? : Option FetchError := none

/-- The entries of an inquiry about the image of a source. -/
def Inquiry.entries (inquiry : Inquiry) (source : String) : List LogEntry :=
  inquiry.messages.map .message ++ inquiry.failure?.toList.map (.failure source)

theorem Inquiry.filterMap_entries (inquiry : Inquiry) (source : String) :
    (inquiry.entries source).filterMap LogEntry.failure? =
      (inquiry.failure?.map fun reason => (source, reason)).toList := by
  cases h : inquiry.failure? <;> simp [entries, h, LogEntry.failure?]

section

variable (setting : Setting)

/-- The inquiry about an image. There is nothing to retrieve if its file is there. Else the source
    may be no absolute URL, the image directory may not be had, and the fetcher may fail. -/
def World.inquiry (source : String) (destination : Path) (w : World) : Inquiry :=
  if w.files.existsAt destination then {}
  else
    match Url.parse source with
    | .error e => { failure? := some (.notAUrl source e.message) }
    | .ok url =>
      match w.files.makeDirectories (imageDirectory setting.options) with
      | (_, .error e) => { failure? := some (.io e.message) }
      | (files, .ok ()) =>
        let reply := setting.fetcher w.fetches { url, destination } files
        match reply.outcome with
        | .error e => { messages := reply.messages, failure? := some e }
        | .ok () => { messages := reply.messages }

/-- The inquiry about the image that comes next. -/
def World.nextInquiry (source : String) (w : World) : Inquiry :=
  w.inquiry setting source (imagePath setting.options (nextName setting source w))

/-- The entries of an event. -/
def Event.entries (w : World) : Event → List LogEntry
  | .image source => (w.nextInquiry setting source).entries source
  | .bareAnchor => [.message bareAnchorMessage]
  | .block _ => []

/-- The entries of some events, in order, each for what the ones before have left. -/
def entriesOf : List Event → World → List LogEntry
  | [], _ => []
  | event :: events, w => event.entries setting w ++ entriesOf events (event.step setting w)

/-- The failures to retrieve the images of some sources, in order, each tried on what the ones
    before have left. -/
def failuresOf : List String → World → List (String × FetchError)
  | [], _ => []
  | source :: sources, w =>
    ((w.nextInquiry setting source).failure?.map fun reason => (source, reason)).toList ++
      failuresOf sources ((convertSource setting source).run w).2

/-- The setting in which failures are noted, or in which they are not. -/
def Setting.noting (noted : Bool) : Setting :=
  { setting with options := { setting.options with debug := noted } }

/-! ## Single images -/

variable {setting} {v w : World}

/-- An inquiry does not look at the log. -/
theorem SameEffects.inquiry (h : SameEffects v w) (source : String) (destination : Path) :
    v.inquiry setting source destination = w.inquiry setting source destination := by
  simp only [World.inquiry, h.files, h.fetches]

theorem SameEffects.nextInquiry (h : SameEffects v w) (source : String) :
    v.nextInquiry setting source = w.nextInquiry setting source := by
  rw [World.nextInquiry, World.nextInquiry, h.inquiry, nextName, nextName, h.idsDrawn]

variable (setting) in
/-- Providing an image logs what the fetcher logs and then, if it is to be noted, the failure. -/
theorem log_provide (noted : Bool) (source : String) (destination : Path) (w : World) :
    (w.provide (setting.noting noted) source destination).log =
      w.log ++ ((w.inquiry setting source destination).entries source).flatMap
        (LogEntry.lines noted) := by
  unfold World.provide World.inquiry World.retrieve
  split
  · simp [Inquiry.entries]
  have hnote (e : FetchError) (v : World) : (v.noteFailure (setting.noting noted) source e).log =
      v.log ++ LogEntry.lines noted (.failure source e) := by
    unfold World.noteFailure LogEntry.lines Setting.noting
    cases noted <;> simp
  cases Url.parse source with
  | error e => simp [hnote, Inquiry.entries]
  | ok url =>
      have hdirectory : imageDirectory (setting.noting noted).options =
          imageDirectory setting.options := rfl
      have hfetcher : (setting.noting noted).fetcher = setting.fetcher := rfl
      simp only [hdirectory, hfetcher, World.request]
      rcases w.files.makeDirectories (imageDirectory setting.options) with ⟨files, made⟩
      cases made with
      | error e => simp [hnote, Inquiry.entries]
      | ok u =>
          cases houtcome : (setting.fetcher w.fetches { url, destination } files).outcome with
          | ok u => simp [houtcome, Inquiry.entries]
          | error e => simp [houtcome, hnote, Inquiry.entries]

variable (setting) in
/-- Whether failures are noted shows in the log only. -/
theorem provide_noting (noted : Bool) (source : String) (destination : Path) (w : World) :
    SameEffects (w.provide (setting.noting noted) source destination)
      (w.provide setting source destination) := by
  have hretrieve : w.retrieve (setting.noting noted) source destination =
      w.retrieve setting source destination := rfl
  have hnote (s : Setting) (e : FetchError) (v : World) :
      SameEffects (v.noteFailure s source e) v := by
    unfold World.noteFailure
    split
    · exact ⟨rfl, rfl, rfl⟩
    · exact .refl v
  unfold World.provide
  rw [hretrieve]
  split
  · exact .refl w
  rcases w.retrieve setting source destination with ⟨outcome, after⟩
  cases outcome with
  | ok u => exact .refl after
  | error e => exact (hnote _ e after).trans (hnote _ e after).symm

/-! ## The walk -/

variable (setting) in
/-- An event acts alike whether or not failures are noted, and logs its entries. -/
theorem step_noting (noted : Bool) (h : SameEffects v w) (event : Event) :
    SameEffects (event.step (setting.noting noted) v) (event.step setting w) ∧
      (event.step (setting.noting noted) v).log =
        v.log ++ (event.entries setting w).flatMap (LogEntry.lines noted) := by
  cases event with
  | bareAnchor => exact ⟨⟨h.files, h.fetches, h.idsDrawn⟩, rfl⟩
  | block name => exact ⟨⟨h.files, h.fetches, h.idsDrawn⟩, (List.append_nil _).symm⟩
  | image source =>
      have hname : nextName (setting.noting noted) source v = nextName setting source v := rfl
      have hdrawn : v.drawFor (setting.noting noted).options.autogenImageNames source =
          v.drawFor setting.options.autogenImageNames source := rfl
      have hpath (name : String) : imagePath (setting.noting noted).options name =
          imagePath setting.options name := rfl
      have halone : (Event.image source).step (setting.noting noted) v =
          (v.drawFor setting.options.autogenImageNames source).provide (setting.noting noted) source
            (imagePath setting.options (nextName setting source v)) := by
        rw [Event.step, run_convertSource, hname, hdrawn, hpath]
      constructor
      · have hsame := h.convertSource setting source
        rw [run_convertSource (w := v)] at hsame
        rw [halone]
        exact (provide_noting setting noted source _ _).trans hsame
      · -- Drawing an id shows neither in the log nor in the inquiry.
        rw [halone, log_provide, Event.entries, ← h.nextInquiry]
        rfl

variable (setting) in
/-- Events act alike whether or not failures are noted, and log their entries. -/
theorem foldl_step_noting (noted : Bool) (events : List Event) (h : SameEffects v w) :
    SameEffects (events.foldl (Event.step (setting.noting noted)) v)
        (events.foldl (Event.step setting) w) ∧
      (events.foldl (Event.step (setting.noting noted)) v).log =
        v.log ++ (entriesOf setting events w).flatMap (LogEntry.lines noted) := by
  induction events generalizing v w with
  | nil => exact ⟨h, by simp [entriesOf]⟩
  | cons event events ih =>
      obtain ⟨hstep, hlog⟩ := step_noting setting noted h event
      obtain ⟨hsame, hrest⟩ := ih hstep
      refine ⟨hsame, ?_⟩
      rw [List.foldl_cons, hrest, hlog, entriesOf, List.flatMap_append, List.append_assoc]

variable (setting) in
/-- The failures among the entries are those to retrieve the images, in order. -/
theorem filterMap_entriesOf (events : List Event) (h : SameEffects v w) :
    (entriesOf setting events v).filterMap LogEntry.failure? =
      failuresOf setting (events.filterMap Event.source?) w := by
  induction events generalizing v w with
  | nil => rfl
  | cons event events ih =>
      rw [entriesOf, List.filterMap_append]
      cases event with
      | bareAnchor | block name => exact ih ⟨h.files, h.fetches, h.idsDrawn⟩
      | image source =>
          have hrest := ih (h.convertSource setting source)
          rw [Event.entries, Inquiry.filterMap_entries, h.nextInquiry]
          exact congrArg _ hrest

variable (setting) in
/-- Whether failures are noted does not show in the text. -/
theorem text_noting (noted : Bool) (nodes : List Node) (w : World) :
    ((convert (setting.noting noted) nodes).run w).1 = ((convert setting nodes).run w).1 := by
  have halike : ∀ n ∈ nodesIn nodes, AlikeAt SameIds (setting.noting noted) setting n :=
    fun n _ => alikeAt_elsewhere setting.options setting.ids setting.fetcher setting.fetcher
      setting.options.compilationDir setting.options.compilationDir noted setting.options.debug n
  have hwrap : wrapDocument (setting.noting noted).options = wrapDocument setting.options :=
    wrapDocument_elsewhere setting.options setting.options.compilationDir noted
  exact (convert_agree keptByMessages_sameIds hwrap halike w w rfl).1

end

/-- **Logging failures is complete and shows nowhere else.** A conversion that notes failures in the
log gives the same text and has the same effects as one that does not, and both log one list of
entries, for the events of the walk in their order. The one log has two lines for each failure, with
the source and the reason, where the other one has none. The failures among the entries are those to
retrieve the images that are reached, in document order: each one whose file is missing and whose
source is no absolute URL, or for which the image directory cannot be had or the fetcher fails. -/
theorem convert_logs_failures (setting : Setting) (nodes : List Node) (w : World) :
    let silent := (convert (setting.noting false) nodes).run w
    let noted := (convert (setting.noting true) nodes).run w
    let entries := entriesOf setting (eventsIn .block nodes) w
    noted.1 = silent.1 ∧ SameEffects noted.2 silent.2 ∧ noted.2.trace = silent.2.trace ∧
      silent.2.log = w.log ++ entries.flatMap (LogEntry.lines false) ∧
      noted.2.log = w.log ++ entries.flatMap (LogEntry.lines true) ∧
      entries.filterMap LogEntry.failure? =
        failuresOf setting ((reachedImages nodes).filterMap (·.node.source?)) w := by
  intro silent noted entries
  have htext (debug : Bool) : ((convert (setting.noting debug) nodes).run w).1 =
      ((convert setting nodes).run w).1 := text_noting setting debug nodes w
  have hrun (debug : Bool) := foldl_step_noting setting debug (eventsIn .block nodes) (.refl w)
  obtain ⟨hsilent, hsilentLog⟩ := hrun false
  obtain ⟨hnoted, hnotedLog⟩ := hrun true
  rw [← convert_runs (setting.noting false) nodes w] at hsilent hsilentLog
  rw [← convert_runs (setting.noting true) nodes w] at hnoted hnotedLog
  have htrace : noted.2.trace = silent.2.trace :=
    (trace_convert _ nodes w).trans (trace_convert _ nodes w).symm
  refine ⟨(htext true).trans (htext false).symm, hnoted.trans hsilent.symm, htrace, hsilentLog,
    hnotedLog, ?_⟩
  rw [filterMap_entriesOf setting _ (.refl w), ← reachedSources_eq]
  rfl

end HtmlToLatex
