import HtmlToLatex.Proofs.Frame
import HtmlToLatex.Proofs.Occurrences
import HtmlToLatex.Proofs.Agreement

set_option autoImplicit false

/-! # Which images are retrieved

An image is asked for only if its file is not there, and a file that is there stays there. So no
file is asked for twice, and once all files are there nothing is asked for any more:
`convert_retrieves_once`. The retrievals that a conversion tries are listed by `retrievals`, one
event after the other; `Provision` says once and for all what an image does to the files and the
requests. -/

namespace HtmlToLatex

open Conversion FileSystem

/-! ## Names from the sources -/

/-- Names are not generated, and every image of a forest has one in its source. -/
structure KeepsNames (options : Options) (nodes : List Node) : Prop where
  autogen : options.autogenImageNames = false
  named : ∀ source ∈ imageSources nodes, (sourcePath source).fileName?.isSome

variable {setting : Setting} {nodes : List Node}

theorem nextName_of_keptName? {source name : String}
    (h : keptName? setting.options.autogenImageNames source = some name) (w : World) :
    nextName setting source w = name := by
  rw [nextName, localName, h, Option.getD_some]

/-- An image has a name, which is the same in all worlds. -/
theorem KeepsNames.exists_name (h : KeepsNames setting.options nodes) {source : String}
    (hsource : source ∈ imageSources nodes) :
    ∃ name, (sourcePath source).fileName? = some name ∧ ∀ w, nextName setting source w = name := by
  obtain ⟨name, hname⟩ := Option.isSome_iff_exists.1 (h.named source hsource)
  have hkept : keptName? setting.options.autogenImageNames source = some name := by
    rw [keptName?, h.autogen]
    exact hname
  exact ⟨name, hname, nextName_of_keptName? hkept⟩

theorem KeepsNames.convertImage_agree (h : KeepsNames setting.options nodes) {name : String}
    {attributes : List Attribute} {children : List Node}
    (hnode : .element name attributes children ∈ nodesIn nodes) (himg : Tag.ofName name = .img) :
    Agree (fun _ _ => True) (convertImage setting attributes)
      (convertImage setting attributes) := by
  unfold convertImage
  cases hsource : attribute? attributes "src" with
  | none => exact Agree.pure none
  | some source =>
      have hmem : source ∈ imageSources nodes :=
        List.mem_filterMap.2 ⟨_, hnode, by rw [Node.source?_element, if_pos himg, hsource]⟩
      obtain ⟨local_, -, hlocal⟩ := h.exists_name hmem
      refine Agree.map (fun w w' _ => ⟨?_, trivial⟩) some
      rw [run_convertSource, run_convertSource, hlocal, hlocal]

/-- The text is the same in all worlds, if the images have their names from the sources. -/
theorem KeepsNames.text_eq (h : KeepsNames setting.options nodes) (w w' : World) :
    ((convert setting nodes).run w).1 = ((convert setting nodes).run w').1 := by
  have halike (node : Node) (hnode : node ∈ nodesIn nodes) :
      AlikeAt (fun _ _ => True) setting setting node := by
    refine ⟨fun _ _ => rfl, fun _ => rfl, fun name attributes children heq himg => ?_,
      fun _ _ => rfl⟩
    subst heq
    exact h.convertImage_agree hnode (by simpa [Node.tag?] using himg)
  exact (convert_agree keptByMessages_true rfl halike w w' trivial).1

/-! ## Retrievals -/

/-- An attempt to retrieve an image whose source is a URL and whose file is not there. -/
structure Retrieval where
  request : FetchRequest
  /-- What the fetcher answered. It is not asked if the image directory cannot be had. -/
  answer? : Option (Except FetchError Unit)

/-- The request that is made, if the fetcher is asked. -/
def Retrieval.call? (retrieval : Retrieval) : Option FetchRequest :=
  retrieval.answer?.map fun _ => retrieval.request

/-- Whether the image was retrieved. -/
def Retrieval.succeeded (retrieval : Retrieval) : Bool :=
  retrieval.answer?.any (·.isOk)

variable (setting) in
/-- The retrieval that providing an image makes. -/
def World.retrieval? (source : String) (destination : Path) (w : World) : Option Retrieval :=
  if w.files.existsAt destination then none
  else
    match Url.parse source with
    | .error _ => none
    | .ok url =>
      let request := { url, destination }
      match w.files.makeDirectories (imageDirectory setting.options) with
      | (_, .error _) => some { request, answer? := none }
      | (files, .ok ()) =>
        some { request, answer? := some (setting.fetcher w.fetches request files).outcome }

variable (setting) in
/-- The retrieval of an event. -/
def Event.retrieval? (w : World) : Event → Option Retrieval
  | .image source =>
    w.retrieval? setting source (imagePath setting.options (nextName setting source w))
  | .bareAnchor | .block _ => none

variable (setting) in
/-- The retrievals of some events, in order, each made on what the ones before have left. -/
def retrievalsOf : List Event → World → List Retrieval
  | [], _ => []
  | event :: events, w =>
    (event.retrieval? setting w).toList ++ retrievalsOf events (event.step setting w)

variable (setting) in
/-- The retrievals of a conversion, in order. -/
def retrievals (nodes : List Node) (w : World) : List Retrieval :=
  retrievalsOf setting (eventsIn .block nodes) w

variable (setting) in
/-- What providing an image does: nothing, because the file is there or the source is no URL; or it
    makes the image directory, without success; or it asks the fetcher. -/
inductive Provision (source : String) (destination : Path) (w : World)
    (retrieval? : Option Retrieval) (after : World) : Prop where
  | idle (h : w.files.existsAt destination = true ∨ ∀ url, Url.parse source ≠ .ok url)
      (hretrieval : retrieval? = none) (hfiles : after.files = w.files)
      (hfetches : after.fetches = w.fetches)
  | noDirectory (hmissing : w.files.existsAt destination = false) (url : Url)
      (hurl : Url.parse source = .ok url) (e : FileError)
      (hretrieval : retrieval? = some { request := { url, destination }, answer? := none })
      (hmade : w.files.makeDirectories (imageDirectory setting.options) = (after.files, .error e))
      (hfetches : after.fetches = w.fetches)
  | asked (hmissing : w.files.existsAt destination = false) (url : Url)
      (hurl : Url.parse source = .ok url) (made : FileSystem) (reply : FetchReply)
      (hmade : w.files.makeDirectories (imageDirectory setting.options) = (made, .ok ()))
      (hreply : setting.fetcher w.fetches { url, destination } made = reply)
      (hretrieval : retrieval? =
        some { request := { url, destination }, answer? := some reply.outcome })
      (hfiles : after.files = reply.files)
      (hfetches : after.fetches = w.fetches ++ [⟨url, destination⟩])

variable (setting) in
theorem provision (source : String) (destination : Path) (w : World) :
    Provision setting source destination w (w.retrieval? setting source destination)
      (w.provide setting source destination) := by
  unfold World.provide World.retrieval? World.retrieve
  by_cases hthere : w.files.existsAt destination = true
  · rw [if_pos hthere, if_pos hthere]
    exact .idle (.inl hthere) rfl rfl rfl
  rw [if_neg hthere, if_neg hthere]
  have hmissing : w.files.existsAt destination = false := by simpa using hthere
  have hnoted (v : World) (e : FetchError) : (v.noteFailure setting source e).files = v.files ∧
      (v.noteFailure setting source e).fetches = v.fetches := by
    unfold World.noteFailure
    split <;> exact ⟨rfl, rfl⟩
  cases hurl : Url.parse source with
  | error e =>
      obtain ⟨hfiles, hfetches⟩ := hnoted w (.notAUrl source e.message)
      exact .idle (.inr fun url h => by rw [hurl] at h; cases h) rfl hfiles hfetches
  | ok url =>
      dsimp only
      rcases hmade : w.files.makeDirectories (imageDirectory setting.options) with ⟨made, outcome⟩
      cases outcome with
      | error e =>
          obtain ⟨hfiles, hfetches⟩ := hnoted { w with files := made } (.io e.message)
          refine .noDirectory hmissing url hurl e rfl ?_ hfetches
          rw [hmade, hfiles]
      | ok u =>
          dsimp only
          cases houtcome : (setting.fetcher w.fetches { url, destination } made).outcome with
          | ok u => exact .asked hmissing url hurl made _ hmade rfl (by rw [houtcome]) rfl rfl
          | error e =>
              obtain ⟨hfiles, hfetches⟩ :=
                hnoted (World.request setting { url, destination } { w with files := made }) e
              exact .asked hmissing url hurl made _ hmade rfl (by rw [houtcome]) hfiles hfetches

variable (setting) in
/-- What the event of an image does. -/
theorem step_provision (source : String) (w : World) :
    Provision setting source (imagePath setting.options (nextName setting source w)) w
      ((Event.image source).retrieval? setting w) ((Event.image source).step setting w) := by
  have h := provision setting source
    (imagePath setting.options (nextName setting source w))
    (w.drawFor setting.options.autogenImageNames source)
  rw [Event.retrieval?, Event.step, run_convertSource]
  -- Drawing an id does not show in the files and in the requests.
  cases h with
  | idle h hretrieval hfiles hfetches => exact .idle h hretrieval hfiles hfetches
  | noDirectory hmissing url hurl e hretrieval hmade hfetches =>
      exact .noDirectory hmissing url hurl e hretrieval hmade hfetches
  | asked hmissing url hurl made reply hmade hreply hretrieval hfiles hfetches =>
      exact .asked hmissing url hurl made reply hmade hreply hretrieval hfiles hfetches

/-! ## Images that are there -/

/-- A fetcher that has stored the image if it says so, and touches nothing else. -/
structure Fetcher.Reliable (fetcher : Fetcher) : Prop where
  confined : fetcher.Confined
  existsAt_of_ok : ∀ earlier request files, (fetcher earlier request files).outcome = .ok () →
    (fetcher earlier request files).files.existsAt request.destination = true

theorem Fetcher.storing_reliable (text : String) : (storing text).Reliable := by
  refine ⟨storing_confined text, fun earlier request files hok => ?_⟩
  unfold storing at hok ⊢
  split at hok
  next hwritten => exact existsAt_of_writeBytes hwritten
  · cases hok

/-- Images that are there in one file system are there in another, too. -/
def KeepsImages (options : Options) (files files' : FileSystem) : Prop :=
  ∀ name, IsName name → files.existsAt (imagePath options name) = true →
    files'.existsAt (imagePath options name) = true

/-- What an image does not find later, it would not have found before. -/
theorem KeepsImages.missing {options : Options} {files files' : FileSystem}
    (h : KeepsImages options files files') {name : String} (hname : IsName name)
    (hmissing : files'.existsAt (imagePath options name) = false) :
    files.existsAt (imagePath options name) = false := by
  by_contra hthere
  rw [h name hname (by simpa using hthere)] at hmissing
  cases hmissing

/-- Storing an image keeps those under other names. -/
theorem existsAt_of_touchesOnly {options : Options} {files files' : FileSystem}
    {name other : String} (hname : IsName name) (hother : IsName other) (hne : other ≠ name)
    (h : TouchesOnly (imagePath options name) files files')
    (hthere : files.existsAt (imagePath options other) = true) :
    files'.existsAt (imagePath options other) = true := by
  refine h.existsAt (fun heq => hne ?_) hthere
  rw [imagePath, imagePath, placeOf_join _ _ hother, placeOf_join _ _ hname] at heq
  simpa using heq

namespace Provision

variable {source name : String} {w after : World} {retrieval? : Option Retrieval}

/-- The requests that are made are those of the retrievals. -/
theorem fetches_eq {destination : Path}
    (h : Provision setting source destination w retrieval? after) :
    after.fetches = w.fetches ++ retrieval?.toList.filterMap Retrieval.call? := by
  cases h with
  | idle _ hretrieval _ hfetches => simp [hretrieval, hfetches]
  | noDirectory _ url _ e hretrieval _ hfetches => simp [hretrieval, hfetches, Retrieval.call?]
  | asked _ url _ made reply _ _ hretrieval _ hfetches =>
      simp [hretrieval, hfetches, Retrieval.call?]

/-- A retrieval is tried only if the file is not there. -/
theorem missing_of_retrieval {destination : Path} {retrieval : Retrieval}
    (h : Provision setting source destination w retrieval? after)
    (hretrieval : retrieval? = some retrieval) :
    retrieval.request.destination = destination ∧ w.files.existsAt destination = false := by
  subst hretrieval
  cases h with
  | idle _ hretrieval => cases hretrieval
  | noDirectory hmissing _ _ _ hretrieval =>
      cases hretrieval
      exact ⟨rfl, hmissing⟩
  | asked hmissing _ _ _ _ _ _ hretrieval =>
      cases hretrieval
      exact ⟨rfl, hmissing⟩

variable (hname : IsName name)

include hname

/-- **Providing an image keeps the images that are there.** -/
theorem keepsImages (hfetcher : setting.fetcher.Confined)
    (h : Provision setting source (imagePath setting.options name) w retrieval? after) :
    KeepsImages setting.options w.files after.files := by
  intro other hother hthere
  have hmakes := makeDirectories_adds w.files (imageDirectory setting.options)
  cases h with
  | idle _ _ hfiles => rwa [hfiles]
  | noDirectory _ _ _ _ _ hmade =>
      rw [hmade] at hmakes
      exact hmakes.existsAt hthere
  | asked hmissing url _ made reply hmade hreply _ hfiles =>
      rw [hmade] at hmakes
      have htouches := hfetcher w.fetches ⟨url, imagePath setting.options name⟩ made
      rw [hreply] at htouches
      -- The image that is stored was not there, so it is none of those that were.
      have hne : other ≠ name := by
        rintro rfl
        rw [hthere] at hmissing
        cases hmissing
      rw [hfiles]
      exact existsAt_of_touchesOnly hname hother hne htouches (hmakes.existsAt hthere)

omit hname in
/-- If a retrieval has succeeded, the file is there. -/
theorem existsAt_of_succeeded {destination : Path} {retrieval : Retrieval}
    (hfetcher : setting.fetcher.Reliable)
    (h : Provision setting source destination w retrieval? after)
    (hretrieval : retrieval? = some retrieval) (hsucceeded : retrieval.succeeded = true) :
    after.files.existsAt destination = true := by
  subst hretrieval
  cases h with
  | idle _ hretrieval => cases hretrieval
  | noDirectory _ _ _ _ hretrieval =>
      cases hretrieval
      cases hsucceeded
  | asked _ url _ made reply _ hreply hretrieval hfiles =>
      cases hretrieval
      have hok := hfetcher.existsAt_of_ok w.fetches ⟨url, destination⟩ made
      rw [hreply] at hok
      rw [hfiles]
      refine hok ?_
      cases houtcome : reply.outcome with
      | ok u => rfl
      | error e => simp [Retrieval.succeeded, houtcome, Except.isOk, Except.toBool] at hsucceeded

end Provision

/-! ## The walk -/

variable (setting) in
/-- The image of an event has one name, whatever the world is. -/
def Event.IsNamed (event : Event) : Prop :=
  ∀ source ∈ event.source?, ∃ name, IsName name ∧ ∀ w, nextName setting source w = name

theorem KeepsNames.isNamed (h : KeepsNames setting.options nodes) {event : Event}
    (hevent : event ∈ eventsIn .block nodes) : event.IsNamed setting := by
  intro source hsource
  obtain ⟨name, hname, hnext⟩ := h.exists_name
    (mem_imageSources_of_reached (List.mem_filterMap.2 ⟨event, hevent, hsource⟩))
  exact ⟨name, (Path.fileName?_spec hname).1, hnext⟩

variable (setting) in
/-- Nothing is asked for by an event: the file of the image is there, or its source is no URL. -/
def Event.IsIdle (files : FileSystem) (event : Event) : Prop :=
  ∀ source ∈ event.source?, (∀ url, Url.parse source ≠ .ok url) ∨
    ∀ w, files.existsAt (imagePath setting.options (nextName setting source w)) = true

section Step

variable {event : Event} {w : World}

theorem Event.fetches_step : (event.step setting w).fetches =
    w.fetches ++ (event.retrieval? setting w).toList.filterMap Retrieval.call? := by
  cases event with
  | bareAnchor | block name => exact (List.append_nil _).symm
  | image source => exact (step_provision setting source w).fetches_eq

theorem Event.IsIdle.step (h : event.IsIdle setting w.files) :
    (event.step setting w).files = w.files ∧ (event.step setting w).fetches = w.fetches := by
  cases event with
  | bareAnchor | block name => exact ⟨rfl, rfl⟩
  | image source =>
      have hidle := h source rfl
      cases step_provision setting source w with
      | idle _ _ hfiles hfetches => exact ⟨hfiles, hfetches⟩
      | noDirectory hmissing url hurl =>
          rcases hidle with hno | hthere
          · exact absurd hurl (hno url)
          · cases hmissing.symm.trans (hthere w)
      | asked hmissing url hurl =>
          rcases hidle with hno | hthere
          · exact absurd hurl (hno url)
          · cases hmissing.symm.trans (hthere w)

theorem Event.existsAt_of_succeeded (hfetcher : setting.fetcher.Reliable) {retrieval : Retrieval}
    (hretrieval : event.retrieval? setting w = some retrieval)
    (hsucceeded : retrieval.succeeded = true) :
    (event.step setting w).files.existsAt retrieval.request.destination = true := by
  cases event with
  | bareAnchor | block name => cases hretrieval
  | image source =>
      have h := step_provision setting source w
      rw [(h.missing_of_retrieval hretrieval).1]
      exact h.existsAt_of_succeeded hfetcher hretrieval hsucceeded

variable (hevent : event.IsNamed setting)

include hevent

theorem Event.IsNamed.keepsImages (hfetcher : setting.fetcher.Confined) :
    KeepsImages setting.options w.files (event.step setting w).files := by
  cases event with
  | bareAnchor | block name => exact fun _ _ hthere => hthere
  | image source =>
      obtain ⟨name, hname, hnext⟩ := hevent source rfl
      have h := step_provision setting source w
      rw [hnext] at h
      exact h.keepsImages hname hfetcher

theorem Event.IsNamed.missing_of_retrieval {retrieval : Retrieval}
    (hretrieval : event.retrieval? setting w = some retrieval) :
    ∃ name, IsName name ∧ retrieval.request.destination = imagePath setting.options name ∧
      w.files.existsAt (imagePath setting.options name) = false := by
  cases event with
  | bareAnchor | block name => cases hretrieval
  | image source =>
      obtain ⟨name, hname, hnext⟩ := hevent source rfl
      have h := (step_provision setting source w).missing_of_retrieval hretrieval
      rw [hnext] at h
      exact ⟨name, hname, h.1, h.2⟩

/-- After an event whose retrieval, if any, has succeeded nothing is left to do. -/
theorem Event.IsNamed.isIdle_step (hfetcher : setting.fetcher.Reliable)
    (hsucceeded : ∀ retrieval ∈ event.retrieval? setting w, retrieval.succeeded = true) :
    event.IsIdle setting (event.step setting w).files := by
  cases event with
  | bareAnchor | block name => exact fun _ hsource => nomatch hsource
  | image source =>
      intro source' hsource'
      cases hsource'
      obtain ⟨name, hname, hnext⟩ := hevent source rfl
      have h := step_provision setting source w
      simp only [hnext] at h ⊢
      cases hretrieval : (Event.image source).retrieval? setting w with
      | some retrieval =>
          have hok := hsucceeded retrieval hretrieval
          exact .inr fun _ => h.existsAt_of_succeeded hfetcher hretrieval hok
      | none =>
          rw [hretrieval] at h
          cases h with
          | idle h _ hfiles =>
              rw [hfiles]
              exact h.symm.imp_right fun hthere _ => hthere
          | noDirectory _ _ _ _ hsome => cases hsome
          | asked _ _ _ _ _ _ _ hsome => cases hsome

omit w in
theorem Event.IsNamed.isIdle_of_keepsImages {files files' : FileSystem}
    (hkeeps : KeepsImages setting.options files files') (h : event.IsIdle setting files) :
    event.IsIdle setting files' := by
  intro source hsource
  obtain ⟨name, hname, hnext⟩ := hevent source hsource
  have hidle := h source hsource
  simp only [hnext] at hidle ⊢
  exact hidle.imp_right fun hthere v => hkeeps name hname (hthere v)

end Step

section Run

variable {events : List Event}

theorem fetches_foldl (events : List Event) (w : World) :
    (events.foldl (Event.step setting) w).fetches =
      w.fetches ++ (retrievalsOf setting events w).filterMap Retrieval.call? := by
  induction events generalizing w with
  | nil => exact (List.append_nil _).symm
  | cons event events ih =>
      rw [List.foldl_cons, ih, Event.fetches_step, retrievalsOf, List.filterMap_append,
        List.append_assoc]

variable (hevents : ∀ event ∈ events, event.IsNamed setting)

include hevents

theorem keepsImages_foldl (hfetcher : setting.fetcher.Confined) (w : World) :
    KeepsImages setting.options w.files (events.foldl (Event.step setting) w).files := by
  intro name hname hthere
  let Kept (v : World) : Prop := v.files.existsAt (imagePath setting.options name) = true
  refine List.foldlRecOn (motive := Kept) events (Event.step setting) hthere
    fun v hv event hevent => ?_
  exact (hevents event hevent).keepsImages hfetcher name hname hv

/-- What is asked for was not there at the start. -/
theorem missing_of_mem_retrievalsOf (hfetcher : setting.fetcher.Confined) {w : World}
    {retrieval : Retrieval} (h : retrieval ∈ retrievalsOf setting events w) :
    ∃ name, IsName name ∧ retrieval.request.destination = imagePath setting.options name ∧
      w.files.existsAt (imagePath setting.options name) = false := by
  induction events generalizing w with
  | nil => cases h
  | cons event events ih =>
      have hevent := hevents event List.mem_cons_self
      rw [retrievalsOf, List.mem_append, Option.mem_toList] at h
      rcases h with hretrieval | hlater
      · exact hevent.missing_of_retrieval hretrieval
      · obtain ⟨name, hname, hdestination, hmissing⟩ :=
          ih (fun e he => hevents e (List.mem_cons_of_mem _ he)) hlater
        exact ⟨name, hname, hdestination, (hevent.keepsImages hfetcher).missing hname hmissing⟩

/-- After a retrieval that succeeded nothing is asked for under the same path. -/
theorem retrievalsOf_pairwise (hfetcher : setting.fetcher.Reliable) (w : World) :
    (retrievalsOf setting events w).Pairwise fun earlier later =>
      earlier.succeeded = true → later.request.destination ≠ earlier.request.destination := by
  induction events generalizing w with
  | nil => exact .nil
  | cons event events ih =>
      have hrest : ∀ e ∈ events, e.IsNamed setting :=
        fun e he => hevents e (List.mem_cons_of_mem _ he)
      rw [retrievalsOf]
      cases hretrieval : event.retrieval? setting w with
      | none => exact ih hrest _
      | some retrieval =>
          refine List.pairwise_cons.2 ⟨fun later hlater hsucceeded heq => ?_, ih hrest _⟩
          have hthere := Event.existsAt_of_succeeded hfetcher hretrieval hsucceeded
          obtain ⟨name, -, hdestination, hmissing⟩ :=
            missing_of_mem_retrievalsOf hrest hfetcher.confined hlater
          rw [← hdestination, heq, hthere] at hmissing
          cases hmissing

/-- If all retrievals have succeeded, nothing is left to do. -/
theorem isIdle_foldl (hfetcher : setting.fetcher.Reliable) {w : World}
    (hsucceeded : ∀ retrieval ∈ retrievalsOf setting events w, retrieval.succeeded = true) :
    ∀ event ∈ events, event.IsIdle setting (events.foldl (Event.step setting) w).files := by
  induction events generalizing w with
  | nil => exact fun _ h => nomatch h
  | cons event events ih =>
      have hevent := hevents event List.mem_cons_self
      have hrest : ∀ e ∈ events, e.IsNamed setting :=
        fun e he => hevents e (List.mem_cons_of_mem _ he)
      simp only [retrievalsOf, List.forall_mem_append, Option.mem_toList] at hsucceeded
      rw [List.forall_mem_cons]
      refine ⟨?_, ih hrest hsucceeded.2⟩
      exact hevent.isIdle_of_keepsImages (keepsImages_foldl hrest hfetcher.confined _)
        (hevent.isIdle_step hfetcher hsucceeded.1)

end Run

/-- **An image is retrieved at most once.** The requests of a conversion are those of its
retrievals. Each is for a file that was not there at the start, and once a file was retrieved it is
not asked for again. If all retrievals have succeeded, a conversion on the files afterwards gives
the same text, asks for nothing and leaves the files as they are. -/
theorem convert_retrieves_once (setting : Setting) (nodes : List Node) (w : World)
    (hnames : KeepsNames setting.options nodes) (hfetcher : setting.fetcher.Reliable) :
    let run := (convert setting nodes).run w
    let tried := retrievals setting nodes w
    run.2.fetches = w.fetches ++ tried.filterMap Retrieval.call? ∧
    (∀ retrieval ∈ tried, w.files.existsAt retrieval.request.destination = false) ∧
    (tried.Pairwise fun earlier later =>
      earlier.succeeded = true → later.request.destination ≠ earlier.request.destination) ∧
    ((∀ retrieval ∈ tried, retrieval.succeeded = true) → ∀ w' : World, w'.files = run.2.files →
      let again := (convert setting nodes).run w'
      again.1 = run.1 ∧ again.2.files = run.2.files ∧ again.2.fetches = w'.fetches) := by
  intro run tried
  have hevents : ∀ event ∈ eventsIn .block nodes, event.IsNamed setting :=
    fun _ hevent => hnames.isNamed hevent
  have hruns := convert_runs setting nodes
  have hafter : run.2 = (eventsIn .block nodes).foldl (Event.step setting) w := hruns w
  refine ⟨?_, fun retrieval hretrieval => ?_, ?_, fun hsucceeded w' hw' => ⟨?_, ?_⟩⟩
  · rw [hafter]
    exact fetches_foldl _ w
  · obtain ⟨name, -, hdestination, hmissing⟩ :=
      missing_of_mem_retrievalsOf hevents hfetcher.confined hretrieval
    rw [hdestination]
    exact hmissing
  · exact retrievalsOf_pairwise hevents hfetcher w
  · exact hnames.text_eq w' w
  · have hidle := isIdle_foldl hevents hfetcher hsucceeded
    rw [← hafter] at hidle
    refine hruns.keeps (P := fun v => v.files = run.2.files ∧ v.fetches = w'.fetches)
      (fun v hv event hevent => ?_) ⟨hw', rfl⟩
    have hidle := hidle event hevent
    rw [← hv.1] at hidle
    exact ⟨hidle.step.1.trans hv.1, hidle.step.2.trans hv.2⟩

/-- Two images with one file, and one that is no URL. -/
theorem convert_retrieves_once_shared :
    let setting : Setting :=
      { options := { compilationDir := some ⟨"out"⟩, autogenImageNames := false }
        fetcher := .storing "new"
        ids := fun _ => "id" }
    let nodes : List Node :=
      [.element "img" [⟨"src", "a:/x.png"⟩] [],
        .element "p" [] [.element "img" [⟨"src", "b:/x.png?y"⟩] []],
        .element "img" [⟨"src", "z.png"⟩] []]
    let run := (convert setting nodes).run { files := {} }
    run.2.fetches.map (·.destination) = [⟨"out/images/x.png"⟩] ∧
      ((convert setting nodes).run run.2).2.fetches = run.2.fetches := by
  intro setting nodes
  dsimp only
  have hnames : KeepsNames setting.options nodes := ⟨rfl, by decide +kernel⟩
  obtain ⟨hfetches, -, -, hagain⟩ :=
    convert_retrieves_once setting nodes { files := {} } hnames (Fetcher.storing_reliable "new")
  have htried :
      ∀ retrieval ∈ retrievals setting nodes { files := {} }, retrieval.succeeded = true := by
    decide +kernel
  have hsecond := hagain htried ((convert setting nodes).run { files := {} }).2 rfl
  refine ⟨?_, hsecond.2.2⟩
  rw [hfetches]
  decide +kernel

end HtmlToLatex
