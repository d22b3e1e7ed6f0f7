import Mathlib.Data.List.Nodup
import HtmlToLatex.Proofs.Footprint
import HtmlToLatex.Proofs.Noninterference

set_option autoImplicit false

/-! # Generated names

If names are generated, each image takes the next id, so that no two images of a conversion share a
file. `turns` lists the images in the order of their turns, each with the world that it finds. What
the others have done by then is known from their names (`exists_supplied_at_turn`), so an image
whose file is missing is asked for once and no other one gets in its way:
`convert_generates_names`. -/

namespace HtmlToLatex

open Conversion FileSystem

/-! ## Turns -/

/-- An image with a source when it is its turn. -/
structure Turn where
  source : String
  /-- The world that the image finds. -/
  world : World

variable (setting : Setting)

/-- The turns of the images among some events, each on what the events before have left. -/
def turnsOf : List Event → World → List Turn
  | [], _ => []
  | event :: events, w =>
    (event.source?.map fun source => { source, world := w : Turn }).toList
      ++ turnsOf events (event.step setting w)

/-- The turns of the images that a conversion comes across, in document order. -/
def turns (nodes : List Node) (w : World) : List Turn :=
  turnsOf setting (eventsIn .block nodes) w

namespace Turn

/-- The local name that the image gets. -/
def name (turn : Turn) : String :=
  nextName setting turn.source turn.world

/-- The file that the image is shown from. -/
def destination (turn : Turn) : Path :=
  imagePath setting.options (turn.name setting)

/-- The world that the image leaves. -/
def after (turn : Turn) : World :=
  ((convertSource setting turn.source).run turn.world).2

/-- The request that is made for the image, if the fetcher is asked. -/
def request? (turn : Turn) : Option FetchRequest :=
  ((Event.image turn.source).retrieval? setting turn.world).bind Retrieval.call?

end Turn

theorem turnsOf_image (source : String) (events : List Event) (w : World) :
    turnsOf setting (.image source :: events) w =
      ⟨source, w⟩ :: turnsOf setting events ((Event.image source).step setting w) := rfl

theorem map_source_turnsOf (events : List Event) (w : World) :
    (turnsOf setting events w).map Turn.source = events.filterMap Event.source? := by
  induction events generalizing w with
  | nil => rfl
  | cons event events ih =>
      cases event with
      | bareAnchor | block name => exact ih _
      | image source => rw [turnsOf_image, List.map_cons, ih]; rfl

/-- The requests of a conversion are those of the turns. -/
theorem filterMap_request?_turnsOf (events : List Event) (w : World) :
    (turnsOf setting events w).filterMap (Turn.request? setting) =
      (retrievalsOf setting events w).filterMap Retrieval.call? := by
  induction events generalizing w with
  | nil => rfl
  | cons event events ih =>
      rw [retrievalsOf, List.filterMap_append, ← ih]
      cases event with
      | bareAnchor | block name => rfl
      | image source =>
          rw [turnsOf_image, List.filterMap_cons]
          unfold Turn.request?
          cases (Event.image source).retrieval? setting w with
          | none => rfl
          | some retrieval => cases hcall : retrieval.call? <;> simp [hcall]

/-- What is asked for in a conversion, image by image. -/
theorem fetches_convert (nodes : List Node) (w : World) :
    ((convert setting nodes).run w).2.fetches =
      w.fetches ++ (turns setting nodes w).filterMap (Turn.request? setting) := by
  rw [convert_runs setting nodes w, fetches_foldl]
  exact congrArg _ (filterMap_request?_turnsOf _ _ _).symm

/-! ## Ids -/

variable {setting} {nodes : List Node}

theorem nextName_of_autogen (hautogen : setting.options.autogenImageNames = true)
    (source : String) (w : World) :
    nextName setting source w = generatedName (setting.ids w.idsDrawn) source := by
  rw [nextName, hautogen]
  rfl

/-- Every image takes the id that comes next. -/
theorem map_name_turnsOf (hautogen : setting.options.autogenImageNames = true)
    (events : List Event) (w : World) :
    (turnsOf setting events w).map (Turn.name setting) =
      List.zipWith generatedName
        ((List.range' w.idsDrawn (events.filterMap Event.source?).length).map setting.ids)
        (events.filterMap Event.source?) := by
  induction events generalizing w with
  | nil => rfl
  | cons event events ih =>
      cases event with
      | bareAnchor | block name => exact ih _
      | image source =>
          have hdrawn : ((Event.image source).step setting w).idsDrawn = w.idsDrawn + 1 := by
            rw [Event.step, idsDrawn_convertSource, hautogen]
            rfl
          rw [turnsOf_image, List.map_cons, ih, hdrawn]
          simp only [List.filterMap_cons, Event.source?, List.length_cons, List.range'_succ,
            List.map_cons, List.zipWith_cons_cons]
          rw [Turn.name, nextName_of_autogen hautogen]

/-- The ids are as many as the images. -/
theorem drawnIds_of_autogen (hautogen : setting.options.autogenImageNames = true)
    (nodes : List Node) (w : World) :
    drawnIds setting w ((convert setting nodes).run w).2 =
      (List.range' w.idsDrawn (reachedSources nodes).length).map setting.ids := by
  have hall : sourcesWithId true nodes = reachedSources nodes := by
    rw [sourcesWithId, List.filter_eq_self]
    exact fun _ _ => rfl
  rw [drawnIds, idsDrawn_convert, hautogen, hall, Nat.add_sub_cancel_left]

/-- An id can be read off the name that it makes: it comes before the first dot. -/
theorem takeWhile_generatedName {id : String} (hid : IsId id) (source : String) :
    (generatedName id source).toList.takeWhile (· ≠ '.') = id.toList := by
  have hchars : (generatedName id source).toList =
      id.toList ++ '.' :: (sourceExtension source).toList := by
    simp [generatedName]
  have hall : ∀ c ∈ id.toList, decide (c ≠ '.') = true := by
    intro c hc
    simpa using fun heq : c = '.' => hid.noDot (heq ▸ hc)
  rw [hchars, List.takeWhile_append_of_pos hall, List.takeWhile_cons_of_neg (by simp),
    List.append_nil]

theorem generatedName_injective {id id' : String} (hid : IsId id) (hid' : IsId id')
    {source source' : String} (h : generatedName id source = generatedName id' source') :
    id = id' := by
  rw [← String.toList_inj, ← takeWhile_generatedName hid source, h,
    takeWhile_generatedName hid' source']

theorem generatedName_isName {id : String} (hid : IsId id) (source : String) :
    IsName (generatedName id source) :=
  localName_isName true source hid

section Ids

variable {ids sources : List String} (hids : ∀ id ∈ ids, IsId id)

omit hids in
theorem exists_of_mem_names {name : String}
    (h : name ∈ List.zipWith generatedName ids sources) :
    ∃ id ∈ ids, ∃ source, name = generatedName id source := by
  induction ids generalizing sources with
  | nil => cases h
  | cons id ids ih =>
      cases sources with
      | nil => cases h
      | cons source sources =>
          rcases List.mem_cons.1 h with rfl | hrest
          · exact ⟨id, List.mem_cons_self, source, rfl⟩
          · obtain ⟨id', hid', h⟩ := ih hrest
            exact ⟨id', List.mem_cons_of_mem _ hid', h⟩

include hids

/-- Names from different ids are different. -/
theorem nodup_names (hdistinct : ids.Nodup) (sources : List String) :
    (List.zipWith generatedName ids sources).Nodup := by
  induction ids generalizing sources with
  | nil => exact .nil
  | cons id ids ih =>
      rw [List.forall_mem_cons] at hids
      rw [List.nodup_cons] at hdistinct
      cases sources with
      | nil => exact .nil
      | cons source sources =>
          refine List.nodup_cons.2 ⟨fun hmem => ?_, ih hids.2 hdistinct.2 sources⟩
          obtain ⟨id', hid', source', heq⟩ := exists_of_mem_names hmem
          exact hdistinct.1 (generatedName_injective hids.1 (hids.2 id' hid') heq ▸ hid')

end Ids

/-! ## What a turn finds -/

section Turns

variable {initial : FileSystem} {names : Set String} {events : List Event} {w : World}

/-- At the turn of an image, images have been provided under other names only. -/
theorem exists_supplied_at_turn (hfetcher : setting.fetcher.Confined)
    (hnames : ∀ turn ∈ turnsOf setting events w, IsName (turn.name setting))
    (hdistinct : ((turnsOf setting events w).map (Turn.name setting)).Nodup)
    (hnew : ∀ turn ∈ turnsOf setting events w, turn.name setting ∉ names)
    (h : Supplied (imageDirectory setting.options) initial names w.files) :
    ∀ turn ∈ turnsOf setting events w, ∃ names', turn.name setting ∉ names' ∧
      Supplied (imageDirectory setting.options) initial names' turn.world.files := by
  induction events generalizing w names with
  | nil => exact fun _ hturn => nomatch hturn
  | cons event events ih =>
      cases event with
      | bareAnchor | block name => exact ih hnames hdistinct hnew h
      | image source =>
          rw [turnsOf_image] at *
          rw [List.forall_mem_cons] at hnames hnew ⊢
          rw [List.map_cons, List.nodup_cons] at hdistinct
          have hstep := h.provide hfetcher hnames.1 (step_provision setting source w)
          refine ⟨⟨names, hnew.1, h⟩, ih hnames.2 hdistinct.2 (fun turn hturn => ?_) hstep⟩
          rw [Set.mem_insert_iff, not_or]
          refine ⟨fun heq => hdistinct.1 ?_, hnew.2 turn hturn⟩
          exact List.mem_map.2 ⟨turn, hturn, heq⟩

variable {turn : Turn}

/-- A request is for the file of the image. -/
theorem Turn.destination_of_request? {request : FetchRequest}
    (h : turn.request? setting = some request) :
    request.destination = turn.destination setting := by
  obtain ⟨retrieval, hretrieval, hcall⟩ := Option.bind_eq_some_iff.1 h
  obtain ⟨_, -, rfl⟩ := Option.map_eq_some_iff.1 hcall
  exact ((step_provision setting turn.source turn.world).missing_of_retrieval hretrieval).1

/-- An image with a URL is asked for if its file was missing at the start and has not come to light
    by its turn. -/
theorem Turn.request?_eq_some (hname : IsName (turn.name setting))
    (hnew : turn.name setting ∉ names)
    (h : Supplied (imageDirectory setting.options) initial names turn.world.files) {url : Url}
    (hurl : Url.parse turn.source = .ok url)
    (hmissing : initial.existsAt (turn.destination setting) = false)
    (hdirectory : (initial.makeDirectories (imageDirectory setting.options)).2.isOk = true)
    (hsight : ¬ComesToLight initial (imageDirectory setting.options) (turn.name setting) ∨
      turn.world.files = initial) :
    turn.request? setting = some ⟨url, turn.destination setting⟩ := by
  have hstill : turn.world.files.existsAt (turn.destination setting) = false := by
    cases h with
    | untouched h => rwa [h]
    | noDirectory e h =>
        rw [h] at hdirectory
        cases hdirectory
    | stocked made hmade h =>
        rcases hsight with hsight | hsame
        · rw [Turn.destination, imagePath, h.existsAt_eq hname (.inl hnew)]
          by_contra hthere
          rw [Bool.not_eq_false] at hthere
          exact hsight ⟨hmissing, by rwa [hmade]⟩
        · rwa [hsame]
  have hmade : (turn.world.files.makeDirectories (imageDirectory setting.options)).2.isOk =
      true := by
    cases h with
    | untouched h => rwa [h]
    | noDirectory e h =>
        rw [h] at hdirectory
        cases hdirectory
    | stocked made hmade h => rw [h.makeDirectories_eq hmade]; rfl
  unfold Turn.request?
  cases step_provision setting turn.source turn.world with
  | idle hidle =>
      rcases hidle with hthere | hno
      · cases hstill.symm.trans hthere
      · exact absurd hurl (hno url)
  | noDirectory _ url' _ e _ hfailed =>
      rw [hfailed] at hmade
      cases hmade
  | asked _ url' hurl' made reply _ _ hretrieval =>
      cases hurl.symm.trans hurl'
      rw [hretrieval]
      rfl

/-- The turn of another image leaves the file of an image alone, unless a directory is made there
    on the way to the image directory. -/
theorem Turn.item?_after {other : Turn} (hfetcher : setting.fetcher.Confined)
    (hname : IsName (turn.name setting)) (hother : IsName (other.name setting))
    (hne : other.name setting ≠ turn.name setting)
    (hcwd : other.world.files.workingDirectory = initial.workingDirectory) :
    let place := initial.placeOf (turn.destination setting)
    (other.after setting).files.item? place = other.world.files.item? place ∨
      (other.world.files.item? place = none ∧
        (other.after setting).files.item? place = some .directory ∧
        initial.OnTheWay (imageDirectory setting.options) place) := by
  intro place
  have hmakes := makeDirectories_adds other.world.files (imageDirectory setting.options)
  have hway : other.world.files.OnTheWay (imageDirectory setting.options) place →
      initial.OnTheWay (imageDirectory setting.options) place := by
    rintro ⟨front, hfront, heq⟩
    exact ⟨front, hfront, by rw [heq, start_congr hcwd]⟩
  have hmade :
      (other.world.files.makeDirectories (imageDirectory setting.options)).1.item? place =
        other.world.files.item? place ∨
      (other.world.files.item? place = none ∧
        (other.world.files.makeDirectories (imageDirectory setting.options)).1.item? place =
          some .directory ∧
        initial.OnTheWay (imageDirectory setting.options) place) :=
    (hmakes.item place).imp_right fun hadded => ⟨hadded.1, hadded.2.1, hway hadded.2.2⟩
  cases step_provision setting other.source other.world with
  | idle _ _ hfiles =>
      left
      rw [← hfiles]
      rfl
  | noDirectory _ _ _ e _ hfailed =>
      rw [hfailed] at hmade
      exact hmade
  | asked _ url _ made reply hmade' hreply _ hfiles =>
      have htouches := hfetcher other.world.fetches ⟨url, other.destination setting⟩ made
      rw [show setting.fetcher other.world.fetches ⟨url, other.destination setting⟩ made = reply
        from hreply] at htouches
      rw [hmade'] at hmade hmakes
      have hkept : reply.files.item? place = made.item? place := by
        refine (htouches.item place).resolve_right fun ⟨hwrite, _⟩ => hne ?_
        have hplace := placeOf_of_fileToWrite hwrite
        rw [placeOf_congr (hmakes.workingDirectory.trans hcwd), Turn.destination, imagePath,
          placeOf_join _ _ hother,
          show place = initial.placeOf (imageDirectory setting.options) ++ [turn.name setting]
          from placeOf_join _ _ hname] at hplace
        simpa using hplace
      have hafter : (other.after setting).files = reply.files := hfiles
      rw [hafter, hkept]
      exact hmade

end Turns

/-! ## Whole conversions -/

section Keys

variable {α β κ : Type} [DecidableEq κ] {l : List α} {key : α → κ} {f : α → Option β} {g : β → κ}
  (hkey : ∀ a b, f a = some b → g b = key a)

include hkey

theorem filter_filterMap_of_notMem {k : κ} (hk : k ∉ l.map key) :
    (l.filterMap f).filter (fun b => g b = k) = [] := by
  refine List.filter_eq_nil_iff.2 fun b hb heq => hk ?_
  obtain ⟨a, ha, hf⟩ := List.mem_filterMap.1 hb
  rw [← of_decide_eq_true heq, hkey a b hf]
  exact List.mem_map_of_mem ha

/-- What is chosen from a list by a key that all its elements differ in. -/
theorem filter_filterMap_of_nodup (hdistinct : (l.map key).Nodup) {a : α} (ha : a ∈ l) :
    (l.filterMap f).filter (fun b => g b = key a) = (f a).toList := by
  induction l with
  | nil => cases ha
  | cons x l ih =>
      rw [List.map_cons, List.nodup_cons] at hdistinct
      rw [← List.singleton_append, List.filterMap_append, List.filter_append]
      rcases List.mem_cons.1 ha with rfl | hmem
      · rw [filter_filterMap_of_notMem hkey hdistinct.1, List.append_nil]
        cases hf : f a with
        | none => simp [hf]
        | some b => simp [hf, hkey a b hf]
      · have hfirst : key a ∉ [x].map key := by
          rw [List.map_singleton, List.mem_singleton]
          exact fun heq => hdistinct.1 (heq ▸ List.mem_map_of_mem hmem)
        rw [filter_filterMap_of_notMem hkey hfirst, List.nil_append, ih hdistinct.2 hmem]

end Keys

/-- Images with different names have different files. -/
theorem imagePath_injective (options : Options) {name name' : String} (hname : IsName name)
    (hname' : IsName name') (h : imagePath options name = imagePath options name') :
    name = name' := by
  have hplace := placeOf_join {} (imageDirectory options) hname
  rw [show (imageDirectory options).join ⟨name⟩ = (imageDirectory options).join ⟨name'⟩ from h,
    placeOf_join {} _ hname'] at hplace
  simpa using hplace.symm

theorem nodup_destinations {images : List Turn}
    (hnames : ∀ image ∈ images, IsName (image.name setting))
    (hdistinct : (images.map (Turn.name setting)).Nodup) :
    (images.map (Turn.destination setting)).Nodup := by
  have hmap : images.map (Turn.destination setting) =
      (images.map (Turn.name setting)).map (imagePath setting.options) := by
    rw [List.map_map]
    rfl
  rw [hmap]
  refine List.Nodup.map_on (fun name hname name' hname' heq => ?_) hdistinct
  obtain ⟨turn, hturn, rfl⟩ := List.mem_map.1 hname
  obtain ⟨turn', hturn', rfl⟩ := List.mem_map.1 hname'
  exact imagePath_injective _ (hnames turn hturn) (hnames turn' hturn') heq

/-- **Generated names do not collide.** The image that comes `k`-th in the document is shown under
the `k`-th id, and no other ids are drawn. All names differ. If the fetcher touches at most the
destination that it is given, the turn of an image leaves the files of the others alone, but for
directories made on the way to the image directory. And an image with a URL whose file was missing
is asked for exactly once if the image directory can be had, unless making it for an image before
has brought the file to light, which takes a path that steps back. -/
theorem convert_generates_names (setting : Setting) (nodes : List Node) (w : World)
    (hautogen : setting.options.autogenImageNames = true)
    (hids : ∀ id ∈ drawnIds setting w ((convert setting nodes).run w).2, IsId id)
    (hdistinct : (drawnIds setting w ((convert setting nodes).run w).2).Nodup) :
    let after := ((convert setting nodes).run w).2
    let ids := drawnIds setting w after
    let images := turns setting nodes w
    let directory := imageDirectory setting.options
    (images.map Turn.source = reachedSources nodes ∧ ids.length = images.length ∧
      images.map (Turn.name setting) = List.zipWith generatedName ids (reachedSources nodes) ∧
      ∀ image ∈ images, ((convertSource setting image.source).run image.world).1 =
        Latex.image (imagesName ++ "/" ++ image.name setting) (imageLayout setting.options)) ∧
    (images.map (Turn.name setting)).Nodup ∧
    (w.files.WellFormed → ".." ∉ namesOf directory →
      ∀ image ∈ images, ¬ComesToLight w.files directory (image.name setting)) ∧
    (setting.fetcher.Confined →
      (∀ image ∈ images, ∀ other ∈ images, other.name setting ≠ image.name setting →
        let place := w.files.placeOf (image.destination setting)
        (other.after setting).files.item? place = other.world.files.item? place ∨
          (other.world.files.item? place = none ∧
            (other.after setting).files.item? place = some .directory ∧
            w.files.OnTheWay directory place)) ∧
      ∃ requests, after.fetches = w.fetches ++ requests ∧
        ∀ image ∈ images, ∀ url, Url.parse image.source = .ok url →
          w.files.existsAt (image.destination setting) = false →
          (w.files.makeDirectories directory).2.isOk = true →
          (¬ComesToLight w.files directory (image.name setting) ∨ image.world.files = w.files) →
          requests.filter (fun request => request.destination = image.destination setting) =
            [⟨url, image.destination setting⟩]) := by
  intro after ids images directory
  have hsources : images.map Turn.source = reachedSources nodes := map_source_turnsOf _ _ _
  have hdrawn : ids = (List.range' w.idsDrawn (reachedSources nodes).length).map setting.ids :=
    drawnIds_of_autogen hautogen nodes w
  have hnames : images.map (Turn.name setting) =
      List.zipWith generatedName ids (reachedSources nodes) := by
    rw [hdrawn]
    exact map_name_turnsOf hautogen _ w
  have hnodup : (images.map (Turn.name setting)).Nodup := by
    rw [hnames]
    exact nodup_names hids hdistinct _
  have hisName (image : Turn) (himage : image ∈ images) : IsName (image.name setting) := by
    have hmem := List.mem_map_of_mem (f := Turn.name setting) himage
    rw [hnames] at hmem
    obtain ⟨id, hid, source, heq⟩ := exists_of_mem_names hmem
    rw [heq]
    exact generatedName_isName (hids id hid) source
  refine ⟨⟨hsources, ?_, hnames, fun image _ => by rw [run_convertSource]; rfl⟩, hnodup,
    fun hfiles hdots image himage hlight =>
      hdots (hlight.mem_namesOf hfiles (hisName image himage)),
    fun hfetcher => ?_⟩
  · rw [hdrawn, List.length_map, List.length_range', ← hsources, List.length_map]
  have hstart : Supplied directory w.files ∅ w.files := .untouched rfl
  have hsupplied := exists_supplied_at_turn hfetcher hisName hnodup
    (fun _ _ => Set.notMem_empty _) hstart
  refine ⟨fun image himage other hother hne => ?_, images.filterMap (Turn.request? setting), ?_,
    fun image himage url hurl hmissing hdirectory hsight => ?_⟩
  · obtain ⟨names, -, h⟩ := hsupplied other hother
    exact Turn.item?_after hfetcher (hisName image himage) (hisName other hother) hne
      h.workingDirectory
  · rw [show images.filterMap (Turn.request? setting) = _ from filterMap_request?_turnsOf _ _ _,
      ← fetches_foldl, ← convert_runs setting nodes w]
  · obtain ⟨names, hnew, h⟩ := hsupplied image himage
    have hasked := Turn.request?_eq_some (hisName image himage) hnew h hurl hmissing hdirectory
      hsight
    rw [filter_filterMap_of_nodup (g := FetchRequest.destination)
      (fun _ _ => Turn.destination_of_request?) (nodup_destinations hisName hnodup) himage, hasked]
    rfl

/-- Two images with one base name. -/
theorem convert_generates_names_twins :
    let setting : Setting :=
      { options := { compilationDir := some ⟨"out"⟩ }
        fetcher := .storing "new"
        ids := fun n => ["k7", "m2"].getD n "z" }
    let nodes : List Node :=
      [.element "img" [⟨"src", "a:/x.png"⟩] [],
        .element "p" [] [.element "img" [⟨"src", "a:/y/x.png"⟩] []]]
    (turns setting nodes {}).map (Turn.name setting) = ["k7.png", "m2.png"] ∧
      ∃ requests, ((convert setting nodes).run {}).2.fetches = requests ∧
        ∀ image ∈ turns setting nodes {}, ∀ url, Url.parse image.source = .ok url →
          requests.filter (fun request => request.destination = image.destination setting) =
            [⟨url, image.destination setting⟩] := by
  intro setting nodes
  have hdrawn : drawnIds setting {} ((convert setting nodes).run {}).2 = ["k7", "m2"] := by
    decide +kernel
  have hids : ∀ id ∈ ["k7", "m2"], IsId id := by
    rw [List.forall_mem_cons, List.forall_mem_singleton]
    exact ⟨⟨by decide, by decide, by decide⟩, ⟨by decide, by decide, by decide⟩⟩
  obtain ⟨⟨-, -, hnames, -⟩, -, hsight, hframed⟩ := convert_generates_names setting nodes {} rfl
    (by rwa [hdrawn]) (by rw [hdrawn]; decide)
  have hnames' : (turns setting nodes {}).map (Turn.name setting) = ["k7.png", "m2.png"] := by
    rw [hnames, hdrawn]
    decide +kernel
  obtain ⟨-, requests, hrequests, honce⟩ := hframed (Fetcher.storing_confined "new")
  refine ⟨hnames', requests, hrequests, fun image himage url hurl => ?_⟩
  have hname : image.name setting ∈ ["k7.png", "m2.png"] := by
    rw [← hnames']
    exact List.mem_map_of_mem himage
  have hmissing : ∀ name ∈ ["k7.png", "m2.png"],
      FileSystem.existsAt {} (imagePath setting.options name) = false := by
    decide +kernel
  have hfiles : FileSystem.WellFormed {} := .of_items (by simp)
  exact honce image himage url hurl (hmissing _ hname) (by decide +kernel)
    (.inl (hsight hfiles (by decide +kernel) image himage))

/-- The file of the second image may be there when its turn comes, so that it is not asked for: the
    image directory is made through a directory of its name, or the fetcher stores two files. -/
theorem convert_meets_generated_name :
    let setting (dir : String) (fetcher : Fetcher) : Setting :=
      { options := { compilationDir := some ⟨dir⟩ }
        fetcher
        ids := fun n => ["k7", "m2"].getD n "z" }
    let storingTwo : Fetcher := fun earlier request files =>
      let reply := Fetcher.storing "new" earlier request files
      let files' := reply.files.writeText ⟨"out/images/m2.png"⟩ "new"
      { reply with files := files'.toOption.getD reply.files }
    let nodes : List Node :=
      [.element "img" [⟨"src", "a:/x.png"⟩] [], .element "img" [⟨"src", "a:/y.png"⟩] []]
    let meets (setting : Setting) : Prop :=
      let drawn := drawnIds setting {} ((convert setting nodes).run {}).2
      let images := turns setting nodes {}
      let requests := ((convert setting nodes).run {}).2.fetches
      (∀ id ∈ drawn, IsId id) ∧ drawn.Nodup ∧
        (∀ image ∈ images, (Url.parse image.source).isOk = true ∧
          FileSystem.existsAt {} (image.destination setting) = false) ∧
        (FileSystem.makeDirectories {} (imageDirectory setting.options)).2.isOk = true ∧
        ¬ ∀ image ∈ images,
          (requests.filter fun request => request.destination = image.destination setting).length
            = 1
    (Fetcher.storing "new").Confined ∧
      meets (setting "out/images/m2.png/../.." (.storing "new")) ∧
      meets (setting "out" storingTwo) := by
  intro setting storingTwo nodes meets
  have hids : ∀ id ∈ ["k7", "m2"], IsId id := by
    rw [List.forall_mem_cons, List.forall_mem_singleton]
    exact ⟨⟨by decide, by decide, by decide⟩, ⟨by decide, by decide, by decide⟩⟩
  have hdrawn (setting : Setting)
      (h : drawnIds setting {} ((convert setting nodes).run {}).2 = ["k7", "m2"]) :
      ∀ id ∈ drawnIds setting {} ((convert setting nodes).run {}).2, IsId id := by
    rwa [h]
  exact ⟨Fetcher.storing_confined "new",
    ⟨hdrawn _ (by decide +kernel), by decide +kernel, by decide +kernel, by decide +kernel,
      by decide +kernel⟩,
    ⟨hdrawn _ (by decide +kernel), by decide +kernel, by decide +kernel, by decide +kernel,
      by decide +kernel⟩⟩

end HtmlToLatex
