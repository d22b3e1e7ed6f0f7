import HtmlToLatex.Proofs.Walk

set_option autoImplicit false

/-! # What one image does

The step that an image with a source takes, in equations: which name it gets and how many ids it
draws (`run_drawLocalName`), what becomes of the world in each of the ways in which a retrieval can
end (`run_provideImage`), and what it shows (`run_convertSource`). -/

namespace HtmlToLatex

open Conversion

variable (setting : Setting)

/-! ## Names and ids -/

/-- Whether an image needs a generated id for its name. -/
def needsId (autogen : Bool) (source : String) : Bool :=
  (keptName? autogen source).isNone

/-- The name of an image, with the id that comes next in a world. -/
def nextName (source : String) (w : World) : String :=
  localName setting.options.autogenImageNames source (setting.ids w.idsDrawn)

/-- A world after the id of an image is drawn, if it needs one. -/
def World.drawFor (autogen : Bool) (source : String) (w : World) : World :=
  { w with idsDrawn := w.idsDrawn + if needsId autogen source then 1 else 0 }

theorem run_drawLocalName (source : String) (w : World) :
    (drawLocalName setting source).run w =
      (nextName setting source w, w.drawFor setting.options.autogenImageNames source) := by
  unfold drawLocalName nextName localName World.drawFor needsId
  cases keptName? setting.options.autogenImageNames source <;> rfl

/-! ## Retrieval -/

/-- A world after a retrieval that failed is noted. -/
def World.noteFailure (source : String) (e : FetchError) (w : World) : World :=
  if setting.options.debug then
    { w with log := w.log ++ ["image not retrieved: " ++ source, e.message] }
  else w

/-- A world after a request is made and answered. -/
def World.request (request : FetchRequest) (w : World) : World :=
  let reply := setting.fetcher w.fetches request w.files
  { w with
    files := reply.files
    fetches := w.fetches ++ [request]
    log := w.log ++ reply.messages }

/-- What comes of asking for an image whose file is not there: the source may be no URL, the image
    directory may not be had, and the fetcher may fail. -/
def World.retrieve (source : String) (destination : Path) (w : World) :
    Except FetchError Unit × World :=
  match Url.parse source with
  | .error e => (.error (.notAUrl source e.message), w)
  | .ok url =>
    let (files, made) := w.files.makeDirectories (imageDirectory setting.options)
    let w := { w with files }
    match made with
    | .error e => (.error (.io e.message), w)
    | .ok () =>
      let request := { url, destination }
      ((setting.fetcher w.fetches request w.files).outcome, w.request setting request)

theorem run_retrieveImage (source : String) (destination : Path) (w : World) :
    (retrieveImage setting source destination).run w = w.retrieve setting source destination := by
  unfold retrieveImage World.retrieve
  cases Url.parse source with
  | error e => rfl
  | ok url =>
      have hmade : (makeDirectories (imageDirectory setting.options)).run w =
          ((w.files.makeDirectories (imageDirectory setting.options)).2,
            { w with files := (w.files.makeDirectories (imageDirectory setting.options)).1 }) := rfl
      simp only [run_bind, hmade]
      cases (w.files.makeDirectories (imageDirectory setting.options)).2 <;> rfl

/-- A world after an image is provided. One whose file is there changes nothing; another one is
    asked for, and a failure is noted. -/
def World.provide (source : String) (destination : Path) (w : World) : World :=
  if w.files.existsAt destination then w
  else
    match w.retrieve setting source destination with
    | (.ok (), after) => after
    | (.error e, after) => after.noteFailure setting source e

theorem run_provideImage (source : String) (destination : Path) (w : World) :
    ((provideImage setting source destination).run w).2 = w.provide setting source destination := by
  have hget : (get : Conversion World).run w = (w, w) := rfl
  unfold provideImage World.provide
  simp only [run_bind, hget]
  split
  · rfl
  rw [run_bind, run_retrieveImage]
  rcases w.retrieve setting source destination with ⟨outcome, after⟩
  cases outcome with
  | ok u => rfl
  | error e =>
      simp only [World.noteFailure]
      split <;> rfl

/-! ## The step of an image -/

/-- The file of an image, given its name. -/
def imagePath (options : Options) (name : String) : Path :=
  (imageDirectory options).join ⟨name⟩

/-- An image with a source gets a name, is provided under it, and is shown under it. -/
theorem run_convertSource (source : String) (w : World) :
    (convertSource setting source).run w =
      (Latex.image (imagesName ++ "/" ++ nextName setting source w) (imageLayout setting.options),
        (w.drawFor setting.options.autogenImageNames source).provide setting source
          (imagePath setting.options (nextName setting source w))) := by
  unfold convertSource
  rw [run_bind, run_drawLocalName, ← run_provideImage]
  rfl

/-! ## What a provided image keeps -/

variable {setting}

/-- A property of worlds that asking for a missing image and noting a failure keep is kept by
    providing an image. -/
theorem provide_keeps {P : World → Prop} {source : String} {destination : Path} {w : World}
    (hw : P w) (hask : w.files.existsAt destination = false →
      P (w.retrieve setting source destination).2)
    (hnote : ∀ e v, P v → P (v.noteFailure setting source e)) :
    P (w.provide setting source destination) := by
  unfold World.provide
  split
  · exact hw
  next hmissing =>
    have hafter := hask (by simpa using hmissing)
    rcases hanswer : w.retrieve setting source destination with ⟨outcome, after⟩
    rw [hanswer] at hafter
    cases outcome with
    | ok u => exact hafter
    | error e => exact hnote e after hafter

/-- Asking for an image keeps a property of worlds that making the image directory and the request
    to the fetcher keep. -/
theorem retrieve_keeps {P : World → Prop} {source : String} {destination : Path} {w : World}
    (hw : P w)
    (hmade : ∀ url, Url.parse source = .ok url →
      P { w with files := (w.files.makeDirectories (imageDirectory setting.options)).1 })
    (hasked : ∀ url files, Url.parse source = .ok url →
      w.files.makeDirectories (imageDirectory setting.options) = (files, .ok ()) →
      P (World.request setting { url, destination } { w with files })) :
    P (w.retrieve setting source destination).2 := by
  unfold World.retrieve
  cases hurl : Url.parse source with
  | error e => exact hw
  | ok url =>
      have hdirectory := hmade url hurl
      have hrequest := hasked url
      rcases hfiles : w.files.makeDirectories (imageDirectory setting.options) with ⟨files, made⟩
      rw [hfiles] at hdirectory
      cases made with
      | error e => exact hdirectory
      | ok u => exact hrequest files hurl hfiles

/-- Providing an image only touches the files, the requests and the log, whatever comes of it. -/
theorem provide_untouched {α : Type} {f : World → α}
    (hf : ∀ (v : World) files fetches log, f { v with files, fetches, log } = f v)
    (source : String) (destination : Path) (w : World) :
    f (w.provide setting source destination) = f w := by
  refine provide_keeps (P := fun v => f v = f w) rfl (fun _ => ?_) ?_
  · refine retrieve_keeps (P := fun v => f v = f w) rfl (fun _ _ => hf w _ _ _) ?_
    exact fun _ _ _ _ => hf w _ _ _
  · intro e v hv
    unfold World.noteFailure
    split
    · exact (hf v _ _ _).trans hv
    · exact hv

/-- Providing an image draws no id. -/
theorem idsDrawn_provide (source : String) (destination : Path) (w : World) :
    (w.provide setting source destination).idsDrawn = w.idsDrawn :=
  provide_untouched (fun _ _ _ _ => rfl) source destination w

end HtmlToLatex
