import HtmlToLatex.Proofs.Gathering
import HtmlToLatex.Proofs.Image

set_option autoImplicit false

/-! # What a walk shows

`visibleTexts` says which texts of a forest a walk shows, in document order. `convert_yields` says
that every law of the output holds between these texts and the output, if it holds for each text,
for the attributes and options that come into the output, and for the names of the images. The walk
itself is that of `convert_gathers`. -/

namespace HtmlToLatex

open Conversion

/-! ## Visible texts -/

mutual

/-- The texts in a node that a walk shows if the node stands in a place, in document order. -/
def visibleTexts (place : Place) : Node → List String
  | .text content => if place.shows then [content] else []
  | .element name _ children =>
    match place.inside (Tag.ofName name) with
    | some inner =>
      if inner = .table ∧ opensWithoutCells children then [] else visibleTextsIn inner children
    | none => []

/-- The texts in sibling nodes that a walk shows if the nodes stand in a place. -/
def visibleTextsIn (place : Place) : List Node → List String
  | [] => []
  | node :: rest => visibleTexts place node ++ visibleTextsIn place rest

end

theorem visibleTextsIn_eq_flatMap (place : Place) (nodes : List Node) :
    visibleTextsIn place nodes = nodes.flatMap (visibleTexts place) := by
  induction nodes with
  | nil => rfl
  | cons node rest ih => rw [visibleTextsIn, ih, List.flatMap_cons]

theorem visibleTexts_element (place : Place) (name : String) (attributes : List Attribute)
    (children : List Node) :
    visibleTexts place (.element name attributes children) =
      gatherBelow visibleTexts place (Tag.ofName name) children := by
  unfold visibleTexts gatherBelow
  cases place.inside (Tag.ofName name) with
  | none => rfl
  | some inner => simp only [visibleTextsIn_eq_flatMap]

theorem visibleTexts_gathering : Gathering visibleTexts where
  inside := by
    rintro place (content | ⟨name, attributes, children⟩) hshows
    · simp [visibleTexts, hshows, Node.tag?]
    · rw [visibleTexts_element, gatherBelow_of_shows_eq_false hshows]
      rfl
  inline := by
    rintro (content | ⟨name, attributes, children⟩) hinline
    · rfl
    · have hrole : (Tag.ofName name).blockRole = .inline := by
        simpa [Node.isBlock, Tag.isBlock_eq] using hinline
      rw [visibleTexts_element, visibleTexts_element, gatherBelow_block_of_inline hrole]
  block := fun name attributes children _ _ _ =>
    visibleTexts_element .block name attributes children

/-! ## Elements in a line -/

section Line

variable {P : List String → String → Prop} {setting : Setting}

theorem styledText_yields {Q : String → Prop} {tag : Tag} {attributes : List Attribute}
    {t : String} (h : Q (styled tag attributes t)) : Yields (styledText tag attributes t) Q := by
  rw [styledText_eq]
  split
  · exact Yields.map (P := fun _ => True) (fun _ => trivial) fun _ _ => h
  · exact Yields.pure h

variable (law : LineLaw P)

include law

/-- An image shows nothing if its sizes and its path do not. -/
theorem LineLaw.convertImage_yields {attributes : List Attribute}
    (hwidth : ∀ size, setting.options.imageWidth = some size → P [] size)
    (hheight : ∀ size, setting.options.imageHeight = some size → P [] size)
    (hpath : ∀ source, attribute? attributes "src" = some source → ∀ n, P [] (Latex.group
      (imagesName ++ "/" ++ localName setting.options.autogenImageNames source (setting.ids n)))) :
    Yields (convertImage setting attributes) fun image => Rendered P [] image.toList := by
  unfold convertImage
  cases hsrc : attribute? attributes "src" with
  | none => exact Yields.pure .nil
  | some source =>
      have himage : Yields (convertSource setting source) (P []) := by
        intro w
        rw [run_convertSource]
        exact law.image (hpath source hsrc _) hwidth hheight
      exact himage.map fun t ht => Rendered.single ht

theorem LineLaw.lineBreak (options : Options) : P [] (lineBreak options) := by
  unfold HtmlToLatex.lineBreak
  split <;> exact law.neutral rfl

/-- An element in a line, by what its markup makes of the text of its children. -/
theorem LineLaw.convertInline_element {name : String} {attributes : List Attribute}
    {children : List Node} {a b : List String}
    (himage : Tag.ofName name = .img →
      Yields (convertImage setting attributes) fun image => Rendered P [] image.toList)
    (hempty : children = [] → P b "")
    (hstyled : children ≠ [] → ∀ t, P a t →
      P b (HtmlToLatex.styled (Tag.ofName name) attributes t))
    (hchildren : Yields (convertInlines setting children) (P a)) :
    Yields (convertInline setting (.element name attributes children))
      (P (if Tag.ofName name = .br ∨ Tag.ofName name = .img then [] else b)) := by
  rw [HtmlToLatex.convertInline_element]
  by_cases hbr : Tag.ofName name = .br
  · simpa [hbr] using Yields.pure (law.lineBreak setting.options)
  by_cases himg : Tag.ofName name = .img
  · simpa [himg] using (himage himg).map fun image => law.getD
  simp only [hbr, himg, or_self, if_false]
  split
  next hnil => exact Yields.pure (hempty (List.isEmpty_iff.1 hnil))
  next hfilled =>
    have hne : children ≠ [] := fun hnil => hfilled (List.isEmpty_iff.2 hnil)
    exact hchildren.bind fun text htext => styledText_yields (hstyled hne text htext)

end Line

/-! ## Single nodes -/

/-- What a law needs of a node: it holds for a text and its running text, and neither the target of
    a link nor an image shows anything. -/
def Node.Fits (P : List String → String → Prop) (setting : Setting) : Node → Prop
  | .text content => P [content] (normalizeText setting.options content)
  | .element name attributes _ =>
    (Tag.ofName name = .a →
      ∀ target, attribute? attributes "href" = some target → P [] target) ∧
    (Tag.ofName name = .img →
      Yields (convertImage setting attributes) fun image => Rendered P [] image.toList)

variable {P : List String → String → Prop} (law : OutputLaw P) {setting : Setting}

include law

/-- An image shows nothing if its sizes and its name do not. -/
theorem convertImage_yields {attributes : List Attribute}
    (hoptions : ∀ text ∈ setting.options.texts, P [] text)
    (hname : ∀ source, attribute? attributes "src" = some source →
      ∀ n, P [] (localName setting.options.autogenImageNames source (setting.ids n))) :
    Yields (convertImage setting attributes) fun image => Rendered P [] image.toList := by
  have hdirectory : P [] (imagesName ++ "/") := law.plain rfl
  refine law.blocks.convertImage_yields (fun size hsize => hoptions size ?_)
    (fun size hsize => hoptions size ?_)
    fun source hsource n => law.group (law.append hdirectory (hname source hsource n))
  · simp [Options.texts, hsize]
  · simp [Options.texts, hsize]

/-- The text of an element in a line shows what it is made of. -/
theorem OutputLaw.styled {tag : Tag} {attributes : List Attribute} {a : List String} {t : String}
    (htarget : tag = .a → ∀ target, attribute? attributes "href" = some target → P [] target)
    (h : P a t) : P a (styled tag attributes t) := by
  cases hscript : tag.scriptMark? with
  | none => exact law.blocks.styled hscript (fun ha target ht => law.group (htarget ha target ht)) h
  | some mark =>
      have hmark : P [] mark := by
        unfold Tag.scriptMark? at hscript
        split at hscript <;> cases hscript <;> exact law.plain rfl
      have hdollar : P [] "$" := law.plain rfl
      rw [styled_script hscript]
      exact law.blocks.between hdollar (law.append hmark (law.group h)) hdollar

/-- An element in a line shows what its children show, unless they are left out. -/
theorem Node.Fits.convertInline {name : String} {attributes : List Attribute}
    {children : List Node} {a : List String}
    (h : (Node.element name attributes children).Fits P setting)
    (hchildren : Yields (convertInlines setting children) (P a)) :
    Yields (HtmlToLatex.convertInline setting (.element name attributes children))
      (P (if Tag.ofName name = .br ∨ Tag.ofName name = .img then [] else a)) := by
  refine law.blocks.convertInline_element h.2 ?_ (fun _ t ht => law.styled h.1 ht) hchildren
  rintro rfl
  unfold convertInlines at hchildren
  exact hchildren default

/-- A node that fits a law follows it with the texts that are visible in it. -/
theorem Node.Fits.follows {node : Node} (h : node.Fits P setting) :
    node.Follows P P setting visibleTexts := by
  cases node with
  | text content => exact ⟨h, nofun, nofun⟩
  | element name attributes children =>
      refine ⟨fun hchildren => ?_, fun himg => ?_, fun hcode t ht => ?_⟩
      · rw [visibleTexts_element, gatherBelow_line]
        exact h.convertInline law hchildren
      · have himg := Option.some.inj himg
        simpa [visibleTexts_element, gatherBelow, Place.inside, himg, Tag.blockRole,
          Node.attributes] using h.2 himg
      · have hlisting : P (children.flatMap (visibleTexts .line)) (Latex.listing t) :=
          law.blocks.environmentOnLines rfl ht
        simpa [visibleTexts_element, gatherBelow, Place.inside, Option.some.inj hcode,
          Tag.blockRole] using hlisting

/-! ## The walk -/

/-- **A conversion shows the visible texts,** with or without a document around them, under every
law of the output that holds for each node by itself and for the texts of the options. -/
theorem convert_yields {nodes : List Node} (h : ∀ n ∈ nodesIn nodes, n.Fits P setting)
    (hoptions : ∀ text ∈ setting.options.texts, P [] text) :
    Yields (convert setting nodes) (P (visibleTextsIn .block nodes)) := by
  rw [visibleTextsIn_eq_flatMap]
  exact convert_gathers law.blocks.walk visibleTexts_gathering (fun n hn => (h n hn).follows law)
    hoptions

theorem convertNodes_yields {nodes : List Node} (h : ∀ n ∈ nodesIn nodes, n.Fits P setting) :
    Yields (convertNodes setting nodes) (P (visibleTextsIn .block nodes)) := by
  rw [visibleTextsIn_eq_flatMap]
  exact convertNodes_gathers law.blocks.walk visibleTexts_gathering fun n hn => (h n hn).follows law

end HtmlToLatex
