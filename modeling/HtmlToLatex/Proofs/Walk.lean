import HtmlToLatex.Proofs.Conversion
import HtmlToLatex.Proofs.Forest

set_option autoImplicit false

/-! # The effects of a walk

The converters call each other in many ways, but all that they do to the world is to process
images, to log a message for each bare anchor and to trace the blocks. `eventsIn` collects these
events from a forest in document order, by places only, and `convert_runs` says that a conversion
acts like a plain left fold over them. -/

namespace HtmlToLatex

open Conversion

/-! ## Events -/

/-- What a walk comes across that acts on the world. -/
inductive Event where
  /-- An image with a source. -/
  | image (source : String)
  /-- An anchor that leads nowhere. -/
  | bareAnchor
  /-- A block, with the name of its element. -/
  | block (name : String)
  deriving DecidableEq

/-- The source of an image. -/
def Event.source? : Event → Option String
  | .image source => some source
  | .bareAnchor | .block _ => none

/-- What an event does to the world. -/
def Event.step (setting : Setting) (w : World) : Event → World
  | .image source => ((convertSource setting source).run w).2
  | .bareAnchor => ((logAll [bareAnchorMessage]).run w).2
  | .block name => ((trace (blockMessage name)).run w).2

/-- The event of an image. -/
def imageEvents (attributes : List Attribute) : List Event :=
  (attribute? attributes "src").toList.map .image

/-- The event of an anchor. -/
def anchorEvents (tag : Tag) (attributes : List Attribute) : List Event :=
  if isBareAnchor tag attributes then [.bareAnchor] else []

/-- The event of an element that stands as a block, before those below it. -/
def blockEvents (place : Place) (name : String) : List Event :=
  if place = .block ∧ (Tag.ofName name).isBlock = true then [.block name] else []

/-- The event of an element that is shown, after those below it. -/
def ownEvents (tag : Tag) (attributes : List Attribute) (children : List Node) : List Event :=
  if tag = .img then imageEvents attributes
  else if children.isEmpty then []
  else anchorEvents tag attributes

mutual

/-- The events of a node that stands in a place, in the order in which a walk comes across them. -/
def events (place : Place) : Node → List Event
  | .text _ => []
  | .element name attributes children =>
    blockEvents place name
    ++ (match place.inside (Tag.ofName name) with
      | some inner => eventsIn inner children
      | none => [])
    ++ if place.shows then ownEvents (Tag.ofName name) attributes children else []

/-- The events of sibling nodes that stand in a place. -/
def eventsIn (place : Place) : List Node → List Event
  | [] => []
  | node :: rest => events place node ++ eventsIn place rest

end

/-- The sources of the images that a walk over a fragment comes across, in document order. -/
def reachedSources (fragment : List Node) : List String :=
  (eventsIn .block fragment).filterMap Event.source?

theorem eventsIn_eq_flatMap (place : Place) (nodes : List Node) :
    eventsIn place nodes = nodes.flatMap (events place) := by
  induction nodes with
  | nil => rfl
  | cons node rest ih => rw [eventsIn, ih, List.flatMap_cons]

theorem blockEvents_of_isBlock {name : String} (h : (Tag.ofName name).isBlock = true) :
    blockEvents .block name = [.block name] :=
  if_pos ⟨rfl, h⟩

theorem blockEvents_of_inline {name : String} (h : (Tag.ofName name).isBlock = false) :
    blockEvents .block name = [] :=
  if_neg fun hblock => Bool.false_ne_true (h.symm.trans hblock.2)

theorem blockEvents_elsewhere {place : Place} (h : place ≠ .block) (name : String) :
    blockEvents place name = [] :=
  if_neg fun hblock => h hblock.1

theorem events_gathersInside : GathersInside events := by
  intro place node hshows
  cases node with
  | text content => rfl
  | element name attributes children =>
      have hplace : place ≠ .block := by
        rintro rfl
        cases hshows
      simp only [events, blockEvents_elsewhere hplace, hshows, Node.tag?, Node.children,
        Option.bind_some, eventsIn_eq_flatMap, List.nil_append]
      exact List.append_nil _

theorem events_block_of_inline {node : Node} (h : node.isBlock = false) :
    events .block node = events .line node := by
  cases node with
  | text content => rfl
  | element name attributes children =>
      have hrole : (Tag.ofName name).blockRole = .inline := by
        simpa [Node.isBlock, Tag.isBlock_eq] using h
      have hname : blockEvents .block name = blockEvents .line name := by
        rw [blockEvents_of_inline h, blockEvents_elsewhere (by decide)]
      simp only [events, hname, Place.inside_block_of_inline hrole, Place.shows]

/-! ## Elements that are shown -/

variable (setting : Setting)

theorem convertImage_runs (attributes : List Attribute) :
    Runs (Event.step setting) (convertImage setting attributes) (imageEvents attributes) := by
  unfold convertImage imageEvents
  cases attribute? attributes "src" with
  | none => exact Runs.pure none
  | some source => exact Runs.map (fun w => rfl) some

theorem styledText_runs (tag : Tag) (attributes : List Attribute) (text : String) :
    Runs (Event.step setting) (styledText tag attributes text) (anchorEvents tag attributes) := by
  rw [styledText_eq]
  unfold anchorEvents
  split
  · exact Runs.map (fun w => rfl) _
  · exact Runs.pure _

/-! ## Lines -/

mutual

theorem convertInline_runs :
    ∀ node, Runs (Event.step setting) (convertInline setting node) (events .line node)
  | .text content => by
      unfold convertInline
      exact Runs.pure _
  | .element name attributes children => by
      rw [convertInline_element]
      unfold events ownEvents
      rw [blockEvents_elsewhere (by decide), List.nil_append]
      simp only [Place.inside, Place.shows, if_true]
      by_cases hbr : Tag.ofName name = .br
      · have hpure : Runs (Event.step setting) (pure (lineBreak setting.options)) [] := Runs.pure _
        simpa [hbr, anchorEvents, isBareAnchor] using hpure
      by_cases himg : Tag.ofName name = .img
      · simpa [himg] using Runs.map (convertImage_runs setting attributes) (·.getD "")
      simp only [hbr, himg, or_self, if_false]
      cases children with
      | nil => exact Runs.pure ""
      | cons node rest =>
          exact (convertInlines_runs (node :: rest)).bind fun text =>
            styledText_runs setting _ attributes text

theorem convertInlines_runs :
    ∀ nodes, Runs (Event.step setting) (convertInlines setting nodes) (eventsIn .line nodes)
  | [] => by
      unfold convertInlines
      exact Runs.pure _
  | node :: rest => by
      unfold convertInlines eventsIn
      exact (convertInline_runs node).bind fun shown => (convertInlines_runs rest).map _

end

/-! ## Tables -/

theorem eventsIn_row (row : List Node) :
    eventsIn .row row =
      (tagged [.td, .th] row).flatMap fun cell => eventsIn .line cell.children := by
  simp only [eventsIn_eq_flatMap]
  exact events_gathersInside.flatMap_row row

theorem eventsIn_table (table : List Node) :
    eventsIn .table table = (tableRows table).flatMap (eventsIn .row) := by
  rw [eventsIn_eq_flatMap, events_gathersInside.flatMap_table]
  exact List.flatMap_congr fun row _ => (eventsIn_eq_flatMap .row row).symm

theorem convertCells_runs (row : List Node) :
    Runs (Event.step setting) (convertCells setting row) (eventsIn .row row) := by
  rw [eventsIn_row]
  exact Runs.mapM _ fun cell _ => (convertInlines_runs setting cell.children).map trim

theorem convertTable_runs (table : List Node) :
    Runs (Event.step setting) (convertTable setting table) (eventsIn .table table) := by
  rw [eventsIn_table]
  exact (Runs.mapM _ fun row _ => convertCells_runs setting row).map tableOf?

/-! ## Blocks -/

/-- A block that is no image and not set in a line has no event of its own. -/
theorem ownEvents_eq_nil {tag : Tag} (himage : tag.blockRole ≠ .image)
    (hinline : tag.blockRole ≠ .inline) (attributes : List Attribute) (children : List Node) :
    ownEvents tag attributes children = [] := by
  have himg : tag ≠ .img := by rintro rfl; exact himage rfl
  have ha : tag ≠ .a := by rintro rfl; exact hinline rfl
  simp [ownEvents, anchorEvents, isBareAnchor, himg, ha]

mutual

theorem convertBlock_runs :
    ∀ node : Node, node.isBlock = true →
      Runs (Event.step setting) (convertBlock setting node) (events .block node)
  | .text content, h => by cases h
  | .element name attributes children, h => by
      have hline := convertInlines_runs setting children
      have htraced : Runs (Event.step setting) (trace (blockMessage name)) [.block name] :=
        fun w => rfl
      rw [convertBlock_element]
      unfold events
      rw [blockEvents_of_isBlock h, List.append_assoc]
      refine htraced.bind fun _ => ?_
      cases hrole : (Tag.ofName name).blockRole
      case inline => simp [Node.isBlock, Tag.isBlock_eq, hrole] at h
      all_goals
        clear h htraced
        generalize Tag.ofName name = tag at hrole ⊢
        simp only [Place.inside, Place.shows, hrole, if_true]
      case image =>
        obtain rfl := Tag.eq_img_of_blockRole hrole
        simpa [ownEvents] using convertImage_runs setting attributes
      all_goals rw [ownEvents_eq_nil (by simp [hrole]) (by simp [hrole]), List.append_nil]
      case heading => exact (hline.map _).map some
      case paragraph => exact (hline.map _).map some
      case listing => exact (hline.map _).map some
      case list => exact (convertItems_runs children).map _
      case table => exact convertTable_runs setting children
      case container =>
        exact (convertBlocksAfter_runs none children).map fun blocks => some (joinBlocks blocks)
      case rule => exact Runs.pure _

theorem convertBlocksAfter_runs (run : Option String) :
    ∀ nodes,
      Runs (Event.step setting) (convertBlocksAfter setting run nodes) (eventsIn .block nodes)
  | [] => by
      unfold convertBlocksAfter
      exact Runs.pure _
  | node :: rest => by
      unfold convertBlocksAfter eventsIn
      split
      next hblock =>
        exact (convertBlock_runs node hblock).bind fun block =>
          (convertBlocksAfter_runs none rest).map _
      next hinline =>
        rw [events_block_of_inline (by simpa using hinline)]
        exact (convertInline_runs setting node).bind fun shown => convertBlocksAfter_runs _ rest

theorem convertItems_runs :
    ∀ nodes, Runs (Event.step setting) (convertItems setting nodes) (eventsIn .list nodes)
  | [] => by
      unfold convertItems
      exact Runs.pure _
  | .text content :: rest => by
      unfold convertItems eventsIn
      simpa [events] using convertItems_runs rest
  | .element name attributes children :: rest => by
      unfold convertItems eventsIn events
      rw [blockEvents_elsewhere (by decide), List.nil_append]
      by_cases hli : Tag.ofName name = .li
      · simp only [hli, if_true, Place.inside, Place.shows, Bool.false_eq_true, if_false,
          List.append_nil]
        exact (convertBlocksAfter_runs none children).bind fun blocks =>
          (convertItems_runs rest).map _
      · simpa [hli, Place.inside, Place.shows] using convertItems_runs rest

end

/-- **A conversion acts on the world like a left fold over its events.** -/
theorem convert_runs (nodes : List Node) :
    Runs (Event.step setting) (convert setting nodes) (eventsIn .block nodes) :=
  (convertBlocksAfter_runs setting none nodes).map _

/-- The setting in which the nodes of a source text are converted. -/
def Setting.inferring (source : String) : Setting :=
  { setting with options := setting.options.withInferredPackages source }

theorem convertText_eq (source : String) :
    convertText setting source =
      convert (setting.inferring source) (Html.parseFragment source) := rfl

end HtmlToLatex
