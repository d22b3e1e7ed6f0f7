import HtmlToLatex.Proofs.Walk

set_option autoImplicit false

/-! # Nodes in document order

A walk goes from place to place and comes across the images of a forest on its way. The same images
can be found without walking: `occurrencesIn` lists all nodes of a forest in document order, each
with the elements around it, and `IsReached` says of these elements that none of them hides what is
inside. `reachedSources_eq` is the equality of the two: what a walk comes across is that list with
the hidden nodes left out. -/

namespace HtmlToLatex

/-! ## Occurrences -/

/-- A node of a forest with the tags of the elements around it, the outermost one first. -/
structure Occurrence where
  above : List Tag
  node : Node

/-- The same node, seen from outside one more element. -/
def Occurrence.within (tag : Tag) (o : Occurrence) : Occurrence :=
  { o with above := tag :: o.above }

mutual

/-- A node and all nodes below it in document order. -/
def Node.occurrences : Node → List Occurrence
  | .text content => [⟨[], .text content⟩]
  | .element name attributes children =>
    ⟨[], .element name attributes children⟩ ::
      (occurrencesIn children).map (Occurrence.within (Tag.ofName name))

/-- The nodes of a forest in document order. -/
def occurrencesIn : List Node → List Occurrence
  | [] => []
  | node :: rest => node.occurrences ++ occurrencesIn rest

end

mutual

theorem map_node_occurrences : ∀ node : Node, node.occurrences.map (·.node) = node.nodes
  | .text content => rfl
  | .element name attributes children => by
      have hbelow : (fun o : Occurrence => o.node) ∘ Occurrence.within (Tag.ofName name) =
        (·.node) := rfl
      rw [Node.occurrences, Node.nodes, List.map_cons, List.map_map, hbelow,
        map_node_occurrencesIn children]

/-- Nothing is left out and nothing listed twice. -/
theorem map_node_occurrencesIn : ∀ nodes, (occurrencesIn nodes).map (·.node) = nodesIn nodes
  | [] => rfl
  | node :: rest => by
      rw [occurrencesIn, nodesIn, List.map_append, map_node_occurrences node,
        map_node_occurrencesIn rest]

end

/-! ## What is reached -/

/-- Nodes with these elements around them stand among blocks: all of the elements are containers,
    or lists with one of their items. -/
inductive AmongBlocks : List Tag → Prop where
  | root : AmongBlocks []
  | container {tag : Tag} {inner : List Tag} (htag : tag.isContainer = true)
      (h : AmongBlocks inner) : AmongBlocks (tag :: inner)
  | item {tag : Tag} {inner : List Tag} (htag : tag = .ul ∨ tag = .ol)
      (h : AmongBlocks inner) : AmongBlocks (tag :: .li :: inner)

/-- The elements inside a table start with a row, in a section or not, and a cell of it. -/
def LeadsToCell (inner : List Tag) : Prop :=
  ∃ row cell rest, inner = row ++ cell :: rest ∧
    (row = [.tr] ∨ ∃ group, (group = .thead ∨ group = .tbody ∨ group = .tfoot) ∧
      row = [group, .tr]) ∧
    (cell = .td ∨ cell = .th)

/-- An element does not hide a node inside it. `outer` are the elements around it, and `inner` those
    between it and the node. -/
structure Passes (outer : List Tag) (tag : Tag) (inner : List Tag) : Prop where
  ne_img : tag ≠ .img
  ne_br : tag ≠ .br
  ne_hr : AmongBlocks outer → tag ≠ .hr
  item : AmongBlocks outer → tag = .ul ∨ tag = .ol → inner.head? = some .li
  cell : AmongBlocks outer → tag = .table → LeadsToCell inner

/-- No element around a node hides it. -/
def IsReached (above : List Tag) : Prop :=
  ∀ outer tag inner, above = outer ++ tag :: inner → Passes outer tag inner

theorem amongBlocks_cons {tag : Tag} {inner : List Tag} :
    AmongBlocks (tag :: inner) ↔ (tag.isContainer = true ∧ AmongBlocks inner) ∨
      ((tag = .ul ∨ tag = .ol) ∧ ∃ rest, inner = .li :: rest ∧ AmongBlocks rest) := by
  constructor
  · intro h
    cases h with
    | container htag h => exact .inl ⟨htag, h⟩
    | item htag h => exact .inr ⟨htag, _, rfl, h⟩
  · rintro (⟨htag, h⟩ | ⟨htag, rest, rfl, h⟩)
    · exact .container htag h
    · exact .item htag h

/-- Which elements are around an element counts only as to whether it stands among blocks. -/
theorem passes_congr {outer outer' : List Tag} (h : AmongBlocks outer ↔ AmongBlocks outer')
    {tag : Tag} {inner : List Tag} : Passes outer tag inner ↔ Passes outer' tag inner := by
  constructor
  · intro hp
    exact ⟨hp.ne_img, hp.ne_br, hp.ne_hr ∘ h.2, hp.item ∘ h.2, hp.cell ∘ h.2⟩
  · intro hp
    exact ⟨hp.ne_img, hp.ne_br, hp.ne_hr ∘ h.1, hp.item ∘ h.1, hp.cell ∘ h.1⟩

theorem passes_of_not_amongBlocks {outer : List Tag} (h : ¬AmongBlocks outer) {tag : Tag}
    {inner : List Tag} : Passes outer tag inner ↔ tag ≠ .img ∧ tag ≠ .br := by
  constructor
  · intro hp
    exact ⟨hp.ne_img, hp.ne_br⟩
  · rintro ⟨himg, hbr⟩
    exact ⟨himg, hbr, (absurd · h), (absurd · h), (absurd · h)⟩

/-- The outermost element comes first. -/
theorem isReached_cons {tag : Tag} {above : List Tag} :
    IsReached (tag :: above) ↔ Passes [] tag above ∧
      ∀ outer t inner, above = outer ++ t :: inner → Passes (tag :: outer) t inner := by
  constructor
  · intro h
    refine ⟨h [] tag above rfl, ?_⟩
    rintro outer t inner rfl
    exact h (tag :: outer) t inner rfl
  · rintro ⟨hfirst, hothers⟩ outer t inner heq
    cases outer with
    | nil =>
        obtain ⟨rfl, rfl⟩ := List.cons.inj heq
        exact hfirst
    | cons first outer =>
        rw [List.cons_append] at heq
        obtain ⟨rfl, hrest⟩ := List.cons.inj heq
        exact hothers outer t inner hrest

/-- In a line, only images and line breaks hide what is inside. -/
def PassesLine (tags : List Tag) : Prop :=
  ∀ tag ∈ tags, tag ≠ .img ∧ tag ≠ .br

/-- Where an element starts a line, nothing inside it is among blocks. -/
theorem isReached_of_line {tag : Tag} {above : List Tag}
    (hline : ∀ inner, ¬AmongBlocks (tag :: inner)) :
    IsReached (tag :: above) ↔ Passes [] tag above ∧ PassesLine above := by
  rw [isReached_cons]
  refine and_congr_right fun _ => ?_
  constructor
  · intro h t ht
    obtain ⟨outer, inner, heq⟩ := List.append_of_mem ht
    exact (passes_of_not_amongBlocks (hline outer)).1 (h outer t inner heq)
  · rintro h outer t inner rfl
    exact (passes_of_not_amongBlocks (hline outer)).2 (h t (by simp))

theorem isReached_container {tag : Tag} {above : List Tag} (htag : tag.isContainer = true) :
    IsReached (tag :: above) ↔ IsReached above := by
  have hlist : ¬(tag = .ul ∨ tag = .ol) := by
    rintro (rfl | rfl) <;> cases htag
  have hsame (inner : List Tag) : AmongBlocks (tag :: inner) ↔ AmongBlocks inner := by
    rw [amongBlocks_cons]
    simp [htag, hlist]
  have hpasses : Passes [] tag above := by
    refine ⟨?_, ?_, fun _ => ?_, fun _ h => absurd h hlist, fun _ => ?_⟩ <;> rintro rfl <;>
      cases htag
  rw [isReached_cons]
  constructor
  · rintro ⟨-, h⟩ outer t inner heq
    exact (passes_congr (hsame outer)).1 (h outer t inner heq)
  · intro h
    exact ⟨hpasses, fun outer t inner heq => (passes_congr (hsame outer)).2 (h outer t inner heq)⟩

theorem isReached_list {tag : Tag} {above : List Tag} (htag : tag = .ul ∨ tag = .ol) :
    IsReached (tag :: above) ↔ ∃ rest, above = .li :: rest ∧ IsReached rest := by
  have hcontainer : tag.isContainer ≠ true := by
    rcases htag with rfl | rfl <;> simp [Tag.isContainer]
  have hinner (inner : List Tag) : AmongBlocks (tag :: .li :: inner) ↔ AmongBlocks inner := by
    rw [amongBlocks_cons]
    simp [hcontainer, htag]
  have halone : ¬AmongBlocks [tag] := by
    rw [amongBlocks_cons]
    simp [hcontainer]
  constructor
  · intro h
    have hitem := (h [] tag above rfl).item .root htag
    cases above with
    | nil => cases hitem
    | cons first rest =>
        obtain rfl : first = .li := by simpa using hitem
        refine ⟨rest, rfl, ?_⟩
        rintro outer t inner rfl
        exact (passes_congr (hinner outer)).1 (h (tag :: .li :: outer) t inner rfl)
  · rintro ⟨rest, rfl, h⟩
    rw [isReached_cons]
    refine ⟨?_, fun outer t inner heq => ?_⟩
    · refine ⟨?_, ?_, fun _ => ?_, fun _ _ => rfl, fun _ => ?_⟩ <;> rintro rfl <;> simp at htag
    · cases outer with
      | nil =>
          obtain ⟨rfl, rfl⟩ := List.cons.inj heq
          exact (passes_of_not_amongBlocks halone).2 (by decide)
      | cons first outer =>
          rw [List.cons_append] at heq
          obtain ⟨rfl, hrest⟩ := List.cons.inj heq
          exact (passes_congr (hinner outer)).2 (h outer t inner hrest)

theorem isReached_table {above : List Tag} :
    IsReached (.table :: above) ↔ LeadsToCell above ∧ PassesLine above := by
  have hline (inner : List Tag) : ¬AmongBlocks (.table :: inner) := by
    rw [amongBlocks_cons]
    simp [Tag.isContainer]
  rw [isReached_of_line hline]
  refine and_congr_left fun _ => ⟨fun h => h.cell .root rfl, fun h => ?_⟩
  exact ⟨by decide, by decide, fun _ => by decide, fun _ => by simp, fun _ _ => h⟩

/-! ## Going from place to place -/

/-- Where a walk gets to, from a place, along elements of which each is inside the one before. -/
def Place.along : Place → List Tag → Option Place
  | place, [] => some place
  | place, tag :: tags => (place.inside tag).bind (·.along tags)

/-- Whether a walk gets along elements to a place where it shows what is there. -/
def Place.showsAlong (place : Place) (tags : List Tag) : Bool :=
  (place.along tags).any Place.shows

theorem Place.showsAlong_cons (place : Place) (tag : Tag) (tags : List Tag) :
    place.showsAlong (tag :: tags) = (place.inside tag).any (·.showsAlong tags) := by
  rw [showsAlong, along]
  cases place.inside tag <;> rfl

theorem Place.showsAlong_line (tags : List Tag) :
    Place.line.showsAlong tags = true ↔ PassesLine tags := by
  induction tags with
  | nil => simp [showsAlong, along, shows, PassesLine]
  | cons tag tags ih =>
      rw [showsAlong_cons, PassesLine, List.forall_mem_cons, ← PassesLine, ← ih, inside]
      by_cases h : tag = .br ∨ tag = .img
      · rw [if_pos h]
        rcases h with rfl | rfl <;> simp
      · rw [if_neg h]
        rw [not_or] at h
        simp [h]

/-- From a row, a walk goes on in its cells only. -/
theorem Place.showsAlong_row (tags : List Tag) :
    Place.row.showsAlong tags = true ↔
      ∃ cell rest, tags = cell :: rest ∧ (cell = .td ∨ cell = .th) ∧ PassesLine rest := by
  cases tags with
  | nil => simp [showsAlong, along, shows]
  | cons tag tags =>
      rw [showsAlong_cons, inside]
      by_cases h : tag = .td ∨ tag = .th
      · simp [h, showsAlong_line]
      · simp [h]

theorem Place.showsAlong_tableSection (tags : List Tag) :
    Place.tableSection.showsAlong tags = true ↔
      ∃ rest, tags = .tr :: rest ∧ Place.row.showsAlong rest = true := by
  cases tags with
  | nil => simp [showsAlong, along, shows]
  | cons tag tags =>
      rw [showsAlong_cons, inside]
      by_cases h : tag = .tr <;> simp [h]

/-- From a table, a walk gets to the cells. -/
theorem Place.showsAlong_table (tags : List Tag) :
    Place.table.showsAlong tags = true ↔ LeadsToCell tags ∧ PassesLine tags := by
  constructor
  · intro h
    cases tags with
    | nil => cases h
    | cons tag tags =>
        rw [showsAlong_cons] at h
        have hcases : (tag = .tr ∧ Place.row.showsAlong tags = true) ∨
            ((tag = .thead ∨ tag = .tbody ∨ tag = .tfoot) ∧
              Place.tableSection.showsAlong tags = true) := by
          cases tag <;> simp_all [inside]
        rcases hcases with ⟨rfl, hrow⟩ | ⟨hgroup, hrow⟩
        · obtain ⟨cell, rest, rfl, hcell, hrest⟩ := (showsAlong_row tags).1 hrow
          refine ⟨⟨[.tr], cell, rest, rfl, .inl rfl, hcell⟩, ?_⟩
          rw [PassesLine, List.forall_mem_cons, List.forall_mem_cons]
          exact ⟨by decide, by rcases hcell with rfl | rfl <;> decide, hrest⟩
        · obtain ⟨others, rfl, hrow⟩ := (showsAlong_tableSection tags).1 hrow
          obtain ⟨cell, rest, rfl, hcell, hrest⟩ := (showsAlong_row others).1 hrow
          refine ⟨⟨[tag, .tr], cell, rest, rfl, .inr ⟨tag, hgroup, rfl⟩, hcell⟩, ?_⟩
          rw [PassesLine, List.forall_mem_cons, List.forall_mem_cons, List.forall_mem_cons]
          refine ⟨by rcases hgroup with rfl | rfl | rfl <;> decide, by decide, ?_, hrest⟩
          rcases hcell with rfl | rfl <;> decide
  · rintro ⟨⟨row, cell, rest, rfl, hrow, hcell⟩, hline⟩
    have hrest : PassesLine rest := fun t ht => hline t (by simp [ht])
    have hcells : Place.row.showsAlong (cell :: rest) = true :=
      (showsAlong_row _).2 ⟨cell, rest, rfl, hcell, hrest⟩
    rcases hrow with rfl | ⟨group, hgroup, rfl⟩
    · rw [List.singleton_append, showsAlong_cons]
      exact hcells
    · have hsection : Place.tableSection.showsAlong (.tr :: cell :: rest) = true :=
        (showsAlong_tableSection _).2 ⟨_, rfl, hcells⟩
      rw [List.cons_append, List.singleton_append, showsAlong_cons]
      rcases hgroup with rfl | rfl | rfl <;> exact hsection

theorem Place.showsAlong_list (tags : List Tag) :
    Place.list.showsAlong tags = true ↔
      ∃ rest, tags = .li :: rest ∧ Place.block.showsAlong rest = true := by
  cases tags with
  | nil => simp [showsAlong, along, shows]
  | cons tag tags =>
      rw [showsAlong_cons, inside]
      by_cases h : tag = .li <;> simp [h]

theorem Tag.isContainer_of_blockRole {tag : Tag} (h : tag.blockRole = .container) :
    tag.isContainer = true := by
  revert h
  cases tag <;> decide

theorem Tag.eq_ul_or_eq_ol_of_blockRole {tag : Tag} (h : tag.blockRole = .list) :
    tag = .ul ∨ tag = .ol := by
  revert h
  cases tag <;> decide

theorem Tag.eq_table_of_blockRole {tag : Tag} (h : tag.blockRole = .table) : tag = .table := by
  revert h
  cases tag <;> decide

theorem Tag.eq_hr_of_blockRole {tag : Tag} (h : tag.blockRole = .rule) : tag = .hr := by
  revert h
  cases tag <;> decide

/-- Among blocks, an element whose inside is set in a line lets a walk pass through a line. -/
theorem isReached_of_inside_line {tag : Tag} {above : List Tag}
    (h : Place.block.inside tag = some .line) : IsReached (tag :: above) ↔ PassesLine above := by
  have hline (inner : List Tag) : ¬AmongBlocks (tag :: inner) := by
    rw [amongBlocks_cons]
    rintro (⟨htag, -⟩ | ⟨rfl | rfl, -⟩)
    · revert h htag
      cases tag <;> decide
    · cases h
    · cases h
  rw [isReached_of_line hline]
  refine and_iff_right ⟨?_, ?_, fun _ => ?_, fun _ => ?_, fun _ => ?_⟩
  · rintro rfl
    cases h
  · rintro rfl
    cases h
  · rintro rfl
    cases h
  · rintro (rfl | rfl) <;> cases h
  · rintro rfl
    cases h

/-- **A walk over blocks gets to a node if no element around it hides it.** -/
theorem Place.showsAlong_block (above : List Tag) :
    Place.block.showsAlong above = true ↔ IsReached above := by
  match above with
  | [] => simp [showsAlong, along, shows, IsReached]
  | tag :: above =>
      rw [showsAlong_cons]
      have hline (h : Place.block.inside tag = some .line) :
          (Place.block.inside tag).any (·.showsAlong above) = true ↔ IsReached (tag :: above) := by
        rw [h, Option.any_some, showsAlong_line, isReached_of_inside_line h]
      cases hrole : tag.blockRole
      case heading => exact hline (by simp only [inside, hrole])
      case paragraph => exact hline (by simp only [inside, hrole])
      case listing => exact hline (by simp only [inside, hrole])
      case inline =>
        by_cases hbr : tag = .br
        · subst hbr
          simpa [inside, Tag.blockRole] using fun h : IsReached _ => (h [] .br above rfl).ne_br rfl
        · exact hline (by simp only [inside, hrole, if_neg hbr])
      case container =>
        rw [isReached_container (Tag.isContainer_of_blockRole hrole), ← showsAlong_block above]
        simp only [inside, hrole, Option.any_some]
      case list =>
        simp only [inside, hrole, Option.any_some]
        rw [isReached_list (Tag.eq_ul_or_eq_ol_of_blockRole hrole), showsAlong_list]
        refine exists_congr fun rest => and_congr_right fun hrest => ?_
        exact showsAlong_block rest
      case table =>
        obtain rfl := Tag.eq_table_of_blockRole hrole
        simp only [inside, hrole, Option.any_some]
        rw [showsAlong_table, isReached_table]
      case image =>
        obtain rfl := Tag.eq_img_of_blockRole hrole
        simpa [inside, hrole] using fun h : IsReached _ => (h [] .img above rfl).ne_img rfl
      case rule =>
        obtain rfl := Tag.eq_hr_of_blockRole hrole
        simpa [inside, hrole] using fun h : IsReached _ => (h [] .hr above rfl).ne_hr .root rfl
termination_by above.length
decreasing_by
  · rw [hrest, List.length_cons, List.length_cons]
    omega
  · simp

instance (above : List Tag) : Decidable (IsReached above) :=
  decidable_of_iff _ (Place.showsAlong_block above)

/-! ## Images -/

/-- The source of a node, if it is an image with one. -/
def Node.source? (node : Node) : Option String :=
  if node.tag? = some .img then attribute? node.attributes "src" else none

theorem Node.source?_element (name : String) (attributes : List Attribute) (children : List Node) :
    Node.source? (.element name attributes children) =
      if Tag.ofName name = .img then attribute? attributes "src" else none := by
  simp [Node.source?, Node.tag?, Node.attributes]

/-- The sources of all images of a forest, reached or not. -/
def imageSources (nodes : List Node) : List String :=
  (nodesIn nodes).filterMap Node.source?

/-- The images with a source that a walk over blocks reaches, in document order. -/
def reachedImages (nodes : List Node) : List Occurrence :=
  (occurrencesIn nodes).filter fun o => o.node.source?.isSome ∧ IsReached o.above

/-- The source of an image, if a walk from a place gets to it. -/
def Occurrence.sourceFrom (place : Place) (o : Occurrence) : Option String :=
  if place.showsAlong o.above then o.node.source? else none

theorem filterMap_within (place : Place) (tag : Tag) (inside : List Occurrence) :
    (inside.map (Occurrence.within tag)).filterMap (Occurrence.sourceFrom place) =
      match place.inside tag with
      | some inner => inside.filterMap (Occurrence.sourceFrom inner)
      | none => [] := by
  rw [List.filterMap_map]
  have hwithin (o : Occurrence) : (Occurrence.sourceFrom place ∘ Occurrence.within tag) o =
      if (place.inside tag).any (·.showsAlong o.above) then o.node.source? else none := by
    rw [← Place.showsAlong_cons]
    rfl
  rw [List.filterMap_congr fun o _ => hwithin o]
  cases place.inside tag with
  | none => simp
  | some inner => rfl

/-- Where a walk shows an image, it does not get to what is inside. -/
theorem Place.inside_img {place : Place} (h : place.shows = true) : place.inside .img = none := by
  revert h
  cases place <;> decide

theorem filterMap_blockEvents (place : Place) (name : String) :
    (blockEvents place name).filterMap Event.source? = [] := by
  unfold blockEvents
  split <;> rfl

/-- The own events of an element are its source, if it is an image. -/
theorem filterMap_ownEvents (name : String) (attributes : List Attribute) (children : List Node) :
    (ownEvents (Tag.ofName name) attributes children).filterMap Event.source? =
      (Node.source? (.element name attributes children)).toList := by
  rw [Node.source?_element, ownEvents]
  by_cases himg : Tag.ofName name = .img
  · rw [if_pos himg, if_pos himg, imageEvents]
    cases attribute? attributes "src" <;> rfl
  · rw [if_neg himg, if_neg himg, anchorEvents]
    split
    · rfl
    · split <;> rfl

mutual

theorem filterMap_events (place : Place) : ∀ node,
    (events place node).filterMap Event.source? =
      node.occurrences.filterMap (Occurrence.sourceFrom place)
  | .text content => by
      simp [events, Node.occurrences, Occurrence.sourceFrom, Node.source?, Node.tag?]
  | .element name attributes children => by
      have hbelow (inner : Place) := filterMap_eventsIn inner children
      have hself : Occurrence.sourceFrom place ⟨[], .element name attributes children⟩ =
          if place.shows then Node.source? (.element name attributes children) else none := rfl
      rw [events, Node.occurrences, List.filterMap_append, List.filterMap_append,
        filterMap_blockEvents, List.nil_append, List.filterMap_cons, hself, filterMap_within]
      -- An image comes before what is inside, and its event after: but there is nothing inside.
      by_cases hshows : place.shows = true
      · rw [if_pos hshows, if_pos hshows, filterMap_ownEvents, Node.source?_element]
        by_cases himg : Tag.ofName name = .img
        · rw [himg, Place.inside_img hshows, if_pos rfl]
          cases attribute? attributes "src" <;> rfl
        · rw [if_neg himg]
          cases place.inside (Tag.ofName name) with
          | none => rfl
          | some inner => simpa using hbelow inner
      · rw [if_neg hshows, if_neg hshows]
        cases place.inside (Tag.ofName name) with
        | none => rfl
        | some inner => simpa using hbelow inner

/-- From any place, the images that a walk comes across are those that it gets to, in the order of
    the document. -/
theorem filterMap_eventsIn (place : Place) : ∀ nodes,
    (eventsIn place nodes).filterMap Event.source? =
      (occurrencesIn nodes).filterMap (Occurrence.sourceFrom place)
  | [] => rfl
  | node :: rest => by
      rw [eventsIn, occurrencesIn, List.filterMap_append, List.filterMap_append,
        filterMap_events place node, filterMap_eventsIn place rest]

end

/-- **The images that a walk comes across are those that nothing hides,** each one once and all in
document order. -/
theorem reachedSources_eq (nodes : List Node) :
    reachedSources nodes = (reachedImages nodes).filterMap (·.node.source?) := by
  rw [reachedSources, filterMap_eventsIn, reachedImages, List.filterMap_filter]
  refine List.filterMap_congr fun o _ => ?_
  by_cases h : IsReached o.above
  · rw [Occurrence.sourceFrom, if_pos ((Place.showsAlong_block o.above).2 h)]
    cases o.node.source? <;> simp [h]
  · rw [Occurrence.sourceFrom, if_neg (mt (Place.showsAlong_block o.above).1 h)]
    simp [h]

theorem mem_imageSources_of_reached {nodes : List Node} {source : String}
    (h : source ∈ reachedSources nodes) : source ∈ imageSources nodes := by
  rw [reachedSources_eq] at h
  obtain ⟨o, ho, hsource⟩ := List.mem_filterMap.1 h
  refine List.mem_filterMap.2 ⟨o.node, ?_, hsource⟩
  rw [← map_node_occurrencesIn]
  exact List.mem_map_of_mem (List.mem_filter.1 ho).1

end HtmlToLatex
