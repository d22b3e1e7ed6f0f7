import Mathlib.Data.List.DropRight
import HtmlToLatex.Proofs.Containers
import HtmlToLatex.Proofs.RunningText

set_option autoImplicit false

/-! # Formatting blanks

Sources are indented: texts of blanks stand between blocks, list items, rows and cells. Next to a
block such a text is trimmed away with the end of its run, or is a run that does not show, and among
the children of lists and tables it is not looked at. `BlankInserted` says where, at any depth,
a blank text may be put in, and `convert_blankInserted` that nothing comes of it. -/

namespace HtmlToLatex

/-! ## Blank texts -/

/-- A text of blanks only. -/
def IsBlankText (t : String) : Prop :=
  ∀ c ∈ t.toList, isBlank c = true

instance (t : String) : Decidable (IsBlankText t) :=
  List.decidableBAll _ _

theorem trim_eq_empty_of_blank {t : String} (ht : IsBlankText t) : trim t = "" := by
  rw [trim, trimChars_eq_nil_of_blank ht, String.ofList_nil]

theorem trim_blank_append {blank : String} (hblank : IsBlankText blank) (t : String) :
    trim (blank ++ t) = trim t := by
  rw [trim, trim, trimChars, trimChars, String.toList_append, List.dropWhile_append_of_pos hblank]

theorem trim_append_blank {blank : String} (hblank : IsBlankText blank) (t : String) :
    trim (t ++ blank) = trim t := by
  have hreverse : ∀ c ∈ blank.toList.reverse, isBlank c = true :=
    fun c hc => hblank c (List.mem_reverse.1 hc)
  rw [trim, trim, trimChars, trimChars, String.toList_append, List.dropWhile_append]
  split
  next hall =>
    -- All of the text is blank, and so is what was put behind it.
    have hnil : blank.toList.dropWhile isBlank = [] := List.dropWhile_eq_nil_iff.2 hblank
    rw [List.isEmpty_iff.1 hall, hnil]
  · rw [List.reverse_append, List.dropWhile_append_of_pos hreverse]

/-- A trimmed text has no blank at its ends. -/
theorem trim_trim (t : String) : trim (trim t) = trim t := by
  have hstart : trimChars t.toList <+: t.toList.dropWhile isBlank :=
    List.rdropWhile_prefix isBlank _
  have hfront : (trimChars t.toList).dropWhile isBlank = trimChars t.toList := by
    rw [List.dropWhile_eq_self_iff]
    intro hlength
    have hlong := Nat.lt_of_lt_of_le hlength hstart.length_le
    rw [hstart.getElem hlength]
    exact List.dropWhile_eq_self_iff.1 (List.dropWhile_idempotent _ _) hlong
  rw [trim, toList_trim, trimChars, hfront, trimChars, List.reverse_reverse,
    List.dropWhile_idempotent, ← trimChars, ← trim]

theorem reserved?_of_isBlank {c : Char} (hc : isBlank c = true) : reserved? c = none := by
  unfold reserved?
  split
  iterate 5 cases hc
  rfl

theorem escapeReservedAfter_of_blank (before : Option Char) {s : List Char}
    (hs : ∀ c ∈ s, isBlank c = true) : escapeReservedAfter before s = s := by
  induction s generalizing before with
  | nil => rfl
  | cons c rest ih =>
      rw [List.forall_mem_cons] at hs
      rw [escapeReservedAfter, reserved?_of_isBlank hs.1, ih _ hs.2, List.singleton_append]

/-- The running text of a blank text is blank. -/
theorem isBlankText_normalizeText (options : Options) {blank : String}
    (hblank : IsBlankText blank) : IsBlankText (normalizeText options blank) := by
  have hbreak : ∀ c ∈ breakReplacement options, isBlank c = true := by
    unfold breakReplacement
    split <;> exact List.all_eq_true.1 rfl
  generalize hkept : dropTabs (replaceBreaks (breakReplacement options) blank.toList) = kept
  have hclean : ∀ c ∈ kept, isBlank c = true := by
    intro c hc
    rw [← hkept] at hc
    rcases mem_replaceBreaksFrom (List.mem_filter.1 hc).1 with h | h
    · exact hbreak c h
    · exact hblank c h
  -- Without backslashes, the passes after escaping find nothing to do either.
  have hbackslash : '\\' ∉ kept := fun h => by cases hclean _ h
  have hdecode : decodeEntityChars kept = kept := by
    simpa [decodeEntityChars_nil] using decodeEntityChars_append_of_not_mem hbackslash []
  have hpair : ∀ b, replacePair '\\' b '$' kept = kept := by
    intro b
    simpa [replacePair] using replacePair_append_of_not_mem hbackslash []
  unfold IsBlankText
  rw [normalizeText, String.toList_ofList, normalizeChars, hkept, escapeReservedChars,
    escapeReservedAfter_of_blank none hclean, hdecode, chooseDelimiters]
  split
  · rwa [preferDollarChars, hpair, hpair]
  · exact hclean

/-! ## Blank texts among blocks -/

section Blocks

variable (setting : Setting)

/-- Converts sibling nodes as blocks and keeps those that show. -/
def convertFilled (run : Option String) (nodes : List Node) : Conversion (List String) := do
  return filledBlocks (← convertBlocksAfter setting run nodes)

theorem convertFilled_block (run : Option String) {block : Node} (hblock : block.isBlock = true)
    (rest : List Node) :
    convertFilled setting run (block :: rest) = do
      let shown ← convertBlock setting block
      let after ← convertFilled setting none rest
      return filledBlocks (run.map trim).toList ++ filledBlocks shown.toList ++ after := by
  rw [convertFilled, convertBlocksAfter, if_pos hblock]
  simp only [convertFilled, bind_assoc, pure_bind, filledBlocks_append]

theorem convertFilled_inline (run : Option String) {node : Node} (hnode : node.isBlock = false)
    (rest : List Node) :
    convertFilled setting run (node :: rest) =
      convertInline setting node >>= fun shown =>
        convertFilled setting (some (run.getD "" ++ shown)) rest := by
  rw [convertFilled, convertBlocksAfter, if_neg (by simp [hnode])]
  simp only [convertFilled, bind_assoc]

/-- A run shows the same with blanks before it. -/
theorem convertFilled_blank_append {blank : String} (hblank : IsBlankText blank) (text : String)
    (nodes : List Node) :
    convertFilled setting (some (blank ++ text)) nodes =
      convertFilled setting (some text) nodes := by
  induction nodes generalizing text with
  | nil => simp only [convertFilled, convertBlocksAfter, Option.map_some, trim_blank_append hblank]
  | cons node rest ih =>
      by_cases hnode : node.isBlock = true
      · simp only [convertFilled_block setting _ hnode, Option.map_some, trim_blank_append hblank]
      · rw [Bool.not_eq_true] at hnode
        simp only [convertFilled_inline setting _ hnode, Option.getD_some, String.append_assoc, ih]

/-- A run of blanks is no different from none. -/
theorem convertFilled_blank {blank : String} (hblank : IsBlankText blank) (nodes : List Node) :
    convertFilled setting (some blank) nodes = convertFilled setting none nodes := by
  have hflush : filledBlocks ((some blank).map trim).toList =
      filledBlocks ((none : Option String).map trim).toList := by
    simp [filledBlocks, trim_eq_empty_of_blank hblank]
  cases nodes with
  | nil => simp only [convertFilled, convertBlocksAfter, pure_bind, hflush]
  | cons node rest =>
      by_cases hnode : node.isBlock = true
      · simp only [convertFilled_block setting _ hnode, hflush]
      · rw [Bool.not_eq_true] at hnode
        simp only [convertFilled_inline setting _ hnode, Option.getD_some, Option.getD_none,
          String.empty_append, convertFilled_blank_append setting hblank]

/-- A blank text at the start of siblings does not show. -/
theorem convertFilled_cons_blank {blank : String} (hblank : IsBlankText blank)
    (nodes : List Node) :
    convertFilled setting none (.text blank :: nodes) = convertFilled setting none nodes := by
  rw [convertFilled_inline setting none rfl, convertInline, pure_bind, Option.getD_none,
    String.empty_append]
  exact convertFilled_blank setting (isBlankText_normalizeText _ hblank) nodes

/-- A blank text at the end of siblings does not show. -/
theorem convertFilled_concat_blank {blank : String} (hblank : IsBlankText blank)
    (run : Option String) (nodes : List Node) :
    convertFilled setting run (nodes ++ [.text blank]) = convertFilled setting run nodes := by
  have hnormal := isBlankText_normalizeText setting.options hblank
  induction nodes generalizing run with
  | nil =>
      rw [List.nil_append, convertFilled_inline setting run rfl, convertInline, pure_bind]
      cases run with
      | none =>
          rw [Option.getD_none, String.empty_append]
          exact convertFilled_blank setting hnormal []
      | some text =>
          simp only [convertFilled, convertBlocksAfter, Option.getD_some, Option.map_some,
            trim_append_blank hnormal]
  | cons node rest ih =>
      rw [List.cons_append]
      by_cases hnode : node.isBlock = true
      · simp only [convertFilled_block setting _ hnode, ih]
      · rw [Bool.not_eq_true] at hnode
        simp only [convertFilled_inline setting _ hnode, ih]

/-- Where a walk may be cut, so may it be when only the blocks that show are kept. -/
theorem convertFilled_append {front back : List Node} (hparted : Parted front back) :
    convertFilled setting none (front ++ back) = do
      let before ← convertFilled setting none front
      let after ← convertFilled setting none back
      return before ++ after := by
  have happend := convertBlocks_append setting hparted
  simp only [convertBlocks] at happend
  simp only [convertFilled, happend, bind_assoc, pure_bind, filledBlocks_append]

/-- A block among siblings, with those that show before it and after it. -/
theorem convertFilled_around (front : List Node) (block : Node) (hblock : block.isBlock = true)
    (back : List Node) :
    convertFilled setting none (front ++ block :: back) = do
      let before ← convertFilled setting none front
      let shown ← convertBlock setting block
      let after ← convertFilled setting none back
      return before ++ filledBlocks shown.toList ++ after := by
  have hparted : Parted front (block :: back) := .inr hblock
  have hnone : filledBlocks ((none : Option String).map trim).toList = [] := rfl
  simp only [convertFilled_append setting hparted, convertFilled_block setting none hblock, hnone,
    List.nil_append, bind_assoc, pure_bind, List.append_assoc]

/-- **Between two siblings that no run goes across, a blank text does not show.** -/
theorem convertFilled_insert_blank {blank : String} (hblank : IsBlankText blank)
    {front back : List Node} (hparted : Parted front back) :
    convertFilled setting none (front ++ .text blank :: back) =
      convertFilled setting none (front ++ back) := by
  rw [convertFilled_append setting hparted]
  rcases hparted with hfront | hback
  · have hblankBack : Parted front (.text blank :: back) := .inl hfront
    rw [convertFilled_append setting hblankBack, convertFilled_cons_blank setting hblank]
  · have hblankFront : Parted (front ++ [.text blank]) back := .inr hback
    rw [List.append_cons, convertFilled_append setting hblankFront,
      convertFilled_concat_blank setting hblank]

end Blocks

/-! ## Chosen children -/

theorem tagged_append (tags : List Tag) (front back : List Node) :
    tagged tags (front ++ back) = tagged tags front ++ tagged tags back :=
  List.filter_append ..

theorem tagged_text (tags : List Tag) (content : String) (rest : List Node) :
    tagged tags (.text content :: rest) = tagged tags rest := rfl

theorem tableRows_append (front back : List Node) :
    tableRows (front ++ back) = tableRows front ++ tableRows back := by
  simp only [tableRows, elementsOf, List.filter_append, List.flatMap_append]

theorem tableRows_text (content : String) (rest : List Node) :
    tableRows (.text content :: rest) = tableRows rest := rfl

/-- The rows of a table go one child after the other. -/
theorem tableRows_cons (node : Node) (rest : List Node) :
    tableRows (node :: rest) = tableRows [node] ++ tableRows rest :=
  tableRows_append [node] rest

theorem convertItems_append (setting : Setting) (front back : List Node) :
    convertItems setting (front ++ back) = do
      let before ← convertItems setting front
      return before ++ (← convertItems setting back) := by
  induction front with
  | nil => simp only [convertItems, List.nil_append, pure_bind, bind_pure]
  | cons node rest ih =>
      cases node with
      | text content => simp only [List.cons_append, convertItems, ih]
      | element name attributes children =>
          simp only [List.cons_append, convertItems, ih]
          split
          · simp only [bind_assoc, pure_bind, List.cons_append]
          · rfl

/-! ## Where blanks do not show -/

/-- Whether a blank text between siblings that stand in a place does not show: among blocks if it
    is at the start, at the end or next to a block, and anywhere in lists and tables. -/
def Place.hidesBlank (front back : List Node) : Place → Prop
  | .block => Parted front back
  | .line => False
  | .list | .table | .tableSection | .row => True

/-- Siblings that stand in a place, and the same siblings with a blank text put in, between them or
    deeper down, where it does not show. -/
inductive BlankInserted : Place → List Node → List Node → Prop where
  | here {place front back blank} (hplace : place.hidesBlank front back)
      (hblank : IsBlankText blank) :
      BlankInserted place (front ++ back) (front ++ .text blank :: back)
  | inside {place inner name attributes front children children' back}
      (hinner : place.inside (Tag.ofName name) = some inner)
      (hchildren : BlankInserted inner children children') :
      BlankInserted place (front ++ .element name attributes children :: back)
        (front ++ .element name attributes children' :: back)

/-- In a line all blanks show. -/
theorem not_blankInserted_line {nodes nodes' : List Node} :
    ¬BlankInserted .line nodes nodes' := by
  intro h
  generalize hplace : Place.line = place at h
  induction h with
  | here h _ =>
      subst hplace
      exact h
  | @inside place inner name attributes front children children' back hinner _ ih =>
      subst hplace
      simp only [Place.inside, Option.ite_none_left_eq_some, Option.some.injEq] at hinner
      exact ih hinner.2

variable (setting : Setting)

/-- Siblings that stand in a place are converted alike, effects included. -/
def ConvertedAlike (nodes nodes' : List Node) : Place → Prop
  | .block => convertFilled setting none nodes = convertFilled setting none nodes'
  | .line => convertInlines setting nodes = convertInlines setting nodes'
  | .list => convertItems setting nodes = convertItems setting nodes'
  | .table =>
    (tableRows nodes).mapM (convertCells setting) = (tableRows nodes').mapM (convertCells setting)
  | .tableSection =>
    ((tagged [.tr] nodes).map Node.children).mapM (convertCells setting) =
      ((tagged [.tr] nodes').map Node.children).mapM (convertCells setting)
  | .row => convertCells setting nodes = convertCells setting nodes'

variable {setting} {nodes nodes' children children' : List Node}

/-- Where only the blocks that show count, they may be converted alike. -/
theorem convertBlocks_congr {α : Type} (f : List String → α)
    (hf : ∀ blocks, f (filledBlocks blocks) = f blocks)
    (h : ConvertedAlike setting nodes nodes' .block) :
    (do return f (← convertBlocks setting nodes)) =
      (do return f (← convertBlocks setting nodes')) := by
  have hfilled : ∀ siblings, (do return f (← convertBlocks setting siblings)) =
      (do return f (← convertFilled setting none siblings)) := by
    intro siblings
    simp only [convertBlocks, convertFilled, bind_assoc, pure_bind, hf]
  rw [hfilled, hfilled, show convertFilled setting none nodes = _ from h]

theorem filledBlocks_filledBlocks (blocks : List String) :
    filledBlocks (filledBlocks blocks) = filledBlocks blocks := by
  simp [filledBlocks]

theorem joinBlocks_filledBlocks (blocks : List String) :
    joinBlocks (filledBlocks blocks) = joinBlocks blocks :=
  joinBlocks_congr (filledBlocks_filledBlocks blocks)

theorem convertNodes_congr (h : ConvertedAlike setting nodes nodes' .block) :
    convertNodes setting nodes = convertNodes setting nodes' :=
  convertBlocks_congr joinBlocks joinBlocks_filledBlocks h

/-- The blocks of a body that do not show have no part in the document either. -/
theorem joinBlocks_wrapDocument (options : Options) (body : List String) :
    joinBlocks (wrapDocument options (filledBlocks body)) =
      joinBlocks (wrapDocument options body) := by
  refine joinBlocks_congr ?_
  unfold wrapDocument
  split
  · simp only [filledBlocks_append, filledBlocks_filledBlocks]
  · exact filledBlocks_filledBlocks body

/-- Of the blocks, only containers, lists and tables have children that are not set in a line. -/
theorem Place.inside_block_cases {tag : Tag} {inner : Place}
    (hinner : Place.inside .block tag = some inner) (hline : inner ≠ .line) :
    (tag.blockRole = .container ∧ inner = .block) ∨ (tag.blockRole = .list ∧ inner = .list) ∨
      (tag.blockRole = .table ∧ inner = .table) := by
  revert hinner hline
  cases tag <;> cases inner <;> decide

/-- An element with children that are converted alike is converted alike. -/
theorem convertBlock_congr {name : String} {inner : Place}
    (hinner : Place.inside .block (Tag.ofName name) = some inner) (hline : inner ≠ .line)
    (h : ConvertedAlike setting children children' inner) (attributes : List Attribute) :
    (Tag.ofName name).isBlock = true ∧
      convertBlock setting (.element name attributes children) =
        convertBlock setting (.element name attributes children') := by
  rw [convertBlock_element, convertBlock_element, Tag.isBlock_eq]
  obtain ⟨hrole, rfl⟩ | ⟨hrole, rfl⟩ | ⟨hrole, rfl⟩ := Place.inside_block_cases hinner hline
  all_goals
    rw [hrole]
    refine ⟨rfl, bind_congr fun _ => ?_⟩
  · exact convertBlocks_congr (some ∘ joinBlocks)
      (fun blocks => congrArg some (joinBlocks_filledBlocks blocks)) h
  · simp only [convertList, show convertItems setting children = _ from h]
  · simp only [convertTable, show (tableRows children).mapM (convertCells setting) = _ from h]

/-- An item with children that are converted alike is converted alike. -/
theorem convertItems_item {name : String} (hli : Tag.ofName name = .li)
    (attributes : List Attribute) (children rest : List Node) :
    convertItems setting (.element name attributes children :: rest) = do
      let text ← convertNodes setting children
      return Latex.item text :: (← convertItems setting rest) := by
  simp only [convertItems, hli, if_true, convertNodes, convertBlocks, bind_assoc, pure_bind]

/-- What a child gives to the rows of a table. -/
theorem tableRows_element (name : String) (attributes : List Attribute) (children : List Node) :
    tableRows [.element name attributes children] =
      match Tag.ofName name with
      | .tr => [children]
      | .thead | .tbody | .tfoot => (tagged [.tr] children).map Node.children
      | _ => [] := by
  simp only [tableRows, elementsOf, Node.name?, Node.tag?, Node.children, List.filter_cons,
    Option.isSome_some, if_true, List.filter_nil, List.flatMap_cons, List.flatMap_nil,
    List.append_nil]
  cases Tag.ofName name <;> rfl

/-- A child of a table with children that are converted alike gives rows that are. -/
theorem convertRows_congr {name : String} {inner : Place}
    (hinner : Place.inside .table (Tag.ofName name) = some inner)
    (h : ConvertedAlike setting children children' inner) (attributes : List Attribute) :
    (tableRows [.element name attributes children]).mapM (convertCells setting) =
      (tableRows [.element name attributes children']).mapM (convertCells setting) := by
  rw [tableRows_element, tableRows_element]
  generalize Tag.ofName name = tag at hinner ⊢
  cases tag
  case tr =>
    cases hinner
    have hrow : convertCells setting children = convertCells setting children' := h
    simp only [List.mapM_cons, hrow]
  case thead | tbody | tfoot =>
    cases hinner
    exact h
  all_goals rfl

/-- A blank text that does not show leaves what is converted, and all effects, as they are. -/
theorem BlankInserted.convertedAlike {place : Place} (h : BlankInserted place nodes nodes') :
    ConvertedAlike setting nodes nodes' place := by
  induction h with
  | @here place front back blank hplace hblank =>
      cases place with
      | block => exact (convertFilled_insert_blank setting hblank hplace).symm
      | line => exact hplace.elim
      | list => simp only [ConvertedAlike, convertItems_append, convertItems]
      | table => simp only [ConvertedAlike, tableRows_append, tableRows_text]
      | tableSection => simp only [ConvertedAlike, tagged_append, tagged_text]
      | row => simp only [ConvertedAlike, convertCells, tagged_append, tagged_text]
  | @inside place inner name attributes front children children' back hinner hchildren ih =>
      have hline : inner ≠ .line := by
        rintro rfl
        exact not_blankInserted_line hchildren
      cases place with
      | block =>
          obtain ⟨hblock, hequal⟩ := convertBlock_congr hinner hline ih attributes
          have hcut := fun siblings =>
            convertFilled_around setting front (.element name attributes siblings) hblock back
          simp only [ConvertedAlike, hcut, hequal]
      | line =>
          simp only [Place.inside, Option.ite_none_left_eq_some, Option.some.injEq] at hinner
          exact absurd hinner.2.symm hline
      | list =>
          simp only [Place.inside, Option.ite_none_right_eq_some, Option.some.injEq] at hinner
          obtain ⟨hli, rfl⟩ := hinner
          have hitem := convertNodes_congr ih
          simp only [ConvertedAlike, convertItems_append, convertItems_item hli, hitem]
      | table =>
          have hrows := convertRows_congr hinner ih attributes
          simp only [ConvertedAlike, tableRows_append, tableRows_cons _ back, List.mapM_append,
            hrows]
      | tableSection =>
          simp only [Place.inside, Option.ite_none_right_eq_some, Option.some.injEq] at hinner
          obtain ⟨htr, rfl⟩ := hinner
          have hrow : convertCells setting children = convertCells setting children' := ih
          have htagged : ∀ siblings, tagged [.tr] (.element name attributes siblings :: back) =
              .element name attributes siblings :: tagged [.tr] back := by
            intro siblings
            simp [tagged, Node.tag?, htr]
          simp only [ConvertedAlike, tagged_append, htagged, List.map_append, List.map_cons,
            List.mapM_append, List.mapM_cons, Node.children, hrow]
      | row =>
          simp only [Place.inside, Option.ite_none_right_eq_some, Option.some.injEq] at hinner
          exact absurd hinner.2.symm hline

/-- **Formatting blanks do not matter.** A blank text put in where it does not show, at whatever
depth, changes neither the text nor any effect, under any options. -/
theorem convert_blankInserted (setting : Setting) {nodes nodes' : List Node}
    (h : BlankInserted .block nodes nodes') :
    convert setting nodes' = convert setting nodes :=
  (convertBlocks_congr (fun body => joinBlocks (wrapDocument setting.options body))
    (joinBlocks_wrapDocument setting.options) h.convertedAlike).symm

/-- Blanks between the cells of a row do not show. -/
theorem convert_blankInserted_row :
    let setting : Setting := { ids := fun _ => "id" }
    let cell (text : String) : Node := .element "td" [] [.text text]
    let table (row : List Node) : Node := .element "table" [] [.element "tr" [] row]
    let compact : List Node := [.text "a", table [cell "b", cell "c"]]
    let spaced : List Node := [.text "a", table [cell "b", .text "\n \u00a0", cell "c"]]
    convert setting spaced = convert setting compact ∧
      ((convert setting spaced).run {}).1 =
        "a\n\n\\begin\x7btabular\x7d\x7b|c|c|\x7d\n\t\\hline\n\tb & c \\\\\n\t\\hline\n\t"
          ++ "\\end\x7btabular\x7d" := by
  intro setting cell table compact spaced
  have hblank : IsBlankText "\n \u00a0" := by decide
  have hrow : BlankInserted .row [cell "b", cell "c"] [cell "b", .text "\n \u00a0", cell "c"] :=
    @BlankInserted.here .row [cell "b"] [cell "c"] _ trivial hblank
  have htable : BlankInserted .block compact spaced :=
    @BlankInserted.inside .block .table "table" [] [.text "a"] _ _ [] rfl
      (@BlankInserted.inside .table .row "tr" [] [] _ _ [] rfl hrow)
  have hequal := convert_blankInserted setting htable
  rw [hequal]
  exact ⟨rfl, by decide +kernel⟩

/-- A row outside of a table is no row: its children are set in a line, where blanks show. -/
theorem convert_blank_outside_table :
    let setting : Setting := { ids := fun _ => "id" }
    let cell (text : String) : Node := .element "td" [] [.text text]
    let compact : List Node := [.element "tr" [] [cell "a", cell "b"]]
    let spaced : List Node := [.element "tr" [] [cell "a", .text " ", cell "b"]]
    IsBlankText " " ∧ ((convert setting compact).run {}).1 = "ab" ∧
      ((convert setting spaced).run {}).1 = "a b" := by
  decide +kernel

end HtmlToLatex
