import Mathlib.Algebra.Group.Nat.Even
import HtmlToLatex.Proofs.Balance

set_option autoImplicit false

/-! # Formulas

A paragraph that opens and closes like a formula is displayed, unless there is a dollar inside:
`wrapSoleEquation_displays`. The formulas that a walk itself puts into the output are the scripts,
each between two dollars. The dollars come in pairs, but a script inside a script ends the formula
around it too early. `convertNodes_formulas` says that nothing else can unbalance a formula. -/

namespace HtmlToLatex

open Conversion

/-! ## Displayed formulas -/

theorem formulaInterior?_eq_some_iff {s interior : List Char} :
    formulaInterior? s = some interior ↔ ∃ opening ∈ [['$'], ['\\', '(']],
      ∃ closing ∈ [['$'], ['\\', ')']], s = opening ++ interior ++ closing := by
  refine ⟨formulaInterior?_spec, ?_⟩
  rintro ⟨opening, hopening, closing, hclosing, rfl⟩
  simp only [List.mem_cons, List.not_mem_nil, or_false] at hopening hclosing
  rcases hopening with rfl | rfl <;> rcases hclosing with rfl | rfl <;>
    simp [formulaInterior?, afterOpening?, beforeClosing?]

/-- A formula without a dollar inside is displayed. -/
theorem wrapSoleEquationChars_of_interior {s interior : List Char}
    (h : formulaInterior? s = some interior) (hdollar : '$' ∉ interior) :
    wrapSoleEquationChars s = '\\' :: '[' :: interior ++ ['\\', ']'] := by
  rw [wrapSoleEquationChars, h]
  exact if_neg (by simpa using hdollar)

theorem exists_interior_of_ne {s : List Char} (h : wrapSoleEquationChars s ≠ s) :
    ∃ interior, formulaInterior? s = some interior ∧ '$' ∉ interior := by
  unfold wrapSoleEquationChars at h
  cases hinterior : formulaInterior? s with
  | none => simp [hinterior] at h
  | some interior =>
      refine ⟨interior, rfl, fun hdollar => h ?_⟩
      simp [hinterior, hdollar]

/-- **What is displayed.** A text is changed if it opens with a dollar or `\(`, closes with a dollar
or `\)`, and has no dollar between the two; then these become the delimiters of a displayed formula.
What else stands between them is not looked at. -/
theorem wrapSoleEquation_displays (t u : String) :
    (wrapSoleEquation t = u ∧ u ≠ t) ↔ ∃ opening ∈ ["$", "\\("], ∃ closing ∈ ["$", "\\)"],
      ∃ interior : String, '$' ∉ interior.toList ∧ t = opening ++ interior ++ closing ∧
        u = "\\[" ++ interior ++ "\\]" := by
  constructor
  · rintro ⟨rfl, hne⟩
    have hchars : wrapSoleEquationChars t.toList ≠ t.toList := by
      intro heq
      exact hne (by rw [wrapSoleEquation, heq, String.ofList_toList])
    obtain ⟨interior, hinterior, hdollar⟩ := exists_interior_of_ne hchars
    obtain ⟨opening, hopening, closing, hclosing, hsplit⟩ := formulaInterior?_spec hinterior
    refine ⟨String.ofList opening, ?_, String.ofList closing, ?_, String.ofList interior, ?_, ?_,
      ?_⟩
    · exact List.mem_map_of_mem (f := String.ofList) hopening
    · exact List.mem_map_of_mem (f := String.ofList) hclosing
    · rwa [String.toList_ofList]
    · rw [← String.ofList_toList (s := t), hsplit, String.ofList_append, String.ofList_append]
    · rw [wrapSoleEquation, wrapSoleEquationChars_of_interior hinterior hdollar,
        ← String.toList_inj]
      simp
  · rintro ⟨opening, hopening, closing, hclosing, interior, hdollar, rfl, rfl⟩
    have hopening' := List.mem_map_of_mem (f := String.toList) hopening
    have hclosing' := List.mem_map_of_mem (f := String.toList) hclosing
    have hinterior : formulaInterior? (opening ++ interior ++ closing).toList =
        some interior.toList :=
      formulaInterior?_eq_some_iff.2 ⟨_, hopening', _, hclosing', by simp⟩
    refine ⟨?_, fun heq => ?_⟩
    · rw [wrapSoleEquation, wrapSoleEquationChars_of_interior hinterior hdollar,
        ← String.toList_inj]
      simp
    · have hchars := congrArg String.toList heq
      simp only [List.mem_cons, List.not_mem_nil, or_false] at hopening
      rcases hopening with rfl | rfl <;> simp at hchars

/-- Two formulas with a word between them are displayed as one. -/
theorem wrapSoleEquation_displays_two :
    ¬∀ t : String, wrapSoleEquation t ≠ t → ∃ opening ∈ ["$", "\\("], ∃ closing ∈ ["$", "\\)"],
      ∃ interior : String, t = opening ++ interior ++ closing ∧
        wrapSoleEquation t = "\\[" ++ interior ++ "\\]" ∧
          ∀ delimiter ∈ ["$", "\\(", "\\)"], ¬delimiter.toList <:+: interior.toList := by
  intro h
  have hresult : wrapSoleEquation "\\(a\\) and \\(b\\)" = "\\[a\\) and \\(b\\]" := by
    decide +kernel
  obtain ⟨opening, -, closing, -, interior, -, heq, hfree⟩ :=
    h "\\(a\\) and \\(b\\)" (by rw [hresult]; decide +kernel)
  have hinterior : interior.toList = "a\\) and \\(b".toList := by
    have hchars := congrArg String.toList (heq.symm.trans hresult)
    rw [String.toList_append, String.toList_append, List.append_assoc] at hchars
    have hback : interior.toList ++ "\\]".toList = "a\\) and \\(b".toList ++ "\\]".toList :=
      List.append_cancel_left hchars
    exact List.append_cancel_right hback
  refine hfree "\\(" (by decide +kernel) ⟨"a\\) and ".toList, "b".toList, ?_⟩
  rw [hinterior]
  decide +kernel

/-! ## Formulas of a text -/

/-- A formula of a text, with the dollars taken in pairs from the left: it stands between a dollar
that an even number of dollars comes before and the next dollar. -/
def IsFormula (m s : List Char) : Prop :=
  ∃ front back, s = front ++ '$' :: (m ++ '$' :: back) ∧ Even (front.count '$') ∧ '$' ∉ m

section Formulas

variable {m s t : List Char}

theorem dollar_mem_of_isFormula (h : IsFormula m s) : '$' ∈ s := by
  obtain ⟨front, back, rfl, -, -⟩ := h
  simp

/-- If the dollars of a text come in pairs, no formula reaches from it into what follows. -/
theorem isFormula_append (hs : Even (s.count '$')) :
    IsFormula m (s ++ t) ↔ IsFormula m s ∨ IsFormula m t := by
  constructor
  · rintro ⟨front, back, h, heven, hm⟩
    rcases List.append_eq_append_iff.1 h with ⟨a, rfl, rfl⟩ | ⟨c, rfl, hc⟩
    · refine .inr ⟨a, back, rfl, ?_, hm⟩
      rwa [List.count_append, Nat.even_add, iff_true_left hs] at heven
    cases c with
    | nil => exact .inr ⟨[], back, hc.symm, by simp, hm⟩
    | cons d c =>
        obtain ⟨rfl, htail⟩ := List.cons.inj hc
        rw [List.count_append, List.count_cons_self, Nat.even_add, iff_true_left heven,
          Nat.even_add_one] at hs
        -- The first dollar of the formula is in `s`. If the second one were in `t`, the dollars of
        -- `s` would be those of `front` and one more, which is odd.
        rcases List.append_eq_append_iff.1 htail with ⟨a, rfl, ha⟩ | ⟨e, rfl, he⟩
        · cases a with
          | nil => exact absurd (by simp [List.count_eq_zero.2 hm]) hs
          | cons d a =>
              obtain ⟨rfl, rfl⟩ := List.cons.inj ha
              exact .inl ⟨front, a, rfl, heven, hm⟩
        · rw [List.mem_append, not_or] at hm
          exact absurd (by simp [List.count_eq_zero.2 hm.1]) hs
  · rintro (⟨front, back, rfl, heven, hm⟩ | ⟨front, back, rfl, heven, hm⟩)
    · exact ⟨front, back ++ t, by simp, heven, hm⟩
    · refine ⟨s ++ front, back, by simp, ?_, hm⟩
      rw [List.count_append]
      exact hs.add heven

/-- Around a text without dollars there is nothing to find. -/
theorem isFormula_around {front back : List Char} (hfront : '$' ∉ front) (hback : '$' ∉ back)
    (hs : Even (s.count '$')) : IsFormula m (front ++ s ++ back) ↔ IsFormula m s := by
  have hnone : ∀ {u : List Char}, '$' ∉ u → ¬IsFormula m u := fun hu h =>
    hu (dollar_mem_of_isFormula h)
  have heven : Even (front.count '$') := by simp [List.count_eq_zero.2 hfront]
  rw [List.append_assoc, isFormula_append heven, isFormula_append hs]
  simp [hnone hfront, hnone hback]

/-- Between two dollars there is one formula if there is no dollar inside. -/
theorem isFormula_between {u : List Char} (hu : '$' ∉ u) :
    IsFormula m ('$' :: (u ++ ['$'])) ↔ m = u := by
  constructor
  · rintro ⟨front, back, h, -, hm⟩
    have hcount := congrArg (List.count '$') h
    have hnone : u.count '$' = 0 ∧ m.count '$' = 0 := by simp [List.count_eq_zero, hu, hm]
    simp only [List.count_cons_self, List.count_append, List.count_nil, hnone] at hcount
    cases front with
    | nil =>
        have htail : u ++ '$' :: [] = m ++ '$' :: back := (List.cons.inj h).2
        exact ((List.append_cons_inj_of_notMem hu List.not_mem_nil).1 htail).1.symm
    | cons c front =>
        obtain ⟨rfl, -⟩ := List.cons.inj h
        rw [List.count_cons_self] at hcount
        omega
  · rintro rfl
    exact ⟨[], [], rfl, by simp, hu⟩

end Formulas

/-! ## Scripts -/

/-- The scripts of an element, given those inside it: each by the marks that it stands under, the
outermost first. An element without children is not set as a script. -/
def underMark (tag : Tag) (children : List Node) (inner : List String) : List String :=
  match tag.scriptMark? with
  | some mark => if children.isEmpty then [] else mark :: inner.map (mark ++ ·)
  | none => inner

mutual

/-- The scripts that a walk sets if a node stands in a place, in document order. A script inside
another one has more than one mark. -/
def scripts (place : Place) : Node → List String
  | .text _ => []
  | .element name _ children =>
    match place.inside (Tag.ofName name) with
    | some inner =>
      if inner = .table ∧ opensWithoutCells children then []
      else underMark (Tag.ofName name) children (scriptsIn inner children)
    | none => []

/-- The scripts that a walk sets if sibling nodes stand in a place, in document order. -/
def scriptsIn (place : Place) : List Node → List String
  | [] => []
  | node :: rest => scripts place node ++ scriptsIn place rest

end

theorem scriptsIn_eq_flatMap (place : Place) (nodes : List Node) :
    scriptsIn place nodes = nodes.flatMap (scripts place) := by
  induction nodes with
  | nil => rfl
  | cons node rest ih => rw [scriptsIn, ih, List.flatMap_cons]

theorem underMark_of_none {tag : Tag} (h : tag.scriptMark? = none) (children : List Node)
    (inner : List String) : underMark tag children inner = inner := by
  rw [underMark, h]

theorem underMark_of_some {tag : Tag} {mark : String} (h : tag.scriptMark? = some mark)
    {children : List Node} (hne : children ≠ []) (inner : List String) :
    underMark tag children inner = mark :: inner.map (mark ++ ·) := by
  simp [underMark, h, hne]

theorem underMark_nil (tag : Tag) : underMark tag [] [] = [] := by
  unfold underMark
  split <;> rfl

theorem Tag.scriptMark?_of_blockRole {tag : Tag} (h : tag.blockRole ≠ .inline) :
    tag.scriptMark? = none := by
  revert h
  cases tag <;> decide

/-- Where nothing is shown, no script is entered. -/
theorem Tag.scriptMark?_of_inside {place inner : Place} {tag : Tag} (hshows : place.shows = false)
    (h : place.inside tag = some inner) : tag.scriptMark? = none := by
  revert h hshows
  cases place <;> cases tag <;> simp [Place.shows, Place.inside, Tag.scriptMark?]

/-- An element that is no script has the scripts below it. -/
theorem scripts_element_of_none {place : Place} {name : String} {attributes : List Attribute}
    {children : List Node} (h : (Tag.ofName name).scriptMark? = none) :
    scripts place (.element name attributes children) =
      gatherBelow scripts place (Tag.ofName name) children := by
  unfold scripts gatherBelow
  cases place.inside (Tag.ofName name) with
  | none => rfl
  | some inner => simp only [underMark_of_none h, scriptsIn_eq_flatMap]

theorem scripts_line (name : String) (attributes : List Attribute) (children : List Node) :
    scripts .line (.element name attributes children) =
      if Tag.ofName name = .br ∨ Tag.ofName name = .img then []
      else underMark (Tag.ofName name) children (children.flatMap (scripts .line)) := by
  by_cases h : Tag.ofName name = .br ∨ Tag.ofName name = .img <;>
    simp [scripts, Place.inside, h, scriptsIn_eq_flatMap]

theorem scripts_gathering : Gathering scripts where
  inside := by
    rintro place (content | ⟨name, attributes, children⟩) hshows
    · rfl
    · cases hinside : place.inside (Tag.ofName name) with
      | none => simp [scripts, hinside, Node.tag?]
      | some inner =>
          rw [scripts_element_of_none (Tag.scriptMark?_of_inside hshows hinside),
            gatherBelow_of_shows_eq_false hshows]
          rfl
  inline := by
    rintro (content | ⟨name, attributes, children⟩) hinline
    · rfl
    · have hrole : (Tag.ofName name).blockRole = .inline := by
        simpa [Node.isBlock, Tag.isBlock_eq] using hinline
      unfold scripts
      rw [Place.inside_block_of_inline hrole]
  block := fun name attributes children hrole _ _ =>
    scripts_element_of_none (Tag.scriptMark?_of_blockRole hrole)

/-! ## Dollars and scripts -/

/-- The dollars of a text are those of scripts: they come in pairs, and the formulas between them
are balanced if no script stands inside another. -/
structure DollarsMatch (scripts : List String) (s : List Char) : Prop where
  even : Even (s.count '$')
  ne_empty : ∀ script ∈ scripts, script ≠ ""
  not_mem : scripts = [] → '$' ∉ s
  balanced_iff : (∀ m, IsFormula m s → Balanced m) ↔ ∀ script ∈ scripts, script.length = 1

namespace DollarsMatch

variable {a b : List String} {s t : List Char}

theorem of_not_mem (hs : '$' ∉ s) : DollarsMatch [] s where
  even := by simp [List.count_eq_zero.2 hs]
  ne_empty := nofun
  not_mem _ := hs
  balanced_iff := iff_of_true (fun _ h => absurd (dollar_mem_of_isFormula h) hs) nofun

theorem append (hs : DollarsMatch a s) (ht : DollarsMatch b t) :
    DollarsMatch (a ++ b) (s ++ t) where
  even := by
    rw [List.count_append]
    exact hs.even.add ht.even
  ne_empty := List.forall_mem_append.2 ⟨hs.ne_empty, ht.ne_empty⟩
  not_mem h := by
    obtain ⟨ha, hb⟩ := List.append_eq_nil_iff.1 h
    rw [List.mem_append, not_or]
    exact ⟨hs.not_mem ha, ht.not_mem hb⟩
  balanced_iff := by
    simp only [isFormula_append hs.even, or_imp, forall_and, hs.balanced_iff, ht.balanced_iff,
      List.forall_mem_append]

/-- What has no dollars may be put around a text or taken away from it. -/
theorem around_iff {front back : List Char} (hfront : '$' ∉ front) (hback : '$' ∉ back) :
    DollarsMatch a (front ++ s ++ back) ↔ DollarsMatch a s := by
  have hcount : (front ++ s ++ back).count '$' = s.count '$' := by
    simp [List.count_eq_zero.2 hfront, List.count_eq_zero.2 hback]
  have hmem : '$' ∈ front ++ s ++ back ↔ '$' ∈ s := by simp [hfront, hback]
  constructor
  · intro h
    have heven := hcount ▸ h.even
    refine ⟨heven, h.ne_empty, fun ha => mt hmem.2 (h.not_mem ha), ?_⟩
    simpa only [isFormula_around hfront hback heven] using h.balanced_iff
  · intro h
    refine ⟨hcount ▸ h.even, h.ne_empty, fun ha => mt hmem.1 (h.not_mem ha), ?_⟩
    simpa only [isFormula_around hfront hback h.even] using h.balanced_iff

/-- A sole formula that is displayed has no script inside its own. -/
theorem wrapSoleEquationChars (h : DollarsMatch a s) (htidy : Tidy s) :
    DollarsMatch a (wrapSoleEquationChars s) := by
  by_cases hne : HtmlToLatex.wrapSoleEquationChars s = s
  · rwa [hne]
  obtain ⟨interior, hinterior, hdollar⟩ := exists_interior_of_ne hne
  obtain ⟨rfl, hinside⟩ := htidy.formulaInterior? hinterior
  rw [wrapSoleEquationChars_of_interior hinterior hdollar]
  have hflat := h.balanced_iff.1 fun m hm => (isFormula_between hdollar).1 hm ▸ hinside.balanced
  have hresult : '$' ∉ '\\' :: '[' :: interior ++ ['\\', ']'] := by simp [hdollar]
  obtain ⟨heven, -, -, hbalanced⟩ := of_not_mem hresult
  exact ⟨heven, h.ne_empty, fun _ => hresult, iff_of_true (hbalanced.2 nofun) hflat⟩

end DollarsMatch

/-! ## The law of scripts -/

/-- A text of the output with the scripts that are set in it. -/
def SetsScripts (scripts : List String) (t : String) : Prop :=
  Tidy t.toList ∧ DollarsMatch scripts t.toList

/-- In a line, the dollars of a script are not taken away from it. -/
def SetsScriptsInLine (scripts : List String) (t : String) : Prop :=
  SetsScripts scripts t ∧ (scripts ≠ [] → '$' ∈ t.toList)

theorem dollar_not_mem_of_isNeutral {t : String} (h : t.toList.all isNeutral = true) :
    '$' ∉ t.toList := by
  intro hmem
  cases List.all_eq_true.1 h '$' hmem

theorem setsScripts_law : BlockLaw SetsScripts where
  append := by
    intro a b t u ht hu
    rw [SetsScripts, String.toList_append]
    exact ⟨ht.1.append hu.1, ht.2.append hu.2⟩
  neutral ht := ⟨tidy_law.blocks.neutral ht,
    .of_not_mem (dollar_not_mem_of_isNeutral ht)⟩
  commandName := by
    intro name hname
    refine ⟨tidy_law.blocks.commandName hname, .of_not_mem ?_⟩
    rw [isNeutralName, Bool.and_eq_true] at hname
    simpa using dollar_not_mem_of_isNeutral hname.2
  group := by
    intro a t ht
    have hwrapped : DollarsMatch a (['{'] ++ t.toList ++ ['}']) :=
      (DollarsMatch.around_iff (by decide) (by decide)).2 ht.2
    rw [SetsScripts, toList_group]
    exact ⟨ht.1.wrapped, hwrapped⟩
  environment := by
    intro a t name hname ht
    have hdollar := not_mem_of_alpha (List.all_eq_true.1 hname) (d := '$') rfl
    refine ⟨tidy_law.environment (a := a) hname ht.1, ?_⟩
    rw [String.toList_append, String.toList_append, toList_begin, toList_end]
    exact (DollarsMatch.around_iff (by simp [beginMark, inBraces, hdollar])
      (by simp [endMark, inBraces, hdollar])).2 ht.2
  trim := by
    intro a t ht
    rw [SetsScripts, toList_trim]
    have hblank : ∀ {c}, isBlank c = true → '$' ∉ [c] := by
      intro c hc hmem
      cases List.mem_singleton.1 hmem
      cases hc
    refine ⟨ht.1.trimChars, trimChars_keeps (fun c s hc h => ?_) (fun s d hd h => ?_) ht.2⟩
    · have hback : DollarsMatch a ([c] ++ s ++ []) := by simpa using h
      exact (DollarsMatch.around_iff (hblank hc) List.not_mem_nil).1 hback
    · have hfront : DollarsMatch a ([] ++ s ++ [d]) := h
      exact (DollarsMatch.around_iff List.not_mem_nil (hblank hd)).1 hfront
  separator := ⟨tidy_law.blocks.separator, .of_not_mem (by decide)⟩
  rowEnd := ⟨tidy_law.rowEnd, .of_not_mem (by decide)⟩
  soleEquation := by
    intro a t ht
    rw [SetsScripts, wrapSoleEquation, String.toList_ofList]
    exact ⟨ht.1.wrapSoleEquationChars, ht.2.wrapSoleEquationChars ht.1⟩

theorem setsScriptsInLine_law : LineLaw SetsScriptsInLine where
  append := by
    intro a b t u ht hu
    refine ⟨setsScripts_law.append ht.1 hu.1, fun h => ?_⟩
    rw [String.toList_append, List.mem_append]
    by_cases ha : a = []
    · exact .inr (hu.2 fun hb => h (by rw [ha, hb, List.append_nil]))
    · exact .inl (ht.2 ha)
  neutral ht := ⟨setsScripts_law.neutral ht, absurd rfl⟩
  commandName hname := ⟨setsScripts_law.commandName hname, absurd rfl⟩
  group := by
    intro a t ht
    refine ⟨setsScripts_law.group ht.1, fun ha => ?_⟩
    rw [toList_group]
    simp [inBraces, ht.2 ha]
  environment := by
    intro a t name hname ht
    refine ⟨setsScripts_law.environment hname ht.1, fun ha => ?_⟩
    simp [ht.2 ha]

/-- A script is balanced if no other is inside. Otherwise it ends before its braces are closed,
where the one inside starts. -/
theorem setsScriptsInLine_script {tag : Tag} {mark : String} (hmark : tag.scriptMark? = some mark)
    (attributes : List Attribute) {a : List String} {t : String} (h : SetsScriptsInLine a t) :
    SetsScriptsInLine (mark :: a.map (mark ++ ·)) (styled tag attributes t) := by
  obtain ⟨⟨htidy, hdollars⟩, hmem⟩ := h
  obtain ⟨c, rfl, hc, hdollar⟩ : ∃ c, mark = String.singleton c ∧ isInert c = true ∧ c ≠ '$' := by
    unfold Tag.scriptMark? at hmark
    split at hmark <;> cases hmark
    · exact ⟨'_', rfl, by decide⟩
    · exact ⟨'^', rfl, by decide⟩
  have hchars : (styled tag attributes t).toList =
      '$' :: ((c :: inBraces t.toList) ++ ['$']) := by
    simp [styled_script hmark, toList_group]
  rw [SetsScriptsInLine, SetsScripts, hchars]
  have hinside : Tidy (c :: inBraces t.toList) := .inert hc htidy.wrapped
  refine ⟨⟨.inert rfl (hinside.append (.inert rfl .nil)), ?_, ?_, nofun, ?_⟩, by simp⟩
  · have hcount : ('$' :: ((c :: inBraces t.toList) ++ ['$'])).count '$' =
        t.toList.count '$' + 2 := by
      simp [inBraces, hdollar]
    rw [hcount]
    exact hdollars.even.add ⟨1, rfl⟩
  · simp
  · by_cases ha : a = []
    · subst ha
      have hfree : '$' ∉ c :: inBraces t.toList := by
        simp [inBraces, hdollars.not_mem rfl, Ne.symm hdollar]
      simp only [isFormula_between hfree, forall_eq, List.map_nil]
      exact iff_of_true hinside.balanced (by simp)
    · obtain ⟨front, back, hsplit, hfront⟩ := List.eq_append_cons_of_mem (hmem ha)
      refine iff_of_false (fun hbalanced => ?_) fun hlength => ?_
      · -- The first formula has the opening brace of the script and not the closing one.
        obtain ⟨-, hopen, hclose⟩ := isInert_iff.1 hc
        have hformula : IsFormula (c :: '{' :: front)
            ('$' :: (c :: inBraces t.toList ++ ['$'])) := by
          refine ⟨[], back ++ ['}', '$'], by simp [inBraces, hsplit], by simp, ?_⟩
          simp [hfront, Ne.symm hdollar]
        have hopened : front.count '{' + 1 = front.count '}' := by
          simpa [hopen, hclose] using (hbalanced _ hformula).opened_eq_closed
        have hclosed : front.count '}' ≤ front.count '{' := by
          simpa [hsplit] using htidy.balanced.closed_le_opened front.length
        omega
      · obtain ⟨script, rest, rfl⟩ := List.exists_cons_of_ne_nil ha
        have hone := hlength (String.singleton c ++ script) (by simp)
        rw [String.length_append, String.length_singleton, Nat.add_eq_left,
          String.length_eq_zero_iff] at hone
        exact hdollars.ne_empty script (List.mem_cons_self ..) hone

/-! ## Whole conversions -/

/-- What the output is made from has no dollars, and no part in the nesting of the output either:
texts are free of backslashes, braces and hashes, and all else is free of backslashes and braces. -/
def HasDollarFreeSources (setting : Setting) (nodes : List Node) : Prop :=
  HasSources (fun c => isSafe c && c != '$') (fun c => isInert c && c != '$')
    (fun c => isInert c && c != '$') setting nodes

section Sources

variable {setting : Setting} {nodes : List Node}

/-- Running text has dollars only where the source has them. -/
theorem dollar_not_mem_normalizeChars (options : Options) {s : List Char}
    (hs : ∀ c ∈ s, isSafe c = true) (hdollar : '$' ∉ s) : '$' ∉ normalizeChars options s := by
  have hspelling : ∀ {d spelling}, reserved? d = some spelling → '$' ∉ spelling := by
    intro d spelling h
    unfold reserved? at h
    split at h <;> cases h <;> decide
  have hbasic : ∀ d ∈ basicCharacters, '$' ∉ (reserved? d).getD [d] := by
    simp [basicCharacters, reserved?]
  intro hmem
  rcases mem_normalizeChars hs hmem with h | h | ⟨d, spelling, hd, h⟩ | ⟨d, hd, h⟩
  · exact hdollar h
  · cases h
  · exact hspelling hd h
  · exact hbasic d hd h

theorem setsScriptsInLine_of_inert {t : String}
    (ht : t.toList.all (fun c => isInert c && c != '$') = true) : SetsScriptsInLine [] t := by
  rw [List.all_eq_true] at ht
  have hinert : ∀ c ∈ t.toList, isInert c = true := fun c hc =>
    (Bool.and_eq_true_iff.1 (ht c hc)).1
  refine ⟨⟨.of_inert hinert, .of_not_mem fun hmem => ?_⟩, absurd rfl⟩
  cases ht '$' hmem

theorem dollarFree_inPaths : Url.InPaths fun c => (isInert c && c != '$') = true where
  slash := rfl
  colon := rfl
  percent := rfl
  digit := by decide

/-- An image sets no scripts. -/
theorem HasDollarFreeSources.image (h : HasDollarFreeSources setting nodes) {node : Node}
    (hnode : node ∈ nodesIn nodes) (himg : node.tag? = some .img) :
    Yields (convertImage setting node.attributes) fun image =>
      Rendered SetsScriptsInLine [] image.toList := by
  have hsize : ∀ size ∈ setting.options.imageWidth.toList ++ setting.options.imageHeight.toList,
      SetsScriptsInLine [] size := fun size hsize => setsScriptsInLine_of_inert (h.sizes size hsize)
  refine setsScriptsInLine_law.convertImage_yields (fun size heq => hsize size (by simp [heq]))
    (fun size heq => hsize size (by simp [heq])) fun source hsource n => ?_
  exact setsScriptsInLine_law.group (setsScriptsInLine_of_inert
    (h.imagePath dollarFree_inPaths rfl hnode himg hsource n))

theorem HasDollarFreeSources.followsInLine (h : HasDollarFreeSources setting nodes) {node : Node}
    (hnode : node ∈ nodesIn nodes) :
    node.FollowsInLine SetsScriptsInLine setting (scripts .line) := by
  cases node with
  | text content =>
      have hcontent := List.all_eq_true.1 (h.texts _ hnode content rfl)
      have hsafe : ∀ c ∈ content.toList, isSafe c = true := fun c hc =>
        (Bool.and_eq_true_iff.1 (hcontent c hc)).1
      have hdollar : '$' ∉ content.toList := fun hmem => by cases hcontent '$' hmem
      rw [Node.FollowsInLine, scripts, SetsScriptsInLine, SetsScripts, normalizeText,
        String.toList_ofList]
      exact ⟨⟨(Escaped.normalizeChars _ hsafe).tidy,
        .of_not_mem (dollar_not_mem_normalizeChars _ hsafe hdollar)⟩, absurd rfl⟩
  | element name attributes children =>
      intro hchildren
      rw [scripts_line]
      refine setsScriptsInLine_law.convertInline_element
        (fun himg => h.image hnode (congrArg some himg)) ?_ (fun hne t ht => ?_) hchildren
      · rintro rfl
        rw [List.flatMap_nil, underMark_nil]
        exact setsScriptsInLine_law.empty
      · cases hmark : (Tag.ofName name).scriptMark? with
        | some mark =>
            rw [underMark_of_some hmark hne]
            exact setsScriptsInLine_script hmark attributes ht
        | none =>
            rw [underMark_of_none hmark]
            refine setsScriptsInLine_law.styled hmark (fun _ target htarget => ?_) ht
            exact setsScriptsInLine_law.group
              (setsScriptsInLine_of_inert (h.targets _ hnode target htarget))

theorem HasDollarFreeSources.follows (h : HasDollarFreeSources setting nodes) {node : Node}
    (hnode : node ∈ nodesIn nodes) :
    node.Follows SetsScriptsInLine SetsScripts setting scripts := by
  refine ⟨h.followsInLine hnode, fun himg => ?_, fun hcode t ht => ?_⟩
  · have hnone : scripts .block node = [] := by
      cases node with
      | text content => rfl
      | element name attributes children =>
          have himg := Option.some.inj himg
          simp [scripts, Place.inside, himg, Tag.blockRole]
    rw [hnone]
    exact (h.image hnode himg).map fun image himage => himage.imp fun h => h.1
  · have hchildren : scripts .block node = node.children.flatMap (scripts .line) := by
      cases node with
      | text content => rfl
      | element name attributes children =>
          have hcode := Option.some.inj hcode
          simp [scripts, Place.inside, hcode, Tag.blockRole, underMark, Tag.scriptMark?,
            scriptsIn_eq_flatMap, Node.children]
    rw [hchildren]
    exact setsScripts_law.environmentOnLines rfl ht.1

end Sources

/-- **Formulas of the output.** If the sources have no dollars, and no part in the nesting of the
output, the dollars of the output come in pairs. What stands between the two of a pair is balanced
for all of them exactly if no script that is set stands inside another. -/
theorem convertNodes_formulas {setting : Setting} {nodes : List Node}
    (h : HasDollarFreeSources setting nodes) (w : World) :
    let output := ((convertNodes setting nodes).run w).1.toList
    Even (output.count '$') ∧ ((∀ m, IsFormula m output → Balanced m) ↔
      ∀ script ∈ scriptsIn .block nodes, script.length = 1) := by
  have hlaw : WalkLaw SetsScriptsInLine SetsScripts :=
    ⟨setsScriptsInLine_law, setsScripts_law, And.left⟩
  have houtput := convertNodes_gathers hlaw scripts_gathering (fun node hnode => h.follows hnode) w
  rw [← scriptsIn_eq_flatMap] at houtput
  exact ⟨houtput.2.even, houtput.2.balanced_iff⟩

/-- Scripts beside each other, and a paragraph that is one script and is displayed. -/
theorem convertNodes_formulas_beside :
    let setting : Setting := { ids := fun _ => "id" }
    let sub : Node := .element "sub" [] [.text "1"]
    let sup : Node := .element "sup" [] [.element "b" [] [.text "50%"]]
    let nodes : List Node :=
      [.element "p" [] [.text "x", sub, sup], .element "p" [] [sub], .element "code" [] [sup]]
    let output := ((convertNodes setting nodes).run {}).1.toList
    HasDollarFreeSources setting nodes ∧ Even (output.count '$') ∧
      ∀ m, IsFormula m output → Balanced m := by
  intro setting sub sup nodes output
  have hid : "id".toList.all (fun c => isInert c && c != '$') = true := rfl
  have hsources : HasDollarFreeSources setting nodes :=
    ⟨by decide, by decide, by decide, by decide, fun _ => hid⟩
  obtain ⟨heven, hbalanced⟩ := convertNodes_formulas hsources {}
  exact ⟨hsources, heven, hbalanced.2 (by decide +kernel)⟩

/-- A script inside another one ends its formula right after the brace that the outer one opens. -/
theorem convertNodes_unbalanced :
    let setting : Setting := { ids := fun _ => "id" }
    let nodes : List Node :=
      [.element "sub" [] [.text "a", .element "sup" [] [.text "b"]]]
    let output := ((convertNodes setting nodes).run {}).1.toList
    HasDollarFreeSources setting nodes ∧ ∃ m, IsFormula m output ∧ ¬Balanced m := by
  intro setting nodes output
  have hid : "id".toList.all (fun c => isInert c && c != '$') = true := rfl
  have houtput : output = "$_\x7ba$^\x7bb\x7d$\x7d$".toList := by decide +kernel
  refine ⟨⟨by decide, by decide, by decide, by decide, fun _ => hid⟩, "_\x7ba".toList, ?_, ?_⟩
  · rw [houtput]
    exact ⟨[], "^\x7bb\x7d$\x7d$".toList, by decide +kernel, by decide, by decide⟩
  · intro hbalanced
    have hcount := hbalanced.opened_eq_closed
    revert hcount
    decide

end HtmlToLatex
