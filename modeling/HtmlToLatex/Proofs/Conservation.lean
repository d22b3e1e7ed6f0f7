import HtmlToLatex.Proofs.ImageName
import HtmlToLatex.Proofs.Rendering
import HtmlToLatex.Proofs.RunningText

set_option autoImplicit false

/-! # Conservation of text

Markup is written in ASCII, and ASCII characters and blanks of a text may be dropped or rewritten.
All others are kept: those of the output are those of the visible texts, in the same order. -/

namespace HtmlToLatex

open Conversion

/-- A character outside ASCII that is no blank. -/
def isDistinctive (c : Char) : Bool :=
  0x80 ≤ c.toNat && !isBlank c

/-- The characters of a text that are no blanks and not in ASCII, in order. -/
def distinctive (t : String) : List Char :=
  t.toList.filter isDistinctive

/-- A text in ASCII. -/
def IsAscii (t : String) : Prop :=
  ∀ c ∈ t.toList, c.toNat < 0x80

instance (t : String) : Decidable (IsAscii t) :=
  List.decidableBAll _ _

/-! ## Texts without distinctive characters -/

theorem distinctive_append (t u : String) :
    distinctive (t ++ u) = distinctive t ++ distinctive u := by
  simp [distinctive]

theorem not_isDistinctive_of_ascii {c : Char} (h : c.toNat < 0x80) : isDistinctive c = false := by
  have hless : decide (0x80 ≤ c.toNat) = false := decide_eq_false (by omega)
  rw [isDistinctive, hless, Bool.false_and]

theorem filter_eq_nil_of_ascii {s : List Char} (h : ∀ c ∈ s, c.toNat < 0x80) :
    s.filter isDistinctive = [] := by
  rw [List.filter_eq_nil_iff]
  intro c hc
  simp [not_isDistinctive_of_ascii (h c hc)]

theorem ascii_of_isAlpha {c : Char} (h : c.isAlpha = true) : c.toNat < 0x80 := by
  have hbounds := isAlpha_bounds h
  omega

theorem IsAscii.distinctive_eq_nil {t : String} (h : IsAscii t) : distinctive t = [] :=
  filter_eq_nil_of_ascii h

theorem not_isDistinctive_of_isBlank {c : Char} (h : isBlank c = true) :
    isDistinctive c = false := by
  simp [isDistinctive, h]

/-! ## Trimming -/

theorem filter_dropWhile_isBlank (s : List Char) :
    (s.dropWhile isBlank).filter isDistinctive = s.filter isDistinctive := by
  induction s with
  | nil => rfl
  | cons c r ih =>
      rw [List.dropWhile_cons]
      split
      next hblank =>
        rw [ih, List.filter_cons_of_neg (by simp [not_isDistinctive_of_isBlank hblank])]
      · rfl

theorem distinctive_trim (t : String) : distinctive (trim t) = distinctive t := by
  rw [distinctive, toList_trim, trimChars, List.filter_reverse, filter_dropWhile_isBlank,
    List.filter_reverse, List.reverse_reverse, filter_dropWhile_isBlank, distinctive]

/-! ## Running text -/

theorem filter_replaceBreaksFrom {replacement : List Char}
    (hreplacement : replacement.filter isDistinctive = []) (inRun : Bool) (s : List Char) :
    (replaceBreaksFrom replacement inRun s).filter isDistinctive = s.filter isDistinctive := by
  induction s generalizing inRun with
  | nil => rfl
  | cons c r ih =>
      unfold replaceBreaksFrom
      split
      next hbreak =>
        have hc : isDistinctive c = false := by
          simp only [isLineBreak, Bool.or_eq_true, beq_iff_eq] at hbreak
          rcases hbreak with rfl | rfl <;> decide
        rw [List.filter_append, ih, List.filter_cons_of_neg (by simp [hc])]
        split
        · rfl
        · rw [hreplacement, List.nil_append]
      · rw [List.filter_cons, List.filter_cons, ih]

theorem filter_dropTabs (s : List Char) :
    (dropTabs s).filter isDistinctive = s.filter isDistinctive := by
  rw [dropTabs, List.filter_filter]
  refine List.filter_congr fun c _ => ?_
  by_cases hc : c = '\t'
  · subst hc
    decide
  · simp [hc]

/-- Reserved characters and their spellings are in ASCII. -/
theorem ascii_of_reserved? {c : Char} {spelling : List Char} (h : reserved? c = some spelling) :
    c.toNat < 0x80 ∧ ∀ d ∈ spelling, d.toNat < 0x80 := by
  unfold reserved? at h
  split at h <;> cases h <;> simp

theorem filter_escapeReservedAfter (before : Option Char) (s : List Char) :
    (escapeReservedAfter before s).filter isDistinctive = s.filter isDistinctive := by
  induction s generalizing before with
  | nil => rfl
  | cons c r ih =>
      unfold escapeReservedAfter
      rw [List.filter_append, ih]
      cases hc : reserved? c with
      | none => rw [← List.filter_append, List.singleton_append]
      | some spelling =>
          obtain ⟨hself, hspelling⟩ := ascii_of_reserved? hc
          dsimp only
          rw [List.filter_cons_of_neg (by simp [not_isDistinctive_of_ascii hself])]
          split
          · rw [filter_eq_nil_of_ascii (by simpa using hself), List.nil_append]
          · rw [filter_eq_nil_of_ascii hspelling, List.nil_append]

theorem filter_basicCharacters : basicCharacters.filter isDistinctive = [] := by decide

/-- Without a hash, all that is decoded is in ASCII or blank, as are the references. -/
theorem filter_decodeEntityChars {s : List Char} (hhash : '#' ∉ s) :
    (decodeEntityChars s).filter isDistinctive = s.filter isDistinctive := by
  induction s using decodeEntityChars.induct with
  | case1 => rw [decodeEntityChars_nil]
  | case2 c r d rest hread ih =>
      -- The reference and what it stands for are both without distinctive characters.
      obtain ⟨name, hsplit, halpha, hd⟩ := exists_name_of_readReference? hhash hread
      have hrest : '#' ∉ rest := by
        intro hmem
        exact hhash (by simp [hsplit, hmem])
      have hname : name.filter isDistinctive = [] := by
        refine filter_eq_nil_of_ascii fun e he => ?_
        exact ascii_of_isAlpha (halpha e he)
      have hdecoded : ((reserved? d).getD [d]).filter isDistinctive = [] := by
        cases hr : reserved? d with
        | some spelling => exact filter_eq_nil_of_ascii (ascii_of_reserved? hr).2
        | none =>
            have hnot := List.filter_eq_nil_iff.1 filter_basicCharacters d hd
            simpa using hnot
      have hopening : isDistinctive '\\' = false ∧ isDistinctive '&' = false := by decide
      have hsemicolon : isDistinctive ';' = false := by decide
      rw [decodeEntityChars_of_some hread, List.filter_append, hdecoded, ih hrest, hsplit]
      simp [hopening, hsemicolon, hname]
  | case3 c r hread ih =>
      rw [List.mem_cons, not_or] at hhash
      rw [decodeEntityChars_of_none hread, List.filter_cons, List.filter_cons, ih hhash.2]

theorem filter_replacePair {a b c : Char} (ha : isDistinctive a = false)
    (hb : isDistinctive b = false) (hc : isDistinctive c = false) (s : List Char) :
    (replacePair a b c s).filter isDistinctive = s.filter isDistinctive := by
  induction s using replacePair.induct a b with
  | case1 x y r hpair ih =>
      obtain ⟨rfl, rfl⟩ := hpair
      rw [replacePair, if_pos ⟨rfl, rfl⟩]
      simp [ha, hb, hc, ih]
  | case2 x y r hpair ih =>
      rw [replacePair, if_neg hpair, List.filter_cons, ih, ← List.filter_cons]
  | case3 s hs => rw [replacePair]; exact hs

theorem hash_not_mem_escape {s : List Char} (before : Option Char) (h : '#' ∉ s) :
    '#' ∉ escapeReservedAfter before s := by
  induction s generalizing before with
  | nil => exact List.not_mem_nil
  | cons c r ih =>
      rw [List.mem_cons, not_or] at h
      unfold escapeReservedAfter
      rw [List.mem_append, not_or]
      refine ⟨?_, ih _ h.2⟩
      have hself : '#' ∉ [c] := by simpa using h.1
      cases hc : reserved? c with
      | none => exact hself
      | some spelling =>
          dsimp only
          split
          · exact hself
          · exact hash_not_mem_of_reserved? hc fun heq => h.1 heq.symm

/-- Normalizing keeps the distinctive characters of a text without a hash. -/
theorem distinctive_normalizeText (options : Options) {content : String}
    (hhash : '#' ∉ content.toList) :
    distinctive (normalizeText options content) = distinctive content := by
  have hreplacement : (breakReplacement options).filter isDistinctive = [] := by
    unfold breakReplacement
    split <;> decide
  have hbreaks : '#' ∉ dropTabs (replaceBreaks (breakReplacement options) content.toList) := by
    intro hmem
    rcases mem_replaceBreaksFrom (List.mem_filter.1 hmem).1 with h | h
    · revert h
      unfold breakReplacement
      split <;> decide
    · exact hhash h
  have hescaped : ((escapeReservedChars (dropTabs (replaceBreaks (breakReplacement options)
      content.toList)))).filter isDistinctive = distinctive content := by
    rw [escapeReservedChars, filter_escapeReservedAfter, filter_dropTabs, replaceBreaks,
      filter_replaceBreaksFrom hreplacement, distinctive]
  -- Decoding comes after escaping, which may have brought in no hash of its own.
  have hdecoded := filter_decodeEntityChars (hash_not_mem_escape none hbreaks)
  rw [distinctive, normalizeText, String.toList_ofList, normalizeChars, chooseDelimiters,
    ← hescaped]
  split
  · have hbackslash : isDistinctive '\\' = false := by decide
    have hdollar : isDistinctive '$' = false := by decide
    rw [preferDollarChars, filter_replacePair hbackslash (by decide) hdollar,
      filter_replacePair hbackslash (by decide) hdollar]
    exact hdecoded
  · exact hdecoded

/-- A text that is one formula and the displayed formula differ in the delimiters. -/
theorem distinctive_wrapSoleEquation (t : String) :
    distinctive (wrapSoleEquation t) = distinctive t := by
  unfold distinctive wrapSoleEquation
  rw [String.toList_ofList]
  unfold wrapSoleEquationChars
  split
  next interior hinterior =>
    split
    · rfl
    · obtain ⟨opening, hopening, closing, hclosing, heq⟩ := formulaInterior?_spec hinterior
      have hdelimiters : opening.filter isDistinctive = [] ∧ closing.filter isDistinctive = [] := by
        simp only [List.mem_cons, List.not_mem_nil, or_false] at hopening hclosing
        rcases hopening with rfl | rfl <;> rcases hclosing with rfl | rfl <;> decide
      have hdisplay : ['\\', '['].filter isDistinctive = [] ∧
          ['\\', ']'].filter isDistinctive = [] := by decide
      have hcons : '\\' :: '[' :: interior ++ ['\\', ']'] =
          ['\\', '['] ++ interior ++ ['\\', ']'] := rfl
      rw [heq, hcons]
      simp only [List.filter_append, hdelimiters, hdisplay]
  · rfl

/-! ## The law of conservation -/

/-- Texts are shown in a text of the output if both have the same distinctive characters. -/
def Conserved (shown : List String) (t : String) : Prop :=
  distinctive t = shown.flatMap distinctive

theorem IsAscii.conserved {t : String} (h : IsAscii t) : Conserved [] t :=
  h.distinctive_eq_nil

theorem conserved_append {a b : List String} {t u : String} (ht : Conserved a t)
    (hu : Conserved b u) : Conserved (a ++ b) (t ++ u) := by
  unfold Conserved
  rw [distinctive_append, ht, hu, List.flatMap_append]

/-- Markup in ASCII on both sides of a text. -/
theorem conserved_between {a : List String} {opening t closing : String}
    (hopening : IsAscii opening) (ht : Conserved a t) (hclosing : IsAscii closing) :
    Conserved a (opening ++ t ++ closing) := by
  simpa using conserved_append (conserved_append hopening.conserved ht) hclosing.conserved

theorem IsAscii.append {t u : String} (ht : IsAscii t) (hu : IsAscii u) : IsAscii (t ++ u) := by
  intro c hc
  rw [String.toList_append] at hc
  exact (List.mem_append.1 hc).elim (ht c) (hu c)

theorem IsAscii.group {t : String} (h : IsAscii t) : IsAscii (Latex.group t) :=
  (IsAscii.append (by decide) h).append (by decide)

theorem isAscii_of_plain {t : String} (h : t.toList.all isPlain = true) : IsAscii t := by
  intro c hc
  have hplain := List.all_eq_true.1 h c hc
  simp only [isPlain, Bool.and_eq_true, decide_eq_true_eq] at hplain
  exact hplain.1.1.1

theorem conserved_law : OutputLaw Conserved where
  append := conserved_append
  trim := by
    intro a t ht
    rw [Conserved, distinctive_trim, ht]
  plain := fun ht => (isAscii_of_plain ht).conserved
  commandName := by
    intro name hname
    rw [isCommandName, Bool.and_eq_true] at hname
    have hbackslash : IsAscii "\\" := by decide
    exact (hbackslash.append (isAscii_of_plain hname.1)).conserved
  rowEnd := rfl
  group := fun ht => conserved_between (by decide) ht (by decide)
  environment := by
    intro a t name hname ht
    have hascii : IsAscii name := fun c hc => ascii_of_isAlpha (List.all_eq_true.1 hname c hc)
    have hbegin : IsAscii ("\\" ++ "begin") := by decide
    have hend : IsAscii ("\\" ++ "end") := by decide
    exact conserved_between (hbegin.append hascii.group) ht (hend.append hascii.group)
  soleEquation := by
    intro a t ht
    rw [Conserved, distinctive_wrapSoleEquation, ht]

/-! ## Whole conversions -/

theorem mem_of_attribute? {attributes : List Attribute} {name value : String}
    (h : attribute? attributes name = some value) : ∃ a ∈ attributes, a.value = value := by
  obtain ⟨a, ha, hvalue⟩ := Option.map_eq_some_iff.1 h
  exact ⟨a, List.mem_reverse.1 (List.mem_of_find?_eq_some ha), hvalue⟩

theorem ascii_inPaths : Url.InPaths fun c => c.toNat < 0x80 where
  slash := by decide
  colon := by decide
  percent := by decide
  digit := by decide

/-- **The text is conserved.** If attributes, options and ids are in ASCII and no text has a hash,
the distinctive characters of the output are those of the visible texts, in document order. -/
theorem convertNodes_conserves (setting : Setting) (nodes : List Node)
    (hattributes : ∀ node ∈ nodesIn nodes, ∀ a ∈ node.attributes, IsAscii a.value)
    (htexts : ∀ node ∈ nodesIn nodes, ∀ content ∈ node.text?, '#' ∉ content.toList)
    (hoptions : ∀ text ∈ setting.options.texts, IsAscii text)
    (hids : ∀ n, IsAscii (setting.ids n)) (w : World) :
    distinctive ((convertNodes setting nodes).run w).1 =
      (visibleTextsIn .block nodes).flatMap distinctive := by
  refine convertNodes_yields conserved_law (fun node hnode => ?_) w
  cases node with
  | text content =>
      rw [Node.Fits, Conserved, distinctive_normalizeText _ (htexts _ hnode content rfl)]
      simp
  | element name attributes children =>
      have hvalue : ∀ key value, attribute? attributes key = some value → IsAscii value := by
        intro key value h
        obtain ⟨a, ha, rfl⟩ := mem_of_attribute? h
        exact hattributes _ hnode a ha
      refine ⟨fun _ target h => (hvalue _ _ h).conserved, fun _ => ?_⟩
      refine convertImage_yields conserved_law (fun text h => (hoptions text h).conserved) ?_
      intro source hsource n
      have hdefault : IsAscii defaultExtension := by decide
      have hname : IsAscii (localName setting.options.autogenImageNames source (setting.ids n)) :=
        forall_mem_localName ascii_inPaths (by decide) hdefault _ (hvalue _ _ hsource) (hids n)
      exact hname.conserved

/-- Text outside the cells of a table and a table whose first row has no cells are not shown. -/
theorem convertNodes_conserves_tables :
    let cell (text : String) : Node := .element "td" [] [.text text]
    let nodes : List Node :=
      [.text "é & ", .element "a" [⟨"href", "a:b"⟩] [.text "ß"],
        .element "table" []
          [.text "ü", .element "tr" [] [cell " ä|", .element "img" [⟨"src", "x"⟩] []]],
        .element "table" [] [.element "tr" [] [], .element "tr" [] [cell "ö"]]]
    distinctive ((convertNodes { ids := fun _ => "id" } nodes).run {}).1 = ['é', 'ß', 'ä'] := by
  intro cell nodes
  have hid : IsAscii "id" := by decide
  have hconserved := convertNodes_conserves { ids := fun _ => "id" } nodes (by decide) (by decide)
    (by decide) (fun _ => hid) {}
  rw [hconserved]
  decide +kernel

end HtmlToLatex
