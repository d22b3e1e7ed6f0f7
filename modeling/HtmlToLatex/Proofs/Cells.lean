import HtmlToLatex.Proofs.Balance
import HtmlToLatex.Proofs.BlankText
import HtmlToLatex.Proofs.Guarded

set_option autoImplicit false

/-! # Cells

`splitRows` and `splitCells` take the rows of a table apart that were written one after the other:
a row ends where its terminator stands, and a cell at an ampersand that neither follows a backslash
nor stands in braces. `CellText` is a grammar of texts in which neither of the two can be found, and
what a walk sets in a line is such a text. -/

namespace HtmlToLatex

open Conversion

/-! ## Splitting -/

/-- How many braces are open after a character. -/
def depthAfter (depth : Nat) (c : Char) : Nat :=
  if c = '{' then depth + 1 else if c = '}' then depth - 1 else depth

/-- Splits a row at the ampersands outside all braces that do not follow a backslash. It is given
    how many braces are open before the row, and whether a backslash stands before it. -/
def splitCells (depth : Nat) (escaped : Bool) : List Char → List (List Char)
  | [] => [[]]
  | c :: r =>
    if c = '&' ∧ depth = 0 ∧ escaped = false then [] :: splitCells depth false r
    else (splitCells (depthAfter depth c) (c == '\\') r).modifyHead (c :: ·)

/-- What a row ends in. -/
def rowTerminator : List Char :=
  Latex.rowEnd.toList

/-- Splits a text at the ends of its rows. -/
def splitRows : List Char → List (List Char)
  | [] => [[]]
  | c :: r =>
    if rowTerminator <+: c :: r then [] :: splitRows (r.drop (rowTerminator.length - 1))
    else (splitRows r).modifyHead (c :: ·)
termination_by s => s.length
decreasing_by
  · rw [List.length_drop, List.length_cons]
    omega
  · rw [List.length_cons]
    omega

theorem splitRows_nil : splitRows [] = [[]] := by
  rw [splitRows]

theorem splitRows_terminator (rest : List Char) :
    splitRows (rowTerminator ++ rest) = [] :: splitRows rest := by
  have hcons : rowTerminator = ' ' :: rowTerminator.tail := rfl
  have hstart : rowTerminator <+: ' ' :: (rowTerminator.tail ++ rest) := List.prefix_append _ _
  rw [hcons, List.cons_append, splitRows, if_pos hstart]
  rfl

/-- A terminator is a space before two backslashes. -/
theorem splitRows_cons {c : Char} {r : List Char} (h : c ≠ ' ' ∨ ¬['\\', '\\'] <+: r) :
    splitRows (c :: r) = (splitRows r).modifyHead (c :: ·) := by
  have hnot : ¬rowTerminator <+: c :: r := by
    intro hstart
    have hcons : rowTerminator = ' ' :: (['\\', '\\'] ++ rowTerminator.drop 3) := rfl
    rw [hcons, List.cons_prefix_cons] at hstart
    rcases h with hc | hr
    · exact hc hstart.1.symm
    · exact hr ((List.prefix_append _ _).trans hstart.2)
  rw [splitRows, if_neg hnot]

/-! ## Texts of cells -/

/-- A character that may follow a backslash in a cell. -/
def isCellControl (c : Char) : Bool :=
  c.isAlpha || c == '%' || c == '&'

/-- Texts as the cells of a table hold them. Braces are nested and no backslash follows another one;
    an ampersand stands in braces or follows a backslash, unless ampersands are let in. -/
inductive CellText : Bool → List Char → Prop where
  | nil {amp} : CellText amp []
  | inert {amp c rest} (hc : isInert c = true) (hamp : c = '&' → amp = true)
      (hrest : CellText amp rest) : CellText amp (c :: rest)
  | control {amp c rest} (hc : isCellControl c = true) (hrest : CellText amp rest) :
      CellText amp ('\\' :: c :: rest)
  | group {amp body rest} (hbody : CellText true body) (hrest : CellText amp rest) :
      CellText amp (inBraces body ++ rest)

namespace CellText

variable {amp : Bool} {s t : List Char}

theorem append (hs : CellText amp s) (ht : CellText amp t) : CellText amp (s ++ t) := by
  induction hs with
  | nil => exact ht
  | inert hc hamp _ ih => exact .inert hc hamp (ih ht)
  | control hc _ ih => exact .control hc (ih ht)
  | group hbody _ _ ih =>
      rw [List.append_assoc]
      exact .group hbody (ih ht)

theorem letIn (h : CellText amp s) : CellText true s := by
  induction h with
  | nil => exact .nil
  | inert hc _ _ ih => exact .inert hc (fun _ => rfl) ih
  | control hc _ ih => exact .control hc ih
  | group hbody _ _ ih => exact .group hbody ih

theorem of_inert (hs : ∀ c ∈ s, isInert c = true) (hamp : '&' ∈ s → amp = true) :
    CellText amp s := by
  induction s with
  | nil => exact .nil
  | cons c s ih =>
      rw [List.forall_mem_cons] at hs
      have hrest := ih hs.2 fun hmem => hamp (List.mem_cons_of_mem c hmem)
      exact .inert hs.1 (fun hc => hamp (hc ▸ List.mem_cons_self ..)) hrest

theorem wrapped (h : CellText true s) : CellText amp (inBraces s) := by
  simpa using CellText.group h CellText.nil

/-- A command name and what is in braces after it. -/
theorem command {c : Char} (name : List Char) (hc : isCellControl c = true)
    (hname : ∀ d ∈ name, isInert d = true) (hamp : '&' ∈ name → amp = true)
    (ht : CellText amp t) : CellText amp ('\\' :: c :: (name ++ t)) :=
  .control hc ((of_inert hname hamp).append ht)

/-! ### Trimming -/

theorem isInert_of_isCellControl {c : Char} (hc : isCellControl c = true) : isInert c = true := by
  rw [isInert_iff]
  refine ⟨?_, ?_, ?_⟩ <;> rintro rfl <;> cases hc

theorem not_isBlank_of_isCellControl {c : Char} (hc : isCellControl c = true) :
    isBlank c = false := by
  rw [Bool.eq_false_iff]
  intro hblank
  rw [isCellControl, Bool.or_eq_true, Bool.or_eq_true] at hc
  rcases hc with (halpha | hpercent) | hamp
  · have hbounds := isAlpha_bounds halpha
    simp only [isBlank, Bool.or_eq_true, Bool.and_eq_true, decide_eq_true_eq, beq_iff_eq] at hblank
    omega
  · rw [beq_iff_eq.1 hpercent] at hblank
    cases hblank
  · rw [beq_iff_eq.1 hamp] at hblank
    cases hblank

theorem of_cons {c : Char} (h : CellText amp (c :: s)) (hc : isBlank c = true) :
    CellText amp s := by
  generalize ht : c :: s = t at h
  cases h with
  | nil => cases ht
  | inert _ _ hrest =>
      cases ht
      exact hrest
  | control =>
      obtain ⟨rfl, -⟩ := List.cons.inj ht
      cases hc
  | group =>
      obtain ⟨rfl, -⟩ := List.cons.inj ht
      cases hc

/-- No token but a single inert character ends in a blank. -/
theorem of_concat {d : Char} (h : CellText amp (s ++ [d])) (hd : isBlank d = true) :
    CellText amp s := by
  generalize ht : s ++ [d] = t at h
  induction h generalizing s with
  | nil => simp at ht
  | inert hc hamp _ ih =>
      cases s with
      | nil => exact .nil
      | cons c s =>
          cases ht
          exact .inert hc hamp (ih rfl)
  | @control _ c rest hc _ ih =>
      have hlast : ['\\', c].getLast? ≠ some d := by
        rintro heq
        cases heq
        cases (not_isBlank_of_isCellControl hc).symm.trans hd
      have htoken : ['\\', c] ++ rest = s ++ [d] := ht.symm
      obtain ⟨back, rfl, rfl⟩ := eq_append_of_append_eq_concat htoken hlast
      exact .control hc (ih rfl)
  | @group _ body rest hbody _ _ ih =>
      have hlast : (inBraces body).getLast? ≠ some d := by
        rw [← List.nil_append (inBraces body), getLast?_append_inBraces]
        rintro heq
        cases heq
        cases hd
      obtain ⟨back, rfl, rfl⟩ := eq_append_of_append_eq_concat ht.symm hlast
      exact .group hbody (ih rfl)

theorem trimChars (h : CellText amp s) : CellText amp (trimChars s) :=
  trimChars_keeps (fun _ _ hblank h => h.of_cons hblank) (fun _ _ hblank h => h.of_concat hblank) h

/-! ### Splitting them -/

/-- A text of a cell does not start with two backslashes, unless it is empty and what follows it
does. -/
theorem not_doubled (h : CellText amp s) {rest : List Char} (hrest : ¬['\\', '\\'] <+: rest) :
    ¬['\\', '\\'] <+: s ++ rest := by
  cases h with
  | nil => exact hrest
  | inert hc =>
      intro hstart
      exact (isInert_iff.1 hc).1 (List.cons_prefix_cons.1 hstart).1.symm
  | control hc =>
      intro hstart
      have hsecond := (List.cons_prefix_cons.1 (List.cons_prefix_cons.1 hstart).2).1
      exact (isInert_iff.1 (isInert_of_isCellControl hc)).1 hsecond.symm
  | group =>
      intro hstart
      cases (List.cons_prefix_cons.1 hstart).1

/-- No row ends in the text of a cell. -/
theorem splitRows_append (h : CellText amp s) {rest : List Char}
    (hrest : ¬['\\', '\\'] <+: rest) :
    splitRows (s ++ rest) = (splitRows rest).modifyHead (s ++ ·) := by
  induction h generalizing rest with
  | nil => exact (congrFun List.modifyHead_id _).symm
  | inert _ _ hback ih =>
      rw [List.cons_append, splitRows_cons (.inr (hback.not_doubled hrest)), ih hrest,
        List.modifyHead_modifyHead]
      rfl
  | control _ hback ih =>
      rw [List.cons_append, List.cons_append, splitRows_cons (.inl (by decide)),
        splitRows_cons (.inr (hback.not_doubled hrest)), ih hrest, List.modifyHead_modifyHead,
        List.modifyHead_modifyHead]
      rfl
  | @group _ body back _ _ ihbody ihback =>
      have hclosing : ¬['\\', '\\'] <+: '}' :: (back ++ rest) := by
        intro hstart
        cases (List.cons_prefix_cons.1 hstart).1
      simp only [inBraces, List.cons_append, List.append_assoc, List.nil_append]
      rw [splitRows_cons (.inl (by decide)), ihbody hclosing, splitRows_cons (.inl (by decide)),
        ihback hrest]
      simp only [List.modifyHead_modifyHead]
      rfl

/-- No cell ends in the text of a cell, provided that ampersands are let in only in braces. -/
theorem splitCells_append (h : CellText amp s) (depth : Nat) (hdepth : amp = true → 0 < depth)
    (rest : List Char) :
    splitCells depth false (s ++ rest) = (splitCells depth false rest).modifyHead (s ++ ·) := by
  induction h generalizing depth rest with
  | nil => exact (congrFun List.modifyHead_id _).symm
  | @inert _ c back hc hamp _ ih =>
      obtain ⟨hbackslash, hopen, hclose⟩ := isInert_iff.1 hc
      have hkept : ¬(c = '&' ∧ depth = 0 ∧ false = false) := by
        rintro ⟨hc, hzero, -⟩
        have hpositive := hdepth (hamp hc)
        omega
      have hback := ih depth hdepth rest
      rw [List.cons_append, splitCells, if_neg hkept, depthAfter, if_neg hopen, if_neg hclose,
        beq_false_of_ne hbackslash, hback, List.modifyHead_modifyHead]
      rfl
  | @control _ c back hc _ ih =>
      obtain ⟨hbackslash, hopen, hclose⟩ := isInert_iff.1 (isInert_of_isCellControl hc)
      have hback := ih depth hdepth rest
      rw [List.cons_append, List.cons_append, splitCells, if_neg (by simp), splitCells,
        if_neg (by simp), beq_false_of_ne hbackslash]
      simp only [depthAfter, hopen, hclose, if_false, Char.reduceEq]
      rw [hback, List.modifyHead_modifyHead, List.modifyHead_modifyHead]
      rfl
  | @group _ body back _ _ ihbody ihback =>
      -- Inside the braces one more is open, and behind them as many as before.
      have hbody := ihbody (depth + 1) (fun _ => Nat.succ_pos _) ('}' :: (back ++ rest))
      have hclosing : splitCells (depth + 1) false ('}' :: (back ++ rest)) =
          (splitCells depth false (back ++ rest)).modifyHead ('}' :: ·) := rfl
      have hopening : splitCells depth false ('{' :: (body ++ '}' :: (back ++ rest))) =
          (splitCells (depth + 1) false (body ++ '}' :: (back ++ rest))).modifyHead ('{' :: ·) :=
        rfl
      have hback := ihback depth hdepth rest
      simp only [inBraces, List.cons_append, List.append_assoc, List.nil_append]
      rw [hopening, hbody, hclosing, hback]
      simp only [List.modifyHead_modifyHead]
      rfl

end CellText

/-! ## Texts in a line -/

/-- A text of the output that may stand in a cell. -/
theorem cellText_law : LineLaw fun _ t => CellText false t.toList where
  append := by
    intro a b t u ht hu
    rw [String.toList_append]
    exact ht.append hu
  neutral := by
    intro t ht
    refine .of_inert (fun c hc => ?_) fun hmem => ?_
    · exact isInert_of_isPlain (List.all_eq_true.1 (isPlain_of_isNeutral ht) c hc)
    · have hneutral := List.all_eq_true.1 ht '&' hmem
      cases hneutral
  commandName := by
    intro name hname
    rw [isNeutralName, Bool.and_eq_true] at hname
    obtain ⟨c, rest, hchars, hhead, hplain⟩ := exists_head_of_isCommandName hname.1
    have hneutral := List.all_eq_true.1 hname.2
    rw [hchars] at hneutral
    have hc : isCellControl c = true := by
      rw [Bool.and_eq_true, Bool.and_eq_true] at hhead
      simp [isCellControl, hhead.1.1]
    rw [String.toList_append, hchars]
    refine .control hc (.of_inert (fun d hd => isInert_of_isPlain (hplain d hd)) fun hmem => ?_)
    cases hneutral '&' (List.mem_cons_of_mem c hmem)
  group := by
    intro a t ht
    rw [toList_group]
    exact ht.letIn.wrapped
  environment := by
    intro a t name hname ht
    have hinert : ∀ c ∈ name.toList, isInert c = true := by
      intro c hc
      have halpha := List.all_eq_true.1 hname c hc
      exact CellText.isInert_of_isCellControl (by simp [isCellControl, halpha])
    have hword : CellText false (inBraces name.toList) :=
      (CellText.of_inert hinert fun _ => rfl).wrapped
    rw [String.toList_append, String.toList_append, toList_begin, toList_end]
    exact ((CellText.command "egin".toList rfl (List.all_eq_true.1 rfl) (by decide) hword).append
      ht).append (.command "nd".toList rfl (List.all_eq_true.1 rfl) (by decide) hword)

/-- A script may stand in a cell like any formula. -/
theorem cellText_script {tag : Tag} {mark : String} (h : tag.scriptMark? = some mark)
    (attributes : List Attribute) {t : String} (ht : CellText false t.toList) :
    CellText false (styled tag attributes t).toList := by
  have hmark : CellText false mark.toList := by
    unfold Tag.scriptMark? at h
    split at h <;> cases h <;> exact .of_inert (List.all_eq_true.1 rfl) (by decide)
  have hdollar : CellText false "$".toList := .of_inert (List.all_eq_true.1 rfl) (by decide)
  rw [styled_script h]
  simp only [String.toList_append, toList_group]
  exact (hdollar.append (hmark.append ht.letIn.wrapped)).append hdollar

/-- Escaped text whose reserved characters are guarded has no ampersand of its own. -/
theorem Escaped.cellText {before : Option Char} {s : List Char} (h : Escaped s)
    (hguarded : IsGuarded before s) (hbefore : before ≠ some '\\') : CellText false s := by
  induction h generalizing before with
  | nil => exact .nil
  | @safe c rest hc _ ih =>
      obtain ⟨hbackslash, hopen, hclose, -⟩ := isSafe_iff.1 hc
      have hnotAmpersand : c ≠ '&' := by
        rintro rfl
        exact hbefore (hguarded.1 rfl)
      have hrest := ih hguarded.2 (by simpa using hbackslash)
      exact .inert (isInert_iff.2 ⟨hbackslash, hopen, hclose⟩) (absurd · hnotAmpersand) hrest
  | @spelled c spelling rest hc hspelling _ ih =>
      rw [isGuarded_append] at hguarded
      have htilde : CellText false "\\textasciitilde\x7b\x7d".toList :=
        .command "extasciitilde".toList rfl (List.all_eq_true.1 rfl) (by decide)
          CellText.nil.wrapped
      have hbar : CellText false "\\textbar\x7b\x7d".toList :=
        .command "extbar".toList rfl (List.all_eq_true.1 rfl) (by decide) CellText.nil.wrapped
      rcases spelling_cases hspelling hc with rfl | rfl | rfl | rfl
      · exact .control rfl (ih hguarded.2 (by simp))
      · exact .control rfl (ih hguarded.2 (by simp))
      · exact htilde.append (ih hguarded.2 (by simp))
      · exact hbar.append (ih hguarded.2 (by simp))

/-- What the output is made from has no part in the structure of a table: texts are free of
    backslashes, braces and hashes, targets of links, sources of images and ids of backslashes and
    braces, and the sizes of images of ampersands, too. -/
def HasPlainSources (setting : Setting) (nodes : List Node) : Prop :=
  HasSources isSafe isInert (fun c => isInert c && c != '&') setting nodes

theorem HasPlainSources.followsInLine {setting : Setting} {nodes : List Node}
    (h : HasPlainSources setting nodes) {node : Node} (hnode : node ∈ nodesIn nodes) :
    node.FollowsInLine (fun _ t => CellText false t.toList) setting fun _ => [] := by
  cases node with
  | text content =>
      rw [Node.FollowsInLine, normalizeText, String.toList_ofList]
      have hsafe := List.all_eq_true.1 (h.texts _ hnode content rfl)
      exact (Escaped.normalizeChars _ hsafe).cellText
        (isGuarded_normalizeChars _ _) nofun
  | element name attributes children =>
      have hsize : ∀ size ∈ setting.options.imageWidth.toList ++ setting.options.imageHeight.toList,
          CellText false size.toList := by
        intro size hsize
        have hchars := List.all_eq_true.1 (h.sizes size hsize)
        refine .of_inert (fun c hc => (Bool.and_eq_true_iff.1 (hchars c hc)).1) fun hmem => ?_
        cases hchars '&' hmem
      have htarget : ∀ target, attribute? attributes "href" = some target →
          CellText false (Latex.group target).toList := by
        intro target htarget
        rw [toList_group]
        have hinert := List.all_eq_true.1 (h.targets _ hnode target htarget)
        exact (CellText.of_inert hinert fun _ => rfl).wrapped
      refine cellText_law.convertInline_element (a := []) (b := []) (fun himg => ?_) (fun _ => .nil)
        fun _ t ht => ?_
      · refine cellText_law.convertImage_yields (fun size heq => hsize size (by simp [heq]))
          (fun size heq => hsize size (by simp [heq])) fun source hsource n => ?_
        have hpath := h.imagePath inert_inPaths rfl hnode (congrArg some himg) hsource n
        rw [toList_group]
        exact (CellText.of_inert (List.all_eq_true.1 hpath) fun _ => rfl).wrapped
      · cases hscript : (Tag.ofName name).scriptMark? with
        | none => exact cellText_law.styled (a := []) hscript (fun _ => htarget) ht
        | some mark => exact cellText_script hscript attributes ht

/-- The cells of a row are trimmed, and no separator can be found in one. -/
theorem convertCells_cellText {setting : Setting} {row : List Node}
    (h : ∀ n ∈ nodesIn row,
      n.FollowsInLine (fun _ t => CellText false t.toList) setting fun _ => []) :
    Yields (convertCells setting row) fun cells =>
      ∀ t ∈ cells, CellText false t.toList ∧ trim t = t := by
  refine Yields.mapM_forall _ fun cell hcell => ?_
  have hmem := (List.mem_filter.1 hcell).1
  have hbelow := forall_nodesIn_children (forall_nodes_of_mem h hmem)
  refine (convertInlines_gathers cellText_law _ hbelow).map fun t ht => ⟨?_, trim_trim t⟩
  rw [toList_trim]
  exact ht.trimChars

end HtmlToLatex
