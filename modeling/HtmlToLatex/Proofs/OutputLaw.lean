import HtmlToLatex.Proofs.Forest

set_option autoImplicit false

/-! # Laws of the output

A law is a relation `P shown t` between the texts of a source and a text of the output in which
they are shown. `LineLaw` lists what it takes for a law to survive what is done to text in a line:
putting texts together and setting markup around them. `BlockLaw` adds what is done to blocks.
Dollars and ampersands are no matter of course for these laws; for an `OutputLaw` they are
characters like all others. Each kind of markup is then one lemma here, for every law at once. -/

namespace HtmlToLatex

/-! ## Laws -/

/-- An ASCII character that neither starts a command nor opens or closes a group. -/
def isPlain (c : Char) : Bool :=
  c.toNat < 0x80 && c != '\\' && c != '{' && c != '}'

/-- The name of a command that is no end of an environment. Such a name does not start with the
    first letter of `begin` or of `end`. -/
def isCommandName (name : String) : Bool :=
  name.toList.all isPlain && name.toList.head?.any fun c => c.isAlpha && c != 'b' && c != 'e'

/-- A relation between the texts that are shown and a text of the output, closed under what the
    converters do. -/
structure OutputLaw (P : List String → String → Prop) : Prop where
  append : ∀ {a b t u}, P a t → P b u → P (a ++ b) (t ++ u)
  trim : ∀ {a t}, P a t → P a (trim t)
  plain : ∀ {t : String}, t.toList.all isPlain = true → P [] t
  commandName : ∀ {name}, isCommandName name = true → P [] ("\\" ++ name)
  rowEnd : P [] Latex.rowEnd
  group : ∀ {a t}, P a t → P a (Latex.group t)
  /-- An environment, with its body right between its ends. -/
  environment : ∀ {a t name}, name.toList.all Char.isAlpha = true → P a t →
    P a (Latex.command "begin" name ++ t ++ Latex.command "end" name)
  soleEquation : ∀ {a t}, P a t → P a (wrapSoleEquation t)

/-- A plain character that neither parts the cells of a table nor delimits a formula. -/
def isNeutral (c : Char) : Bool :=
  isPlain c && c != '&' && c != '$'

/-- The name of a command, made of neutral characters. -/
def isNeutralName (name : String) : Bool :=
  isCommandName name && name.toList.all isNeutral

/-- A relation between the texts that are shown and a text of the output, closed under what is done
    in a line. The dollars of scripts are not looked after. -/
structure LineLaw (P : List String → String → Prop) : Prop where
  append : ∀ {a b t u}, P a t → P b u → P (a ++ b) (t ++ u)
  neutral : ∀ {t : String}, t.toList.all isNeutral = true → P [] t
  commandName : ∀ {name}, isNeutralName name = true → P [] ("\\" ++ name)
  group : ∀ {a t}, P a t → P a (Latex.group t)
  environment : ∀ {a t name}, name.toList.all Char.isAlpha = true → P a t →
    P a (Latex.command "begin" name ++ t ++ Latex.command "end" name)

/-- A law of lines that is closed under what is done to blocks, too. -/
structure BlockLaw (P : List String → String → Prop) : Prop extends LineLaw P where
  trim : ∀ {a t}, P a t → P a (trim t)
  separator : P [] " & "
  rowEnd : P [] Latex.rowEnd
  soleEquation : ∀ {a t}, P a t → P a (wrapSoleEquation t)

/-- Several texts of the output, with the texts that are shown in them, in order. -/
inductive Rendered (P : List String → String → Prop) : List String → List String → Prop where
  | nil : Rendered P [] []
  | cons {a b t ts} (head : P a t) (tail : Rendered P b ts) : Rendered P (a ++ b) (t :: ts)

variable {P : List String → String → Prop} {a b : List String} {t u : String} {ts us : List String}

theorem Rendered.single (h : P a t) : Rendered P a [t] := by
  simpa using Rendered.cons h .nil

/-- A text that may be given, with markup around it. -/
theorem Rendered.of_option {text? : Option String} {f : String → String}
    (h : ∀ text, text? = some text → P [] (f text)) : Rendered P [] (text?.map f).toList := by
  cases text? with
  | none => exact .nil
  | some text => exact .single (h text rfl)

theorem Rendered.of_forall {f : String → String} (h : ∀ t ∈ ts, P [] (f t)) :
    Rendered P [] (ts.map f) := by
  induction ts with
  | nil => exact .nil
  | cons t ts ih =>
      have hrest := ih fun u hu => h u (List.mem_cons_of_mem _ hu)
      exact .cons (h t (List.mem_cons_self ..)) hrest

theorem Rendered.append (ht : Rendered P a ts) (hu : Rendered P b us) :
    Rendered P (a ++ b) (ts ++ us) := by
  induction ht with
  | nil => exact hu
  | cons head tail ih =>
      rw [List.append_assoc]
      exact .cons head ih

theorem Rendered.map {f : String → String} (hf : ∀ {a t}, P a t → P a (f t))
    (h : Rendered P a ts) : Rendered P a (ts.map f) := by
  induction h with
  | nil => exact .nil
  | cons head tail ih => exact .cons (hf head) ih

theorem Rendered.imp {Q : List String → String → Prop} (himp : ∀ {a t}, Q a t → P a t)
    (h : Rendered Q a ts) : Rendered P a ts := by
  induction h with
  | nil => exact .nil
  | cons head tail ih => exact .cons (himp head) ih

theorem Rendered.of_forall₂ {shown : List (List String)} (h : List.Forall₂ P shown ts) :
    Rendered P shown.flatten ts := by
  induction h with
  | nil => exact .nil
  | cons head tail ih => exact .cons head ih

theorem isPlain_of_isNeutral {s : List Char} (h : s.all isNeutral = true) :
    s.all isPlain = true := by
  rw [List.all_eq_true] at h ⊢
  intro c hc
  have hneutral := h c hc
  simp only [isNeutral, Bool.and_eq_true] at hneutral
  exact hneutral.1.1

/-- The name of a command starts with a letter, and plain characters follow. -/
theorem exists_head_of_isCommandName {name : String} (h : isCommandName name = true) :
    ∃ c rest, name.toList = c :: rest ∧ (c.isAlpha && c != 'b' && c != 'e') = true ∧
      ∀ d ∈ rest, isPlain d = true := by
  rw [isCommandName, Bool.and_eq_true] at h
  obtain ⟨hplain, hhead⟩ := h
  cases hchars : name.toList with
  | nil =>
      rw [hchars] at hhead
      cases hhead
  | cons c rest =>
      rw [hchars] at hplain hhead
      exact ⟨c, rest, rfl, hhead,
        fun d hd => List.all_eq_true.1 hplain d (List.mem_cons_of_mem c hd)⟩

/-- A law under which plain characters show nothing is one of blocks. -/
theorem OutputLaw.blocks (law : OutputLaw P) : BlockLaw P where
  append := law.append
  neutral h := law.plain (isPlain_of_isNeutral h)
  commandName h := law.commandName (Bool.and_eq_true_iff.1 h).1
  group := law.group
  environment := law.environment
  trim := law.trim
  separator := law.plain rfl
  rowEnd := law.rowEnd
  soleEquation := law.soleEquation

namespace LineLaw

variable (law : LineLaw P)

include law

/-! ## Texts in a row -/

theorem empty : P [] "" :=
  law.neutral rfl

/-- Markup on both sides of a text. -/
theorem between {opening closing : String} (hopening : P [] opening) (ht : P a t)
    (hclosing : P [] closing) : P a (opening ++ t ++ closing) := by
  simpa using law.append (law.append hopening ht) hclosing

/-- A text that may be missing shows the same as the empty text in its place. -/
theorem getD {text? : Option String} (h : Rendered P a text?.toList) : P a (text?.getD "") := by
  cases text? with
  | none =>
      cases h
      exact law.empty
  | some text =>
      cases h with
      | cons head tail =>
          cases tail
          simpa using head

theorem join (h : Rendered P a ts) : P a (String.join ts) := by
  induction h with
  | nil => exact law.empty
  | cons head tail ih =>
      rw [String.join_cons]
      exact law.append head ih

theorem intercalate {sep : String} (hsep : P [] sep) (h : Rendered P a ts) :
    P a (sep.intercalate ts) := by
  induction h with
  | nil => exact law.empty
  | @cons a b t ts head tail ih =>
      cases tail with
      | nil => simpa using head
      | cons =>
          rw [String.intercalate_cons_cons, String.append_assoc]
          exact law.append head (by simpa using law.append hsep ih)

/-- Blocks that are empty do not show, so they have nothing to show either. -/
theorem joinBlocks (h : Rendered P a ts) : P a (joinBlocks ts) := by
  induction h with
  | nil => exact law.empty
  | @cons a b t ts head tail ih =>
      unfold HtmlToLatex.joinBlocks at ih ⊢
      by_cases ht : t = ""
      · subst ht
        simpa using law.append head ih
      rw [List.filter_cons_of_pos (by simpa using ht)]
      cases hrest : ts.filter (· ≠ "") with
      | nil =>
          rw [hrest] at ih
          simpa using law.append head ih
      | cons u us =>
          rw [hrest] at ih
          rw [String.intercalate_cons_cons, String.append_assoc]
          have hgap : P [] "\n\n" := law.neutral rfl
          exact law.append head (by simpa using law.append hgap ih)

/-! ## Commands and environments -/

theorem command {name : String} (hname : isNeutralName name = true) (h : P a t) :
    P a (Latex.command name t) :=
  law.append (law.commandName hname) (law.group h)

theorem environmentOnLines {name : String} (hname : name.toList.all Char.isAlpha = true)
    (h : P a t) : P a (Latex.environment name t) := by
  have hbreak : P [] "\n" := law.neutral rfl
  simpa only [Latex.environment, String.append_assoc] using
    law.environment hname (law.between hbreak h hbreak)

/-- The text of an element in a line that is no script. -/
theorem styled {tag : Tag} {attributes : List Attribute} (hscript : tag.scriptMark? = none)
    (htarget : tag = .a → ∀ target, attribute? attributes "href" = some target →
      P [] (Latex.group target))
    (h : P a t) : P a (styled tag attributes t) := by
  unfold HtmlToLatex.styled
  split
  iterate 6 exact law.command rfl h
  case h_7 => cases hscript
  case h_8 => cases hscript
  · split
    next target hhref =>
      have hlink : P [] ("\\" ++ "href" ++ Latex.group target) :=
        law.append (a := []) (law.commandName rfl) (htarget rfl target hhref)
      exact law.append hlink (law.group h)
    · exact h
  · exact h

theorem headingOf (tag : Tag) (h : P a t) : P a (headingOf tag t) := by
  unfold HtmlToLatex.headingOf
  split
  · exact law.command rfl (law.command rfl h)
  · exact law.command rfl h
  · exact law.command rfl h

theorem rule : P [] Latex.rule := by
  have hbreak : P [] "\n" := law.neutral rfl
  have hrule : P [] ("\\" ++ "hrule") := law.commandName rfl
  exact law.append hrule hbreak

/-! ## Lists -/

theorem item (h : P a t) : P a (Latex.item t) := by
  have htab : P [] "\t" := law.neutral rfl
  have hitem : P [] ("\\" ++ "item ") := law.commandName rfl
  exact law.append (law.append htab hitem) h

/-- A list shows what its items show. Without items there is nothing to show. -/
theorem listOf? (tag : Tag) (h : Rendered P a ts) : Rendered P a (listOf? tag ts).toList := by
  have hlines : P a ("\n".intercalate ts) := law.intercalate (law.neutral rfl) h
  unfold HtmlToLatex.listOf?
  split
  next hempty =>
    rw [List.isEmpty_iff.1 hempty] at h
    exact h
  · refine Rendered.single ?_
    split
    · exact law.environmentOnLines rfl hlines
    · exact law.environmentOnLines rfl hlines

/-! ## Images -/

/-- An image is set with a path and with sizes that show nothing. -/
theorem image {path : String} {layout : Latex.ImageLayout} (hpath : P [] (Latex.group path))
    (hwidth : ∀ text, layout.width = some text → P [] text)
    (hheight : ∀ text, layout.height = some text → P [] text) :
    P [] (Latex.image path layout) := by
  have hsettings : Rendered P [] layout.settings := by
    have hsizes : Rendered P [] ((layout.width.map ("width=" ++ ·)).toList
        ++ (layout.height.map ("height=" ++ ·)).toList) :=
      .append (.of_option fun text h => law.append (law.neutral rfl) (hwidth text h))
        (.of_option fun text h => law.append (law.neutral rfl) (hheight text h))
    simp only [Latex.ImageLayout.settings]
    split
    · exact hsizes.append (.single (law.neutral rfl))
    · exact hsizes
  have hcommand : P [] (Latex.includeGraphics path layout) := by
    have hname : P [] ("\\" ++ "includegraphics") := law.commandName rfl
    unfold Latex.includeGraphics
    dsimp only
    refine law.append (a := []) (law.append (a := []) hname ?_) hpath
    split
    · exact law.empty
    · have hcomma : P [] "," := law.neutral rfl
      exact law.between (law.neutral rfl) (law.intercalate hcomma hsettings) (law.neutral rfl)
  unfold Latex.image
  split
  · exact law.environmentOnLines rfl (law.append (law.neutral rfl) hcommand)
  · exact hcommand

end LineLaw

namespace BlockLaw

variable (law : BlockLaw P)

include law

/-! ## Paragraphs and tables -/

theorem paragraphOf (options : Options) (h : P a t) : P a (paragraphOf options t) := by
  unfold HtmlToLatex.paragraphOf
  split
  · exact h
  · exact law.soleEquation h

theorem tabular (columns : Nat) (h : Rendered P a ts) : P a (Latex.tabular columns ts) := by
  have hcolumns : P [] (Latex.columnSpec columns) := by
    refine law.append (a := []) (law.neutral rfl) (law.join ?_)
    induction columns with
    | zero => exact .nil
    | succ n ih => exact Rendered.cons (a := []) (law.neutral rfl) ih
  have htop : P [] "\n\t\\hline\n" := by
    have hbreaks : P [] "\n\t" := law.neutral rfl
    have hline : P [] ("\\" ++ "hline\n") := law.commandName rfl
    exact law.append hbreaks hline
  have htab : P [] "\t" := law.neutral rfl
  have hrows : Rendered P a (ts.map fun row => "\t" ++ row ++ Latex.rowEnd) :=
    h.map fun hrow => law.between htab hrow law.rowEnd
  have hbody := law.between (law.append (law.group hcolumns) htop) (law.join hrows) htab
  simpa only [Latex.tabular, String.append_assoc] using law.environment rfl hbody

/-- A table shows what its rows show, unless the first of them has no cells. -/
theorem tableOf? {rows : List (List String)} {shown : List (List String)}
    (h : List.Forall₂ (Rendered P) shown rows) :
    Rendered P (if rows.head?.any List.isEmpty then [] else shown.flatten)
      (tableOf? rows).toList := by
  cases h with
  | nil => exact .nil
  | @cons a first shown rows hfirst hrest =>
      cases first with
      | nil => exact .nil
      | cons cell cells =>
          have hrow : ∀ {a row}, Rendered P a row → P a (" & ".intercalate row) :=
            law.intercalate law.separator
          have hrows : List.Forall₂ P (a :: shown)
              (((cell :: cells) :: rows).map (" & ".intercalate ·)) :=
            List.forall₂_map_right_iff.2 (.cons (hrow hfirst) (hrest.imp fun _ _ => hrow))
          exact Rendered.single (law.tabular _ (Rendered.of_forall₂ hrows))

end BlockLaw

/-! ## Documents -/

theorem joinBlocks_single (t : String) : joinBlocks [t] = t := by
  by_cases ht : t = "" <;> simp [joinBlocks, ht]

/-- Between two sequences of blocks that both show there is an empty line. -/
theorem exists_joinBlocks_append (ts us : List String) :
    ∃ gap : String, gap.toList.all isNeutral = true ∧
      joinBlocks (ts ++ us) = joinBlocks ts ++ gap ++ joinBlocks us := by
  unfold joinBlocks
  rw [List.filter_append]
  by_cases ht : ts.filter (· ≠ "") = []
  · refine ⟨"", rfl, ?_⟩
    rw [ht]
    simp
  by_cases hu : us.filter (· ≠ "") = []
  · refine ⟨"", rfl, ?_⟩
    rw [hu]
    simp
  · exact ⟨"\n\n", rfl, String.intercalate_append_of_ne_nil ht hu⟩

/-- The texts of the options that come into the output. -/
def Options.texts (options : Options) : List String :=
  options.imageWidth.toList ++ options.imageHeight.toList ++ options.docClass
    :: options.title.toList ++ options.author.toList ++ options.packages.getD []

namespace LineLaw

variable (law : LineLaw P)

include law

/-- The title block shows nothing. The body of the document starts somewhere in it. -/
theorem beginDocument {title author : Option String} (includeDate : Bool)
    (htitle : ∀ text, title = some text → P [] text)
    (hauthor : ∀ text, author = some text → P [] text) :
    ∃ front back, P [] front ∧ P [] back ∧
      Latex.beginDocument title author includeDate =
        front ++ Latex.command "begin" "document" ++ back := by
  have hbreak : P [] "\n" := law.neutral rfl
  simp only [Latex.beginDocument]
  generalize hstart : Latex.command "begin" "document" = start
  have hblock : Rendered P [] ((title.map (Latex.command "title")).toList
      ++ (author.map (Latex.command "author")).toList
      ++ if includeDate then [Latex.command "date" "\\today"] else []) := by
    refine .append (.append (.of_option fun text h => law.command rfl (htitle text h))
      (.of_option fun text h => law.command rfl (hauthor text h))) ?_
    split
    · have htoday : P [] ("\\" ++ "today") := law.commandName rfl
      exact .single (law.command rfl htoday)
    · exact .nil
  generalize (title.map (Latex.command "title")).toList
      ++ (author.map (Latex.command "author")).toList
      ++ (if includeDate then [Latex.command "date" "\\today"] else []) = block at hblock ⊢
  -- The start of the document is set apart from the title block if there is one.
  obtain ⟨front, hfront, hopening⟩ : ∃ front, P [] front ∧
      "\n".intercalate (block ++ [if block.isEmpty then start else "\n" ++ start]) =
        front ++ start := by
    by_cases hempty : block = []
    · exact ⟨"", law.empty, by simp [hempty]⟩
    · refine ⟨"\n".intercalate block ++ "\n" ++ "\n", ?_, ?_⟩
      · exact law.append (law.append (law.intercalate hbreak hblock) hbreak) hbreak
      · rw [String.intercalate_append_of_ne_nil hempty (by simp), if_neg (by simpa using hempty)]
        simp only [String.intercalate_singleton, String.append_assoc]
  by_cases htitled : title.isSome = true
  · have hmake : P [] ("\\" ++ "maketitle") := law.commandName rfl
    refine ⟨front, "\n" ++ ("\n" ++ ("\\" ++ "maketitle")), hfront,
      law.append hbreak (law.append hbreak hmake), ?_⟩
    rw [if_pos htitled, String.intercalate_append_of_ne_nil (by simp) (by simp), hopening,
      String.append_assoc]
    rfl
  · refine ⟨front, "", hfront, law.empty, ?_⟩
    rw [if_neg htitled, List.append_nil, hopening, String.append_empty]

/-- The blocks before the body show nothing. The body of the document starts somewhere in them. -/
theorem documentHead {options : Options} (hoptions : ∀ text ∈ options.texts, P [] text) :
    ∃ front back, P [] front ∧ P [] back ∧
      HtmlToLatex.joinBlocks (documentHead options) =
        front ++ Latex.command "begin" "document" ++ back := by
  have htitle : ∀ text, options.title = some text → P [] text :=
    fun text ht => hoptions text (by simp [Options.texts, ht])
  have hauthor : ∀ text, options.author = some text → P [] text :=
    fun text ht => hoptions text (by simp [Options.texts, ht])
  have hpackage : ∀ text ∈ options.packages.getD [], P [] text :=
    fun text ht => hoptions text (by simp [Options.texts, ht])
  have hclass : P [] (Latex.documentClass options.docClass) :=
    law.command rfl (hoptions _ (by simp [Options.texts]))
  have hpackages : Rendered P [] (if (options.packages.getD []).isEmpty then []
      else [Latex.usePackages (options.packages.getD [])]) := by
    split
    · exact .nil
    · exact .single (law.intercalate (law.neutral rfl)
        (.of_forall fun text ht => law.command rfl (hpackage text ht)))
  obtain ⟨start, back, hstart, hback, hbegin⟩ :=
    law.beginDocument options.includeDate htitle hauthor
  obtain ⟨gap, hgap, hjoin⟩ := exists_joinBlocks_append
    (Latex.documentClass options.docClass :: if (options.packages.getD []).isEmpty then []
      else [Latex.usePackages (options.packages.getD [])])
    [Latex.beginDocument options.title options.author options.includeDate]
  refine ⟨_, back, law.append (law.append (law.joinBlocks (.cons hclass hpackages))
    (law.neutral hgap)) hstart, hback, ?_⟩
  rw [HtmlToLatex.documentHead, hjoin, joinBlocks_single, hbegin]
  simp only [String.append_assoc]

/-- A document shows what its body shows. -/
theorem wrapDocument {options : Options} (hoptions : ∀ text ∈ options.texts, P [] text)
    (h : P a (HtmlToLatex.joinBlocks ts)) :
    P a (HtmlToLatex.joinBlocks (wrapDocument options ts)) := by
  unfold HtmlToLatex.wrapDocument
  split
  case isFalse => exact h
  obtain ⟨front, back, hfront, hback, hhead⟩ := law.documentHead hoptions
  obtain ⟨gap, hgap, hbody⟩ := exists_joinBlocks_append (HtmlToLatex.documentHead options) ts
  obtain ⟨gap', hgap', hend⟩ :=
    exists_joinBlocks_append (HtmlToLatex.documentHead options ++ ts) [Latex.endDocument]
  have hbreak : P [] "\n" := law.neutral rfl
  have hname : "document".toList.all Char.isAlpha = true := rfl
  have hinside := law.between (law.append hback (law.neutral hgap)) h
    (law.append (law.neutral hgap') hbreak)
  rw [hend, hbody, hhead, joinBlocks_single, Latex.endDocument]
  simpa only [String.append_assoc, List.nil_append] using
    law.append hfront (law.environment hname hinside)

end LineLaw
end HtmlToLatex
