import Mathlib.Data.List.DropRight
import HtmlToLatex.Proofs.CharacterReferences
import HtmlToLatex.Proofs.Delimiters
import HtmlToLatex.Proofs.Rendering
import HtmlToLatex.Proofs.Wrapping

set_option autoImplicit false

/-! # Options without anything to act on

An option acts on one construct of the source. Where that is absent, the option has no influence on
the conversion, neither on its text nor on the world: `convert_inert`. For the options about
formulas it takes an argument that the passes and the templates make no delimiter that the source
does not have. Delimiters from references need a hash, and no template opens with a delimiter but
those of scripts. -/

namespace HtmlToLatex

open Conversion

/-! ## What is absent from a forest -/

/-- No text of a forest holds one of the characters. -/
def TextsAvoid (characters : List Char) (nodes : List Node) : Prop :=
  ∀ node ∈ nodesIn nodes, ∀ content ∈ node.text?, ∀ c ∈ characters, c ∉ content.toList

/-- No element of a forest has one of the tags. -/
def LacksTags (tags : List Tag) (nodes : List Node) : Prop :=
  ∀ node ∈ nodesIn nodes, ∀ tag ∈ tags, node.tag? ≠ some tag

/-- No image of a forest has a source. -/
def LacksSources (nodes : List Node) : Prop :=
  ∀ node ∈ nodesIn nodes, node.tag? = some .img → attribute? node.attributes "src" = none

instance (characters : List Char) (nodes : List Node) : Decidable (TextsAvoid characters nodes) :=
  decidable_of_iff
    ((nodesIn nodes).all fun node => node.text?.all fun content =>
      characters.all fun c => !content.toList.contains c)
    (by simp [TextsAvoid, Option.all_eq_true])

instance (tags : List Tag) (nodes : List Node) : Decidable (LacksTags tags nodes) :=
  inferInstanceAs (Decidable (∀ node ∈ nodesIn nodes, ∀ tag ∈ tags, node.tag? ≠ some tag))

instance (nodes : List Node) : Decidable (LacksSources nodes) :=
  inferInstanceAs (Decidable
    (∀ node ∈ nodesIn nodes, node.tag? = some .img → attribute? node.attributes "src" = none))

/-! ## Running text without delimiters -/

/-- In a text without a hash, references stand for basic characters. -/
theorem mem_of_resolves {s t : List Char} (h : Resolves s t) (hhash : '#' ∉ s) {c : Char}
    (hc : c ∈ t) : c ∈ s ∨ c ∈ basicCharacters := by
  induction h with
  | nil => cases hc
  | @reference d w s t hw hrest ih =>
      rw [List.mem_append, not_or] at hhash
      rcases List.mem_cons.1 hc with rfl | hc
      · cases hw with
        | named hname halpha => exact .inr (mem_basicCharacters hname)
        | decimal => exact absurd (by simp) hhash.1
        | hexadecimal => exact absurd (by simp) hhash.1
      · exact (ih hhash.2 hc).imp_left (List.mem_append_right w)
  | @keep d s t _ hrest ih =>
      rw [List.mem_cons, not_or] at hhash
      rcases List.mem_cons.1 hc with rfl | hc
      · exact .inl (List.mem_cons_self ..)
      · exact (ih hhash.2 hc).imp_left (List.mem_cons_of_mem d)

/-- A spelling opens with a backslash that makes no delimiter, and no other backslash follows. -/
theorem exists_cons_cons_of_reserved? {c : Char} {spelling : List Char}
    (h : reserved? c = some spelling) :
    ∃ d tail, spelling = '\\' :: d :: tail ∧ d ∉ ['(', ')'] ∧ '\\' ∉ d :: tail := by
  unfold reserved? at h
  split at h <;> cases h <;> exact ⟨_, _, rfl, by decide, by decide⟩

/-- Escaping makes no delimiters. -/
theorem dollarPairs_protectChars {t : List Char} (ht : '\\' ∉ t) :
    dollarPairs (protectChars t) = protectChars t := by
  induction t with
  | nil => rfl
  | cons c t ih =>
      rw [List.mem_cons, not_or] at ht
      rw [protectChars_cons]
      cases hspelling : reserved? c with
      | none =>
          have hc : '\\' ∉ [c] := by simpa using ht.1
          rw [Option.getD_none, dollarPairs_append_of_not_mem hc, ih ht.2]
      | some spelling =>
          obtain ⟨d, tail, rfl, hd, htail⟩ := exists_cons_cons_of_reserved? hspelling
          have hpair : ∀ p ∈ ['(', ')'], (d :: tail ++ protectChars t).head? ≠ some p := by
            rintro p hp heq
            cases heq
            exact hd hp
          rw [Option.getD_some, List.cons_append, dollarPairs_cons fun _ => hpair,
            dollarPairs_append_of_not_mem htail, ih ht.2]

/-- Running text without backslashes and hashes is the escaping of a text without backslashes, and
no delimiters are chosen in it. That text is made of characters of the source and of such as
references without a hash stand for. -/
theorem exists_normalizeChars_eq {s : List Char} (hbackslash : '\\' ∉ s) (hhash : '#' ∉ s)
    (options : Options) :
    ∃ t, (∀ c ∈ t, c ∈ s ∨ c = '\n' ∨ c ∈ basicCharacters) ∧ '\\' ∉ t ∧
      ∀ preferDollarMath, normalizeChars { options with preferDollarMath } s = protectChars t := by
  obtain ⟨t, ht⟩ := exists_resolves (dropTabs (replaceBreaks (breakReplacement options) s))
  have hpassed : '#' ∉ dropTabs (replaceBreaks (breakReplacement options) s) := fun hmem =>
    (mem_dropTabs_replaceBreaks hmem).elim hhash (by decide)
  have hmem : ∀ c ∈ t, c ∈ s ∨ c = '\n' ∨ c ∈ basicCharacters := by
    intro c hc
    rcases mem_of_resolves ht hpassed hc with hc | hc
    · exact (mem_dropTabs_replaceBreaks hc).imp_right .inl
    · exact .inr (.inr hc)
  have hplain : '\\' ∉ t := by
    intro hc
    rcases hmem _ hc with hc | hc
    · exact hbackslash hc
    · exact absurd hc (by decide)
  refine ⟨t, hmem, hplain, fun preferDollarMath => ?_⟩
  have hnormal : normalizeChars { options with preferDollarMath } s =
      chooseDelimiters { options with preferDollarMath } (protectChars t) :=
    normalizeChars_eq_protectChars hbackslash ht
  rw [hnormal, chooseDelimiters, preferDollarChars_eq_dollarPairs, dollarPairs_protectChars hplain,
    ite_self]

/-! ## Texts that open no formula -/

/-- Whether nothing that could open a formula comes after the leading blanks of a text. A backslash
at the end could still do so together with what follows. -/
def opensPlainly : List Char → Bool
  | [] => true
  | c :: r =>
    if isBlank c then opensPlainly r
    else c != '$' && (c != '\\' || r.head?.any (· != '('))

theorem opensPlainly_append {s t : List Char} (hs : opensPlainly s = true)
    (ht : opensPlainly t = true) : opensPlainly (s ++ t) = true := by
  induction s with
  | nil => exact ht
  | cons c r ih =>
      rw [opensPlainly] at hs
      rw [List.cons_append, opensPlainly]
      split at hs
      next hc => rw [if_pos hc, ih hs]
      next hc =>
        rw [if_neg hc]
        cases r with
        | nil =>
            simp only [List.head?_nil, Option.any_none, Bool.or_false, Bool.and_eq_true] at hs
            simp [hs.1, hs.2]
        | cons d r => exact hs

theorem opensPlainly_of_plain {s : List Char} (hs : ∀ c ∈ s, c ≠ '$' ∧ c ≠ '\\') :
    opensPlainly s = true := by
  induction s with
  | nil => rfl
  | cons c s ih =>
      rw [List.forall_mem_cons] at hs
      rw [opensPlainly]
      split
      · exact ih hs.2
      · simp [hs.1]

/-- Trimming a text that opens no formula leaves no opening delimiter in front. -/
theorem afterOpening?_trimChars {s : List Char} (h : opensPlainly s = true) :
    afterOpening? (trimChars s) = none := by
  induction s with
  | nil => rfl
  | cons c r ih =>
      rw [opensPlainly] at h
      split at h
      next hc =>
        have htrim : trimChars (c :: r) = trimChars r := by
          rw [trimChars, List.dropWhile_cons_of_pos hc, trimChars]
        rw [htrim, ih h]
      next hc =>
        have hprefix : trimChars (c :: r) <+: c :: r := by
          rw [trimChars, List.dropWhile_cons_of_neg hc]
          exact List.rdropWhile_prefix isBlank _
        unfold afterOpening?
        split
        next heq =>
          rw [heq, List.cons_prefix_cons] at hprefix
          simp [← hprefix.1] at h
        next heq =>
          obtain ⟨back, hback⟩ := hprefix
          rw [heq] at hback
          cases hback
          simp at h
        · rfl

/-- A text that opens no formula is none after it is trimmed. -/
theorem wrapSoleEquation_trim {t : String} (h : opensPlainly t.toList = true) :
    wrapSoleEquation (trim t) = trim t := by
  have hnone : formulaInterior? (trim t).toList = none := by
    rw [toList_trim, formulaInterior?, afterOpening?_trimChars h, Option.bind_none]
  rw [wrapSoleEquation, wrapSoleEquationChars, hnone, String.ofList_toList]

/-! ## Lines without scripts -/

/-- The law that a text opens no formula. What is shown in the text does not matter. -/
def OpensPlainly (_ : List String) (t : String) : Prop :=
  opensPlainly t.toList = true

/-- A command opens no formula, whatever comes after its name. -/
theorem opensPlainly_command {name : String}
    (hname : ∃ c tail, name.toList = '\\' :: c :: tail ∧ c ≠ '(') (shown : List String)
    (rest : String) : OpensPlainly shown (name ++ rest) := by
  obtain ⟨c, tail, hsplit, hc⟩ := hname
  rw [OpensPlainly, String.toList_append, hsplit]
  simp [opensPlainly, isBlank, hc]

theorem opensPlainly_group (shown : List String) (t : String) :
    OpensPlainly shown (Latex.group t) := by
  simp [OpensPlainly, Latex.group, opensPlainly, isBlank]

/-- Texts that open no formula are put together to such texts. -/
theorem opensPlainly_law : LineLaw OpensPlainly where
  append ht hu := by
    rw [OpensPlainly, String.toList_append]
    exact opensPlainly_append ht hu
  neutral ht := by
    refine opensPlainly_of_plain fun c hc => ?_
    have hneutral := List.all_eq_true.1 ht c hc
    constructor <;> rintro rfl <;> cases hneutral
  commandName {name} hname := by
    rw [isNeutralName, Bool.and_eq_true] at hname
    obtain ⟨c, tail, hsplit, hc, -⟩ := exists_head_of_isCommandName hname.1
    have hopening : ("\\" ++ name).toList = '\\' :: c :: tail := by
      rw [String.toList_append, hsplit]
      rfl
    have hne : c ≠ '(' := by
      rintro rfl
      cases hc
    simpa using opensPlainly_command ⟨c, tail, hopening, hne⟩ [] ""
  group _ := opensPlainly_group _ _
  environment {_ t name} _ _ := by
    have hbegin : ("\\" ++ "begin").toList = '\\' :: 'b' :: "egin".toList := rfl
    rw [Latex.command, String.append_assoc, String.append_assoc]
    exact opensPlainly_command ⟨_, _, hbegin, by decide⟩ _ _

/-- An image opens no formula, whatever its path and its sizes are. -/
theorem opensPlainly_image (path : String) (layout : Latex.ImageLayout) :
    OpensPlainly [] (Latex.image path layout) := by
  have hshown : OpensPlainly [] (Latex.includeGraphics path layout) := by
    have hname : "\\includegraphics".toList = '\\' :: 'i' :: "ncludegraphics".toList := rfl
    unfold Latex.includeGraphics
    dsimp only
    rw [String.append_assoc]
    exact opensPlainly_command ⟨_, _, hname, by decide⟩ _ _
  have htab : OpensPlainly [] "\t" := opensPlainly_law.neutral rfl
  unfold Latex.image
  dsimp only
  split
  · exact opensPlainly_law.environmentOnLines rfl (opensPlainly_law.append htab hshown)
  · exact hshown

theorem opensPlainly_protectChars {t : List Char} (ht : ∀ c ∈ t, c ≠ '$' ∧ c ≠ '\\') :
    opensPlainly (protectChars t) = true := by
  induction t with
  | nil => rfl
  | cons c t ih =>
      rw [List.forall_mem_cons] at ht
      rw [protectChars_cons]
      refine opensPlainly_append ?_ (ih ht.2)
      cases hspelling : reserved? c with
      | none => exact opensPlainly_of_plain (by simpa using ht.1)
      | some spelling =>
          obtain ⟨d, tail, rfl, hd, -⟩ := exists_cons_cons_of_reserved? hspelling
          have hparenthesis : d ≠ '(' := by
            rintro rfl
            exact hd (by decide)
          simp [opensPlainly, isBlank, hparenthesis]

theorem opensPlainly_normalizeText (options : Options) {content : String}
    (h : ∀ c ∈ ['$', '\\', '#'], c ∉ content.toList) :
    OpensPlainly [] (normalizeText options content) := by
  obtain ⟨t, hmem, hbackslash, hnormal⟩ :=
    exists_normalizeChars_eq (h '\\' (by decide)) (h '#' (by decide)) options
  have hdollar : '$' ∉ t := by
    intro hc
    rcases hmem _ hc with hc | hc
    · exact h '$' (by decide) hc
    · exact absurd hc (by decide)
  rw [OpensPlainly, normalizeText, String.toList_ofList, hnormal options.preferDollarMath]
  refine opensPlainly_protectChars fun c hc => ⟨?_, ?_⟩
  · rintro rfl
    exact hdollar hc
  · rintro rfl
    exact hbackslash hc

section Lines

variable (setting : Setting) {nodes : List Node}

theorem convertImage_opensPlainly (attributes : List Attribute) :
    Yields (convertImage setting attributes) fun image =>
      Rendered OpensPlainly [] image.toList := by
  unfold convertImage
  split
  next source _ =>
    have himage : Yields (convertSource setting source) (OpensPlainly []) := by
      intro w
      rw [run_convertSource]
      exact opensPlainly_image _ _
    exact himage.map fun t ht => .single ht
  · exact Yields.pure .nil

/-- Without scripts, and without characters in texts that could make a delimiter, nothing that is
set in a line opens a formula. -/
theorem convertInlines_opensPlainly (htexts : TextsAvoid ['$', '\\', '#'] nodes)
    (hscripts : LacksTags [.sub, .sup] nodes) :
    Yields (convertInlines setting nodes) fun t => opensPlainly t.toList = true := by
  refine convertInlines_gathers (g := fun _ => []) opensPlainly_law nodes fun node hnode => ?_
  cases node with
  | text content => exact opensPlainly_normalizeText setting.options (htexts _ hnode content rfl)
  | element name attributes children =>
      intro hchildren
      have hmark : (Tag.ofName name).scriptMark? = none := by
        have hsub := hscripts _ hnode .sub (by decide)
        have hsup := hscripts _ hnode .sup (by decide)
        unfold Tag.scriptMark?
        split
        next h => exact absurd (congrArg some h) hsub
        next h => exact absurd (congrArg some h) hsup
        · rfl
      have hstyled : ∀ t, OpensPlainly [] t →
          OpensPlainly [] (styled (Tag.ofName name) attributes t) := fun t =>
        opensPlainly_law.styled hmark fun _ target _ => opensPlainly_group [] target
      exact opensPlainly_law.convertInline_element (b := [])
        (fun _ => convertImage_opensPlainly setting attributes) (fun _ => rfl)
        (fun _ => hstyled) hchildren

end Lines

/-! ## Single options -/

section Alike

variable (setting : Setting) {nodes : List Node}

/-- Texts without line breaks go through the first pass as they are. -/
theorem alikeAt_ignoreBreaks (htexts : TextsAvoid ['\r', '\n'] nodes)
    (hbreaks : LacksTags [.br] nodes) (ignoreBreaks : Bool) :
    ∀ node ∈ nodesIn nodes, AlikeAt (· = ·)
      { setting with options := { setting.options with ignoreBreaks } } setting node := by
  intro node hnode
  constructor
  case text =>
    rintro content rfl
    have hkept (replacement : List Char) :
        replaceBreaks replacement content.toList = content.toList := by
      refine replaceBreaksFrom_of_no_breaks replacement (fun c hc => ?_) false
      rw [← Bool.not_eq_true, isLineBreak_iff]
      rintro (rfl | rfl)
      · exact htexts _ hnode content rfl '\n' (by decide) hc
      · exact htexts _ hnode content rfl '\r' (by decide) hc
    simp only [normalizeText, normalizeChars, hkept, chooseDelimiters]
  case lineBreak => exact fun hbr => absurd hbr (hbreaks _ hnode .br (by decide))
  case image => exact fun _ _ _ _ _ => Agree.of_eq rfl
  case paragraph => exact fun _ _ => rfl

theorem alikeAt_preferDollarMath (htexts : TextsAvoid ['\\', '#'] nodes)
    (preferDollarMath : Bool) :
    ∀ node ∈ nodesIn nodes, AlikeAt (· = ·)
      { setting with options := { setting.options with preferDollarMath } } setting node := by
  intro node hnode
  constructor
  case text =>
    rintro content rfl
    have havoids := htexts _ hnode content rfl
    obtain ⟨t, -, -, hnormal⟩ :=
      exists_normalizeChars_eq (havoids '\\' (by decide)) (havoids '#' (by decide)) setting.options
    have hself : normalizeChars setting.options content.toList = protectChars t :=
      hnormal setting.options.preferDollarMath
    exact congrArg String.ofList ((hnormal preferDollarMath).trans hself.symm)
  case lineBreak => exact fun _ => rfl
  case image => exact fun _ _ _ _ _ => Agree.of_eq rfl
  case paragraph => exact fun _ _ => rfl

/-- Where nothing in a line opens a formula, no paragraph is one. -/
theorem alikeAt_skipEquationWrap (htexts : TextsAvoid ['$', '\\', '#'] nodes)
    (hscripts : LacksTags [.sub, .sup] nodes) (skipEquationWrap : Bool) :
    ∀ node ∈ nodesIn nodes, AlikeAt (· = ·)
      { setting with options := { setting.options with skipEquationWrap } } setting node := by
  intro node hnode
  constructor
  case text => exact fun _ _ => rfl
  case lineBreak => exact fun _ => rfl
  case image => exact fun _ _ _ _ _ => Agree.of_eq rfl
  case paragraph =>
    intro _ w
    have hchildren := convertInlines_opensPlainly { setting with
      options := { setting.options with skipEquationWrap } }
      (fun n hn => htexts n (mem_nodesIn_of_below hn nodes hnode))
      (fun n hn => hscripts n (mem_nodesIn_of_below hn nodes hnode)) w
    simp only [paragraphOf, wrapSoleEquation_trim hchildren, ite_self]

/-- An image without a source is not shown at all. -/
theorem alikeAt_images (himages : LacksSources nodes) (autogenImageNames : Bool)
    (imageWidth imageHeight : Option String) (keepAspectRatio centerImages : Bool) :
    ∀ node ∈ nodesIn nodes, AlikeAt (· = ·)
      { setting with options :=
        { setting.options with
          autogenImageNames, imageWidth, imageHeight, keepAspectRatio, centerImages } }
      setting node := by
  intro node hnode
  constructor
  case text => exact fun _ _ => rfl
  case lineBreak => exact fun _ => rfl
  case image =>
    rintro name attributes children rfl himg
    have hnone : attribute? attributes "src" = none := himages _ hnode himg
    refine Agree.of_eq ?_
    simp only [convertImage, hnone]
  case paragraph => exact fun _ _ => rfl

end Alike

/-! ## Whole conversions -/

/-- Options under which all nodes are treated alike give one conversion. -/
theorem convert_eq_of_alike {setting : Setting} {options : Options} {nodes : List Node}
    (hwrap : wrapDocument options = wrapDocument setting.options)
    (h : ∀ node ∈ nodesIn nodes, AlikeAt (· = ·) { setting with options } setting node) :
    convert { setting with options } nodes = convert setting nodes :=
  Agree.eq (convert_agree keptByMessages_eq hwrap h)

/-- **Options are inert where their construct is absent.** Without line breaks and elements for them
it does not matter whether line breaks are ignored. Without backslashes and hashes there are no
delimiters to choose. Without dollars as well, and without scripts, no paragraph is a formula. And
without sources of images, it does not matter how images are named and set. In each case the two
conversions are the same from any world, so they make the same requests and leave the same files and
the same log. -/
theorem convert_inert (setting : Setting) (nodes : List Node) :
    let converted (options : Options) := convert { setting with options } nodes
    let options := setting.options
    (TextsAvoid ['\r', '\n'] nodes → LacksTags [.br] nodes → ∀ ignoreBreaks,
      converted { options with ignoreBreaks } = converted options) ∧
    (TextsAvoid ['\\', '#'] nodes → ∀ preferDollarMath,
      converted { options with preferDollarMath } = converted options) ∧
    (TextsAvoid ['$', '\\', '#'] nodes → LacksTags [.sub, .sup] nodes → ∀ skipEquationWrap,
      converted { options with skipEquationWrap } = converted options) ∧
    (LacksSources nodes →
      ∀ autogenImageNames imageWidth imageHeight keepAspectRatio centerImages,
        converted
          { options with
            autogenImageNames, imageWidth, imageHeight, keepAspectRatio, centerImages } =
          converted options) := by
  intro converted options
  refine ⟨fun htexts hbreaks ignoreBreaks => ?_, fun htexts preferDollarMath => ?_,
    fun htexts hscripts skipEquationWrap => ?_, fun himages _ _ _ _ _ => ?_⟩
  · exact convert_eq_of_alike rfl (alikeAt_ignoreBreaks setting htexts hbreaks ignoreBreaks)
  · exact convert_eq_of_alike rfl (alikeAt_preferDollarMath setting htexts preferDollarMath)
  · exact convert_eq_of_alike rfl
      (alikeAt_skipEquationWrap setting htexts hscripts skipEquationWrap)
  · exact convert_eq_of_alike rfl (alikeAt_images setting himages _ _ _ _ _)

/-- A paragraph with parentheses and references in its text, and an image without a source. -/
theorem convert_inert_paragraph :
    let setting : Setting := { ids := fun _ => "id" }
    let nodes : List Node :=
      [.element "p" [] [.text "(a &amp; b) ~ ", .element "b" [] [.text "50%"]],
        .element "img" [⟨"alt", "$"⟩] []]
    TextsAvoid ['\r', '\n'] nodes ∧ TextsAvoid ['$', '\\', '#'] nodes ∧
      LacksTags [.br] nodes ∧ LacksTags [.sub, .sup] nodes ∧ LacksSources nodes ∧
      convert { setting with options := { ignoreBreaks := false } } nodes =
        convert setting nodes ∧
      convert { setting with options := { preferDollarMath := true } } nodes =
        convert setting nodes ∧
      convert { setting with options := { skipEquationWrap := true } } nodes =
        convert setting nodes ∧
      convert { setting with options := { imageWidth := some "3cm" } } nodes =
        convert setting nodes := by
  intro setting nodes
  have hfeeds : TextsAvoid ['\r', '\n'] nodes := by decide
  have hdelimiters : TextsAvoid ['$', '\\', '#'] nodes := by decide
  have hbackslashes : TextsAvoid ['\\', '#'] nodes := by decide
  have hbreaks : LacksTags [.br] nodes := by decide
  have hscripts : LacksTags [.sub, .sup] nodes := by decide
  have himages : LacksSources nodes := by decide
  obtain ⟨hignore, hprefer, hskip, hlayout⟩ := convert_inert setting nodes
  exact ⟨hfeeds, hdelimiters, hbreaks, hscripts, himages, hignore hfeeds hbreaks false,
    hprefer hbackslashes true, hskip hdelimiters hscripts true,
    hlayout himages true (some "3cm") none false true⟩

end HtmlToLatex
