import HtmlToLatex.Html.Fragment
import Mathlib.Data.List.Infix

set_option autoImplicit false

/-! # Start tags in a source

A start tag that is read from a source is written in it: `scan_readFrom` finds it in the text with
rewritten line ends, `hasStartTag_of_writesTag` in the source itself. Every reader leaves over an
end of the text that it was given, so the pieces of a source are followed by suffixes of it. -/

namespace HtmlToLatex.Html

/-! ## What is left over is at the end of the source -/

theorem readAttributesFrom_suffix (s : List Char) :
    ∀ (attributes : List Attribute) (state : AttributeState),
      ∀ reading ∈ readAttributesFrom attributes state s, reading.2.2 <:+ s := by
  induction s with
  | nil => simp [readAttributesFrom]
  | cons c r ih =>
      have hgoOn : ∀ attributes state,
          ∀ reading ∈ readAttributesFrom attributes state r, reading.2.2 <:+ c :: r :=
        fun attributes state reading hreading =>
          (ih attributes state reading hreading).trans (List.suffix_cons c r)
      have hend : ∀ (attributes : List Attribute) (closes : Bool),
          ∀ reading ∈ some (attributes, closes, r), reading.2.2 <:+ c :: r := by
        rintro attributes closes reading ⟨⟩
        exact List.suffix_cons c r
      intro attributes state
      cases state <;> unfold readAttributesFrom <;> dsimp only <;> split_ifs <;>
        first | exact hgoOn _ _ | exact hend _ _

theorem afterBracket_suffix (s : List Char) : afterBracket s <:+ s :=
  (List.drop_suffix _ _).trans (List.dropWhile_suffix _)

theorem afterComment_suffix (s : List Char) :
    ∀ state : CommentState, afterComment state s <:+ s := by
  induction s with
  | nil => simp [afterComment]
  | cons c r ih =>
      have hgoOn : ∀ state, afterComment state r <:+ c :: r := fun state =>
        (ih state).trans (List.suffix_cons c r)
      intro state
      cases state <;> unfold afterComment <;> dsimp only <;> split_ifs <;>
        first | exact hgoOn _ | exact List.suffix_cons c r

theorem splitSection_suffix (s : List Char) : (splitSection s).2 <:+ s := by
  fun_induction splitSection s with
  | case1 r => exact List.suffix_append [']', ']', '>'] r
  | case2 c r hend inside rest hsplit ih =>
      rw [hsplit] at ih
      exact ih.trans (List.suffix_cons c r)
  | case3 => exact List.suffix_rfl

theorem splitRaw_suffix (element : String) (stops : Char → Bool) (s : List Char) :
    (splitRaw element stops s).2 <:+ s := by
  fun_induction splitRaw element stops s with
  | case1 => exact List.suffix_rfl
  | case2 c r hstop => exact List.suffix_rfl
  | case3 c r hstop inside rest hsplit ih =>
      rw [hsplit] at ih
      exact ih.trans (List.suffix_cons c r)

theorem splitScript_suffix (element : String) (state : ScriptState) (s : List Char) :
    (splitScript element state s).2 <:+ s := by
  fun_induction splitScript element state s
  case case1 => exact List.suffix_rfl
  case case2 | case6 => exact List.suffix_rfl
  case case3 c a b d r inside rest hsplit s hend hcomment ihNext ih =>
      rw [hsplit] at ih
      exact ih.trans (List.suffix_append [c, a, b, d] r)
  all_goals
    rename_i ih
    exact (ih _).trans (List.suffix_cons _ _)

theorem readCode?_suffix {isDigit : Char → Bool} {base : Nat} {s : List Char} :
    ∀ reading ∈ readCode? isDigit base s, reading.rest <:+ s := by
  unfold readCode?
  dsimp only
  split
  · simp
  split
  next rest hrest =>
    rintro reading ⟨⟩
    exact (List.suffix_cons ';' rest).trans (hrest ▸ List.dropWhile_suffix isDigit)
  next =>
    rintro reading ⟨⟩
    exact List.dropWhile_suffix isDigit

theorem readEntity?_suffix {inAttribute : Bool} {s : List Char} :
    ∀ reading ∈ readEntity? inAttribute s, reading.rest <:+ s := by
  unfold readEntity?
  split
  · exact fun reading h => (readCode?_suffix reading h).trans (List.suffix_append ['#', 'x'] _)
  · exact fun reading h => (readCode?_suffix reading h).trans (List.suffix_append ['#', 'X'] _)
  · exact fun reading h => (readCode?_suffix reading h).trans (List.suffix_cons '#' _)
  · generalize longestEntity? entitySpellings s = found
    cases found with
    | none => split <;> simp
    | some found =>
        dsimp only
        split_ifs
        · simp
        · rintro reading ⟨⟩
          exact List.drop_suffix _ _
        · simp

/-! ## Pieces of a source -/

/-- A text holds the start of a start tag: an opening angle bracket, the word that the name is
    read from, and a character that ends the word. -/
def WritesTag (name : String) (s : List Char) : Prop :=
  ∃ word c after, '<' :: (word ++ c :: after) <:+ s ∧ word.map nameChar = name.toList
    ∧ word.all isTagNameChar = true ∧ isTagNameChar c = false

theorem WritesTag.mono {name : String} {s t : List Char} (h : WritesTag name s) (hst : s <:+ t) :
    WritesTag name t := by
  obtain ⟨word, c, after, hsuffix, hrest⟩ := h
  exact ⟨word, c, after, hsuffix.trans hst, hrest⟩

theorem nameChar_toLower (c : Char) : (nameChar c).toLower = nameChar c := by
  unfold nameChar
  split
  · decide
  · unfold Char.toLower
    grind

/-- Names of tags are read in lower case. -/
theorem lowerAscii_of_writesTag {name : String} {s : List Char} (h : WritesTag name s) :
    lowerAscii name = name := by
  obtain ⟨word, c, after, -, hword, -⟩ := h
  have hlower : name.toList.map Char.toLower = name.toList := by
    rw [← hword, List.map_map]
    exact List.map_congr_left fun c _ => nameChar_toLower c
  rw [lowerAscii, hlower, String.ofList_toList]

/-- What a piece of a source has in common with the source: the source ends with what is left of
    it, and it holds the start tags of the piece. -/
structure Scan.ReadFrom (piece : Scan) (s : List Char) : Prop where
  rest : piece.rest <:+ s
  startTags : ∀ tag, .startTag tag ∈ piece.tokens → WritesTag tag.name s

theorem Scan.ReadFrom.mono {piece : Scan} {s t : List Char} (h : piece.ReadFrom s) (hst : s <:+ t) :
    piece.ReadFrom t where
  rest := h.rest.trans hst
  startTags := fun tag htag => (h.startTags tag htag).mono hst

/-- A piece without start tags. -/
theorem Scan.ReadFrom.of_none {tokens : List Token} {rest s : List Char} (hrest : rest <:+ s)
    (h : ∀ tag, Token.startTag tag ∉ tokens) : Scan.ReadFrom ⟨tokens, rest⟩ s where
  rest := hrest
  startTags := fun tag htag => absurd htag (h tag)

/-! ### Tags -/

theorem readTag_endTag_readFrom (s : List Char) : (readTag makeEndTag s).ReadFrom s := by
  unfold readTag
  dsimp only
  split
  next attributes selfClosing rest hread =>
    refine .of_none ?_ (by simp [makeEndTag])
    exact (readAttributesFrom_suffix _ _ _ _ hread).trans (List.dropWhile_suffix _)
  next => exact .of_none (List.nil_suffix) (by simp)

/-- The tag stands in the text where its name is read. -/
theorem readTag_startTag_readFrom (s : List Char) :
    (readTag .startTag s).ReadFrom ('<' :: s) := by
  unfold readTag
  dsimp only
  split
  next attributes selfClosing rest hread =>
    constructor
    · exact ((readAttributesFrom_suffix _ _ _ _ hread).trans (List.dropWhile_suffix _)).trans
        (List.suffix_cons '<' s)
    · rintro tag htag
      obtain rfl := Token.startTag.inj (List.mem_singleton.1 htag)
      -- Attributes are only read where something follows the name.
      have hne : s.dropWhile isTagNameChar ≠ [] := by
        rintro hnil
        simp [hnil, readAttributes, readAttributesFrom] at hread
      obtain ⟨c, after, hafter⟩ := List.exists_cons_of_ne_nil hne
      refine ⟨s.takeWhile isTagNameChar, c, after, ?_, by simp, List.all_takeWhile, ?_⟩
      · rw [← hafter, List.takeWhile_append_dropWhile]
      · have hhead := List.head?_dropWhile_not isTagNameChar s
        simpa [hafter] using hhead
  next => exact .of_none (List.nil_suffix) (by simp)

/-! ### Text -/

theorem startTag_notMem_textTokens (tag : TagToken) (s : List Char) :
    Token.startTag tag ∉ textTokens s := by
  unfold textTokens
  split <;> simp

theorem startTag_notMem_rawText (tag : TagToken) (s : List Char) :
    Token.startTag tag ∉ rawText s := by
  unfold rawText
  split <;> simp

theorem readTextReference_readFrom (s : List Char) : (readTextReference s).ReadFrom s := by
  unfold readTextReference
  split
  next reading hread =>
    refine .of_none (readEntity?_suffix reading hread) ?_
    cases reading.wellFormed <;> simp
  next => exact .of_none List.suffix_rfl (by simp)

theorem readRaw_readFrom {element : String} {split : List Char → List Char × List Char}
    {s : List Char} (hsplit : (split s).2 <:+ s) : (readRaw element split s).ReadFrom s := by
  unfold readRaw
  split
  · exact (readTag_endTag_readFrom _).mono (List.drop_suffix 2 s)
  · exact .of_none hsplit fun tag => startTag_notMem_rawText tag _

/-! ### Markup -/

theorem readDeclaration_readFrom (foreign : Bool) (s : List Char) :
    (readDeclaration foreign s).ReadFrom s := by
  unfold readDeclaration
  split
  next r =>
    exact .of_none ((afterComment_suffix r _).trans (List.suffix_append ['-', '-'] r)) (by simp)
  next =>
    split_ifs
    · exact .of_none (afterBracket_suffix s) (by simp)
    · refine .of_none ?_ fun tag => startTag_notMem_textTokens tag _
      exact (splitSection_suffix _).trans (List.drop_suffix 7 s)
    · exact .of_none (afterBracket_suffix s) (by simp)

theorem readMarkup_readFrom (foreign : Bool) (s : List Char) :
    (readMarkup foreign s).ReadFrom ('<' :: s) := by
  unfold readMarkup
  split
  next r => exact (readDeclaration_readFrom foreign r).mono (List.suffix_append ['<', '!'] r)
  next r =>
    exact .of_none ((afterBracket_suffix r).trans (List.suffix_append ['<', '?'] r)) (by simp)
  next r => exact .of_none (List.suffix_append ['<', '/', '>'] r) (by simp)
  next => exact .of_none List.nil_suffix (by simp)
  next c r _ =>
    have hsuffix : c :: r <:+ '<' :: '/' :: c :: r := List.suffix_append ['<', '/'] (c :: r)
    split
    · exact (readTag_endTag_readFrom (c :: r)).mono hsuffix
    · exact .of_none ((afterBracket_suffix (c :: r)).trans hsuffix) (by simp)
  next c r _ _ _ _ _ =>
    split
    · exact readTag_startTag_readFrom (c :: r)
    · exact .of_none (List.suffix_cons '<' (c :: r)) (by simp)
  next => exact .of_none List.nil_suffix (by simp)

/-- **Every start tag that is read is written in the source.** -/
theorem scan_readFrom (mode : TextMode) (element : String) (foreign : Bool) (s : List Char) :
    (scan mode element foreign s).ReadFrom s := by
  unfold scan
  split
  next => exact .of_none List.nil_suffix fun tag => startTag_notMem_rawText tag s
  next => exact readRaw_readFrom (splitRaw_suffix element _ s)
  next => exact readRaw_readFrom (splitScript_suffix element .code s)
  next r => exact (readTextReference_readFrom r).mono (List.suffix_cons '&' r)
  next => exact readRaw_readFrom (splitRaw_suffix element _ s)
  next r => exact readMarkup_readFrom foreign r
  next r => exact (readTextReference_readFrom r).mono (List.suffix_cons '&' r)
  next r => exact .of_none (List.suffix_cons '\x00' r) (by simp)
  next => exact .of_none (List.dropWhile_suffix _) (by simp)

/-! ## Sources -/

theorem normalizeLineEnds_cons {c : Char} (hc : c ≠ '\r') (r : List Char) :
    normalizeLineEnds (c :: r) = c :: normalizeLineEnds r := by
  rw [normalizeLineEnds]
  · exact fun _ h _ => hc h
  · exact hc

/-- A carriage return becomes a line feed, together with one that follows it. -/
theorem normalizeLineEnds_return (r : List Char) :
    ∃ tail, tail <:+ r ∧ normalizeLineEnds ('\r' :: r) = '\n' :: normalizeLineEnds tail := by
  cases r with
  | nil => exact ⟨[], List.suffix_rfl, rfl⟩
  | cons d r =>
      by_cases hd : d = '\n'
      · subst hd
        exact ⟨r, List.suffix_cons _ _, rfl⟩
      · refine ⟨d :: r, List.suffix_rfl, ?_⟩
        rw [normalizeLineEnds]
        simp [hd]

/-- What a text with rewritten line ends ends with comes from an end of the text. -/
theorem exists_suffix_of_normalizeLineEnds {s t : List Char} (h : t <:+ normalizeLineEnds s) :
    ∃ u, u <:+ s ∧ normalizeLineEnds u = t := by
  induction hlen : s.length using Nat.strong_induction_on generalizing s with
  | _ n ih =>
      subst hlen
      cases s with
      | nil => exact ⟨[], List.suffix_rfl, (List.suffix_nil.1 h).symm⟩
      | cons c r =>
          obtain ⟨d, tail, htail, heq⟩ :
              ∃ d tail, tail <:+ r ∧ normalizeLineEnds (c :: r) = d :: normalizeLineEnds tail := by
            by_cases hc : c = '\r'
            · subst hc
              exact ⟨'\n', normalizeLineEnds_return r⟩
            · exact ⟨c, r, List.suffix_rfl, normalizeLineEnds_cons hc r⟩
          rw [heq] at h
          rcases List.suffix_cons_iff.1 h with rfl | h
          · exact ⟨c :: r, List.suffix_rfl, heq⟩
          · obtain ⟨u, hu, hut⟩ := ih tail.length (Nat.lt_succ_of_le htail.length_le) h rfl
            exact ⟨u, (hu.trans htail).trans (List.suffix_cons c r), hut⟩

/-- A character that is no line feed comes from itself. -/
theorem eq_cons_of_normalizeLineEnds {u t : List Char} {c : Char} (hc : c ≠ '\n')
    (h : normalizeLineEnds u = c :: t) : ∃ v, u = c :: v ∧ normalizeLineEnds v = t := by
  cases u with
  | nil => cases h
  | cons d r =>
      by_cases hd : d = '\r'
      · subst hd
        obtain ⟨tail, -, heq⟩ := normalizeLineEnds_return r
        rw [heq] at h
        exact absurd (List.cons.inj h).1.symm hc
      · rw [normalizeLineEnds_cons hd] at h
        obtain ⟨rfl, ht⟩ := List.cons.inj h
        exact ⟨r, rfl, ht⟩

/-- A word without line feeds comes from itself. -/
theorem eq_append_of_normalizeLineEnds {word t : List Char} (hword : '\n' ∉ word) {u : List Char}
    (h : normalizeLineEnds u = word ++ t) : ∃ v, u = word ++ v ∧ normalizeLineEnds v = t := by
  induction word generalizing u with
  | nil => exact ⟨u, rfl, h⟩
  | cons c word ih =>
      rw [List.mem_cons, not_or] at hword
      obtain ⟨v, rfl, hv⟩ := eq_cons_of_normalizeLineEnds (Ne.symm hword.1) h
      obtain ⟨v', rfl, hv'⟩ := ih hword.2 hv
      exact ⟨v', rfl, hv'⟩

/-- A character that ends the name of a tag. -/
def endsTagName (c : Char) : Bool :=
  isAsciiBlank c || c == '/' || c == '>'

/-- A character that is no part of a name ends one, also where it stands for a line end. -/
theorem endsTagName_of_normalizeLineEnds {u t : List Char} {c : Char}
    (hc : isTagNameChar c = false) (h : normalizeLineEnds u = c :: t) :
    u.head?.any endsTagName = true := by
  cases u with
  | nil => cases h
  | cons d r =>
      by_cases hd : d = '\r'
      · subst hd
        rfl
      · rw [normalizeLineEnds_cons hd] at h
        obtain ⟨rfl, -⟩ := List.cons.inj h
        simp only [isTagNameChar, isTagBlank, Bool.and_eq_false_iff, Bool.not_eq_false',
          Bool.or_eq_true] at hc
        simp only [List.head?_cons, Option.any_some, endsTagName, isAsciiBlank, Bool.or_eq_true]
        grind

/-- A source holds a start tag of a name, in any case of its letters and whatever follows the name
    in the tag. -/
def HasStartTag (name source : String) : Prop :=
  ∃ before word after, source.toList = before ++ '<' :: (word ++ after) ∧
    lowerAscii (String.ofList word) = name ∧ after.head?.any endsTagName = true

theorem sourceChars_eq (source : String) :
    ∃ s, s <:+ source.toList ∧ sourceChars source = normalizeLineEnds s := by
  unfold sourceChars
  split
  next r heq => exact ⟨r, heq ▸ List.suffix_cons _ r, rfl⟩
  next => exact ⟨source.toList, List.suffix_rfl, rfl⟩

/-- Names are only changed by putting them in lower case unless they hold null characters. -/
theorem lowerAscii_of_map_nameChar {word : List Char} {name : String}
    (h : word.map nameChar = name.toList) (hname : replacementChar ∉ name.toList) :
    lowerAscii (String.ofList word) = name := by
  have hmap : word.map Char.toLower = word.map nameChar := by
    refine List.map_congr_left fun c hc => ?_
    have hne : nameChar c ≠ replacementChar := by
      rintro hbad
      exact hname (h ▸ hbad ▸ List.mem_map_of_mem hc)
    unfold nameChar at hne ⊢
    split <;> simp_all
  rw [lowerAscii, String.toList_ofList, hmap, h, String.ofList_toList]

/-- **A start tag that is read from a source stands in it.** -/
theorem hasStartTag_of_writesTag {name source : String} (h : WritesTag name (sourceChars source))
    (hname : replacementChar ∉ name.toList) : HasStartTag name source := by
  obtain ⟨word, c, after, hsuffix, hword, hall, hc⟩ := h
  obtain ⟨s, hs, hchars⟩ := sourceChars_eq source
  rw [hchars] at hsuffix
  obtain ⟨u, hu, htag⟩ := exists_suffix_of_normalizeLineEnds hsuffix
  obtain ⟨v, rfl, hv⟩ := eq_cons_of_normalizeLineEnds (by decide) htag
  have hfeed : '\n' ∉ word := fun hmem => absurd (List.all_eq_true.1 hall _ hmem) (by decide)
  obtain ⟨rest, rfl, hrest⟩ := eq_append_of_normalizeLineEnds hfeed hv
  obtain ⟨before, hbefore⟩ := hu.trans hs
  exact ⟨before, word, rest, hbefore.symm, lowerAscii_of_map_nameChar hword hname,
    endsTagName_of_normalizeLineEnds hc hrest⟩

end HtmlToLatex.Html
