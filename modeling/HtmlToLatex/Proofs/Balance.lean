import HtmlToLatex.Proofs.ImageName
import HtmlToLatex.Proofs.Nesting
import HtmlToLatex.Proofs.Rendering

set_option autoImplicit false

/-! # Balanced output

If the sources of the output are free of backslashes and braces, and the texts of hashes, too, then
the output is tidy: all braces and all environments in it are the converters' own, and those come in
pairs. -/

namespace HtmlToLatex

/-! ## Escaped texts -/

/-- A character that stands for itself in running text, whatever comes before it. -/
def isSafe (c : Char) : Bool :=
  isInert c && c != '#'

/-- A text without backslashes, braces and hashes. -/
def IsSafe (t : String) : Prop :=
  ∀ c ∈ t.toList, isSafe c = true

instance (t : String) : Decidable (IsSafe t) :=
  List.decidableBAll _ _

/-- Texts in which every backslash belongs to the spelling of a reserved character. -/
inductive Escaped : List Char → Prop where
  | nil : Escaped []
  | safe {c rest} (hc : isSafe c = true) (hrest : Escaped rest) : Escaped (c :: rest)
  | spelled {c spelling rest} (hc : c ≠ '#') (hspelling : reserved? c = some spelling)
      (hrest : Escaped rest) : Escaped (spelling ++ rest)

theorem isSafe_iff {c : Char} : isSafe c = true ↔ c ≠ '\\' ∧ c ≠ '{' ∧ c ≠ '}' ∧ c ≠ '#' := by
  simp [isSafe, isInert, and_assoc]

/-- The spellings of reserved characters, the hash apart. -/
theorem spelling_cases {c : Char} {spelling : List Char} (h : reserved? c = some spelling)
    (hc : c ≠ '#') :
    spelling = ['\\', '%'] ∨ spelling = ['\\', '&'] ∨
      spelling = "\\textasciitilde\x7b\x7d".toList ∨ spelling = "\\textbar\x7b\x7d".toList := by
  unfold reserved? at h
  split at h
  case h_3 => exact absurd rfl hc
  case h_6 => cases h
  all_goals
    cases h
    simp

theorem exists_tail_of_reserved? {c : Char} {spelling : List Char}
    (h : reserved? c = some spelling) (hc : c ≠ '#') :
    ∃ d ∈ ['%', '&', 't'], ∃ tail, spelling = '\\' :: d :: tail ∧ '\\' ∉ d :: tail := by
  rcases spelling_cases h hc with rfl | rfl | rfl | rfl
  · exact ⟨'%', by decide, _, rfl, by decide⟩
  · exact ⟨'&', by decide, _, rfl, by decide⟩
  · exact ⟨'t', by decide, _, rfl, by decide⟩
  · exact ⟨'t', by decide, _, rfl, by decide⟩

theorem Escaped.tidy {s : List Char} (h : Escaped s) : Tidy s := by
  have htilde : Tidy ('\\' :: 't' :: ("extasciitilde".toList ++ inBraces [])) :=
    .control rfl ((Tidy.of_inert (List.all_eq_true.1 rfl)).append Tidy.nil.wrapped)
  have hbar : Tidy ('\\' :: 't' :: ("extbar".toList ++ inBraces [])) :=
    .control rfl ((Tidy.of_inert (List.all_eq_true.1 rfl)).append Tidy.nil.wrapped)
  induction h with
  | nil => exact .nil
  | safe hc _ ih =>
      obtain ⟨hbackslash, hopen, hclose, -⟩ := isSafe_iff.1 hc
      exact .inert (isInert_iff.2 ⟨hbackslash, hopen, hclose⟩) ih
  | spelled hc hspelling _ ih =>
      rcases spelling_cases hspelling hc with rfl | rfl | rfl | rfl
      · exact .control rfl ih
      · exact .control rfl ih
      · exact htilde.append ih
      · exact hbar.append ih

/-! ## Escaping -/

theorem escaped_of_safe {before : Option Char} {s : List Char} (hbefore : before ≠ some '\\')
    (hs : ∀ c ∈ s, isSafe c = true) : Escaped (escapeReservedAfter before s) := by
  induction s generalizing before with
  | nil => exact .nil
  | cons c s ih =>
      rw [List.forall_mem_cons] at hs
      obtain ⟨hbackslash, -, -, hhash⟩ := isSafe_iff.1 hs.1
      have hsome : some c ≠ some '\\' := by simpa using hbackslash
      have hrest := ih hsome hs.2
      unfold escapeReservedAfter
      cases hspelling : reserved? c with
      | none => exact .safe hs.1 hrest
      | some spelling =>
          dsimp only
          rw [if_neg (by simpa using hbefore)]
          exact .spelled hhash hspelling hrest

/-! ## Decoding -/

theorem Escaped.of_append {s rest : List Char} (h : Escaped (s ++ rest)) (hs : '\\' ∉ s) :
    Escaped rest := by
  induction s with
  | nil => exact h
  | cons c s ih =>
      rw [List.mem_cons, not_or] at hs
      refine ih ?_ hs.2
      generalize ht : c :: s ++ rest = t at h
      cases h with
      | nil => cases ht
      | safe _ hrest =>
          cases ht
          exact hrest
      | spelled hc hspelling _ =>
          obtain ⟨d, -, tail, rfl, -⟩ := exists_tail_of_reserved? hspelling hc
          exact absurd (List.cons.inj ht).1.symm hs.1

/-- The backslash before an ampersand belongs to its spelling. -/
theorem Escaped.of_ampersand {rest : List Char} (h : Escaped ('\\' :: '&' :: rest)) :
    Escaped rest := by
  generalize ht : '\\' :: '&' :: rest = t at h
  cases h with
  | nil => cases ht
  | safe hc _ =>
      cases ht
      cases hc
  | spelled hc hspelling hrest =>
      rcases spelling_cases hspelling hc with rfl | rfl | rfl | rfl
      · cases (List.cons.inj (List.cons.inj ht).2).1
      · cases ht
        exact hrest
      · cases (List.cons.inj (List.cons.inj ht).2).1
      · cases (List.cons.inj (List.cons.inj ht).2).1

theorem Escaped.hash_not_mem {s : List Char} (h : Escaped s) : '#' ∉ s := by
  induction h with
  | nil => exact List.not_mem_nil
  | safe hc _ ih =>
      rw [List.mem_cons, not_or]
      exact ⟨(isSafe_iff.1 hc).2.2.2.symm, ih⟩
  | spelled hc hspelling _ ih =>
      rw [List.mem_append, not_or]
      exact ⟨hash_not_mem_of_reserved? hspelling hc, ih⟩

/-- What references without a hash stand for is escaped again if need be. -/
theorem Escaped.basic_append {d : Char} {s : List Char} (hd : d ∈ basicCharacters)
    (hs : Escaped s) : Escaped ((reserved? d).getD [d] ++ s) := by
  have hsafe : ∀ d ∈ basicCharacters, isSafe d = true := List.all_eq_true.1 rfl
  cases hspelling : reserved? d with
  | none => exact .safe (hsafe d hd) hs
  | some spelling => exact .spelled (isSafe_iff.1 (hsafe d hd)).2.2.2 hspelling hs

theorem Escaped.decode {s : List Char} (h : Escaped s) : Escaped (decodeEntityChars s) := by
  -- A reference spans several spellings and safe characters, so the induction is on the length.
  induction hlength : s.length using Nat.strong_induction_on generalizing s with
  | _ n ih =>
      subst hlength
      cases h with
      | nil =>
          rw [decodeEntityChars_nil]
          exact .nil
      | @safe c rest hc hrest =>
          have hbackslash : '\\' ∉ [c] := by simpa using (isSafe_iff.1 hc).1.symm
          rw [← List.singleton_append, decodeEntityChars_append_of_not_mem hbackslash]
          exact .safe hc (ih rest.length (by simp) hrest rfl)
      | @spelled c spelling rest hc hspelling hrest =>
          have hescaped := Escaped.spelled hc hspelling hrest
          obtain ⟨e, -, tail, rfl, htail⟩ := exists_tail_of_reserved? hspelling hc
          have hdecoded := ih rest.length (by simp; omega) hrest rfl
          cases hread : readReference? ('\\' :: (e :: tail ++ rest)) with
          | some result =>
              -- The name of the reference is safe, so what follows its semicolon is escaped again.
              obtain ⟨d, after⟩ := result
              obtain ⟨name, hsplit, halpha, hd⟩ :=
                exists_name_of_readReference? hescaped.hash_not_mem hread
              rw [show '\\' :: e :: tail ++ rest = _ from hsplit] at hescaped
              have hname : '\\' ∉ name ++ [';'] := by
                simpa using not_mem_of_alpha halpha rfl
              have hafter : Escaped after := by
                refine Escaped.of_append (s := name ++ [';']) ?_ hname
                simpa using hescaped.of_ampersand
              rw [List.cons_append, decodeEntityChars_of_some hread]
              exact .basic_append hd (ih after.length (readReference?_length hread) hafter rfl)
          | none =>
              -- No reference starts within the spelling, which is copied as a whole.
              rw [List.cons_append, decodeEntityChars_of_none hread,
                decodeEntityChars_append_of_not_mem htail, ← List.cons_append]
              exact .spelled hc hspelling hdecoded

/-! ## Delimiters -/

/-- Parenthesis delimiters do not occur in an escaped text. -/
theorem Escaped.replacePair_eq {b c : Char} {s : List Char} (h : Escaped s)
    (hb : b ∉ ['%', '&', 't']) : replacePair '\\' b c s = s := by
  induction h with
  | nil => simp [replacePair]
  | @safe d rest hd _ ih =>
      have hbackslash : '\\' ∉ [d] := by simpa using (isSafe_iff.1 hd).1.symm
      rw [← List.singleton_append, replacePair_append_of_not_mem hbackslash, ih]
  | spelled hd hspelling _ ih =>
      obtain ⟨e, he, tail, rfl, htail⟩ := exists_tail_of_reserved? hspelling hd
      have hne : e ≠ b := by
        rintro rfl
        exact hb he
      rw [List.cons_append, List.cons_append, replacePair, if_neg fun h => hne h.2,
        ← List.cons_append, replacePair_append_of_not_mem htail, ih]

/-! ## Running text -/

theorem escaped_escapeReservedChars (options : Options) {s : List Char}
    (hs : ∀ c ∈ s, isSafe c = true) :
    Escaped (escapeReservedChars (dropTabs (replaceBreaks (breakReplacement options) s))) := by
  refine escaped_of_safe nofun fun c hc => ?_
  rcases mem_dropTabs_replaceBreaks hc with hmem | rfl
  · exact hs c hmem
  · rfl

/-- In a text without special characters there are no delimiters to choose. -/
theorem normalizeChars_of_safe (options : Options) {s : List Char}
    (hs : ∀ c ∈ s, isSafe c = true) :
    normalizeChars options s = decodeEntityChars
      (escapeReservedChars (dropTabs (replaceBreaks (breakReplacement options) s))) := by
  have hdecoded := (escaped_escapeReservedChars options hs).decode
  unfold normalizeChars chooseDelimiters
  split
  · rw [preferDollarChars, hdecoded.replacePair_eq (by decide),
      hdecoded.replacePair_eq (by decide)]
  · rfl

/-- The running text of a text without special characters is escaped. -/
theorem Escaped.normalizeChars (options : Options) {s : List Char}
    (hs : ∀ c ∈ s, isSafe c = true) : Escaped (normalizeChars options s) := by
  rw [normalizeChars_of_safe options hs]
  exact (escaped_escapeReservedChars options hs).decode

/-- What the running text of a text without special characters is made of, apart from the text. -/
theorem mem_normalizeChars {options : Options} {s : List Char} (hs : ∀ c ∈ s, isSafe c = true)
    {c : Char} (h : c ∈ normalizeChars options s) :
    c ∈ s ∨ c = '\n' ∨ (∃ d, ∃ spelling ∈ reserved? d, c ∈ spelling) ∨
      ∃ d ∈ basicCharacters, c ∈ (reserved? d).getD [d] := by
  rw [normalizeChars_of_safe options hs] at h
  have hhash := (escaped_escapeReservedChars options hs).hash_not_mem
  rcases mem_decodeEntityChars hhash h with h | hbasic
  · rcases mem_escapeReservedAfter h with h | hspelling
    · exact (mem_dropTabs_replaceBreaks h).imp_right .inl
    · exact .inr (.inr (.inl hspelling))
  · exact .inr (.inr (.inr hbasic))

/-! ## The law of tidiness -/

/-- No tidy text has an inline formula in parentheses at its start. -/
theorem Tidy.not_parenthesis {s : List Char} (h : Tidy ('\\' :: '(' :: s)) : False := by
  generalize ht : '\\' :: '(' :: s = t at h
  cases h with
  | nil => cases ht
  | inert hc _ =>
      cases ht
      cases hc
  | control hc _ =>
      cases ht
      cases hc
  | row => cases (List.cons.inj (List.cons.inj ht).2).1
  | group => cases (List.cons.inj ht).1
  | environment => cases (List.cons.inj (List.cons.inj ht).2).1

/-- Nor is there one at its end. -/
theorem Tidy.not_closing_parenthesis {s : List Char} (h : Tidy (s ++ ['\\', ')'])) : False := by
  -- The parenthesis could only follow a backslash that is no token of its own.
  have hbackslash : Tidy ((s ++ ['\\']) ++ [')']) := by simpa using h
  have hfront := (hbackslash.of_concat ⟨by decide, by decide, by decide⟩).1
  cases (hfront.of_concat ⟨by decide, by decide, by decide⟩).2

/-- A tidy text that is a single formula stands between dollars. -/
theorem Tidy.formulaInterior? {s interior : List Char} (h : Tidy s)
    (hinterior : formulaInterior? s = some interior) :
    s = '$' :: (interior ++ ['$']) ∧ Tidy interior := by
  obtain ⟨opening, hopening, closing, hclosing, rfl⟩ := formulaInterior?_spec hinterior
  simp only [List.mem_cons, List.not_mem_nil, or_false] at hopening hclosing
  rcases hopening with rfl | rfl
  · rcases hclosing with rfl | rfl
    · have hfront : Tidy ('$' :: interior) :=
        (h.of_concat ⟨by decide, by decide, by decide⟩).1
      exact ⟨by simp, hfront.of_cons rfl⟩
    · exact h.not_closing_parenthesis.elim
  · exact Tidy.not_parenthesis (by simpa using h) |>.elim

theorem Tidy.wrapSoleEquationChars {s : List Char} (h : Tidy s) :
    Tidy (wrapSoleEquationChars s) := by
  unfold HtmlToLatex.wrapSoleEquationChars
  split
  next interior hinterior =>
    split
    · exact h
    · exact .control rfl ((h.formulaInterior? hinterior).2.append (.control rfl .nil))
  · exact h

/-! ### Texts of the output -/

/-- A text without backslashes and braces. -/
def IsInert (t : String) : Prop :=
  ∀ c ∈ t.toList, isInert c = true

instance (t : String) : Decidable (IsInert t) :=
  List.decidableBAll _ _

theorem isInert_of_isPlain {c : Char} (h : isPlain c = true) : isInert c = true := by
  simp only [isPlain, Bool.and_eq_true, bne_iff_ne] at h
  exact isInert_iff.2 ⟨h.1.1.2, h.1.2, h.2⟩

theorem toList_group (t : String) : (Latex.group t).toList = inBraces t.toList := by
  simp [Latex.group, inBraces]

theorem toList_begin (name : String) :
    (Latex.command "begin" name).toList = beginMark name.toList := by
  simp [Latex.command, toList_group, beginMark]

theorem toList_end (name : String) :
    (Latex.command "end" name).toList = endMark name.toList := by
  simp [Latex.command, toList_group, endMark]

theorem tidy_law : OutputLaw fun _ t => Tidy t.toList where
  append := by
    intro a b t u ht hu
    rw [String.toList_append]
    exact ht.append hu
  trim := by
    intro a t ht
    rw [toList_trim]
    exact ht.trimChars
  plain ht := .of_inert fun c hc => isInert_of_isPlain (List.all_eq_true.1 ht c hc)
  commandName := by
    intro name hname
    obtain ⟨c, rest, hchars, hhead, hrest⟩ := exists_head_of_isCommandName hname
    have hc : isControl c = true := by
      rw [isControl, Bool.or_eq_true]
      exact .inl hhead
    rw [String.toList_append, hchars]
    exact .control hc (.of_inert fun d hd => isInert_of_isPlain (hrest d hd))
  rowEnd := .inert rfl (.row (.inert rfl .nil))
  group := by
    intro a t ht
    rw [toList_group]
    exact ht.wrapped
  environment := by
    intro a t name hname ht
    rw [String.toList_append, String.toList_append, toList_begin, toList_end]
    simpa using Tidy.environment (List.all_eq_true.1 hname) ht .nil
  soleEquation := by
    intro a t ht
    rw [wrapSoleEquation, String.toList_ofList]
    exact ht.wrapSoleEquationChars

/-! ## Sources of the output -/

theorem inert_inPaths : Url.InPaths fun c => isInert c = true where
  slash := rfl
  colon := rfl
  percent := rfl
  digit := by decide

/-- What the output is made from has characters of given kinds only: the texts, the names, which are
targets of links, sources of images and ids, and the sizes of images. -/
structure HasSources (inText inName inSize : Char → Bool) (setting : Setting) (nodes : List Node) :
    Prop where
  texts : ∀ node ∈ nodesIn nodes, ∀ content ∈ node.text?, content.toList.all inText = true
  targets : ∀ node ∈ nodesIn nodes, ∀ target ∈ attribute? node.attributes "href",
    target.toList.all inName = true
  sources : ∀ node ∈ nodesIn nodes, node.tag? = some .img →
    ∀ source ∈ attribute? node.attributes "src", source.toList.all inName = true
  sizes : ∀ size ∈ setting.options.imageWidth.toList ++ setting.options.imageHeight.toList,
    size.toList.all inSize = true
  ids : ∀ n, (setting.ids n).toList.all inName = true

/-- The path of an image is made of the characters of names. -/
theorem HasSources.imagePath {inText inName inSize : Char → Bool} {setting : Setting}
    {nodes : List Node} (h : HasSources inText inName inSize setting nodes)
    (hpaths : Url.InPaths fun c => inName c = true)
    (hfixed : (imagesName ++ "/" ++ "." ++ defaultExtension).toList.all inName = true)
    {node : Node} (hnode : node ∈ nodesIn nodes) (himg : node.tag? = some .img) {source : String}
    (hsource : attribute? node.attributes "src" = some source) (n : Nat) :
    (imagesName ++ "/" ++ localName setting.options.autogenImageNames source
      (setting.ids n)).toList.all inName = true := by
  simp only [String.toList_append, List.all_append, Bool.and_eq_true] at hfixed ⊢
  obtain ⟨⟨hdirectory, hdot⟩, hdefault⟩ := hfixed
  refine ⟨hdirectory, List.all_eq_true.2 ?_⟩
  rw [List.all_eq_true] at hdot hdefault
  exact forall_mem_localName hpaths (hdot '.' (by decide)) hdefault _
    (List.all_eq_true.1 (h.sources _ hnode himg source hsource)) (List.all_eq_true.1 (h.ids n))

/-! ## Whole conversions -/

/-- **The output is balanced,** with or without a document around it: its braces match, and each of
its environments is closed before those around it are. Texts must be free of backslashes, braces and
hashes; targets of links, sources of images, options and ids of backslashes and braces. -/
theorem convert_nested (setting : Setting) (nodes : List Node)
    (htexts : ∀ node ∈ nodesIn nodes, ∀ content ∈ node.text?, IsSafe content)
    (htargets : ∀ node ∈ nodesIn nodes, ∀ target ∈ attribute? node.attributes "href",
      IsInert target)
    (hsources : ∀ node ∈ nodesIn nodes, node.tag? = some .img →
      ∀ source ∈ attribute? node.attributes "src", IsInert source)
    (hoptions : ∀ text ∈ setting.options.texts, IsInert text)
    (hids : ∀ n, IsInert (setting.ids n)) (w : World) :
    let output := ((convert setting nodes).run w).1.toList
    Balanced output ∧ nested [] (markers output) = true := by
  have hinert : ∀ {t : String}, IsInert t → Tidy t.toList := fun h => .of_inert h
  have htidy : Tidy ((convert setting nodes).run w).1.toList := by
    refine convert_yields tidy_law (fun node hnode => ?_) (fun t ht => hinert (hoptions t ht)) w
    cases node with
    | text content =>
        rw [Node.Fits, normalizeText, String.toList_ofList]
        exact (Escaped.normalizeChars _ (htexts _ hnode content rfl)).tidy
    | element name attributes children =>
        refine ⟨fun _ target h => hinert (htargets _ hnode target h), fun himg => ?_⟩
        refine convertImage_yields tidy_law (fun t ht => hinert (hoptions t ht)) ?_
        intro source hsource n
        have hsource := hsources _ hnode (by rw [Node.tag?, himg]) source hsource
        have hdefault : IsInert defaultExtension := by decide
        exact hinert (forall_mem_localName inert_inPaths rfl hdefault _ hsource (hids n))
  have hnested := htidy.nested_markers [] []
  rw [List.append_nil] at hnested
  exact ⟨htidy.balanced, hnested⟩

/-- A document with a table in a list, an image and a text with reserved characters. -/
theorem convert_nested_document :
    let options : Options := { Options.document "Report" with imageWidth := some "5cm" }
    let nodes : List Node :=
      [.element "ul" [] [.element "li" [] [.text "50% ~ a|b",
        .element "table" [] [.element "tr" [] [.element "td" [] [.text "$x$"]]]]],
        .element "p" [] [.text "$x$", .element "img" [⟨"src", "https://h/a%7Bb.png?q"⟩] []],
        .element "a" [⟨"href", "https://h/"⟩] [.text "&amp;"]]
    let output := ((convert { options, ids := fun _ => "id" } nodes).run {}).1.toList
    Balanced output ∧ nested [] (markers output) = true := by
  intro options nodes
  have hid : IsInert "id" := by decide
  exact convert_nested _ nodes (by decide) (by decide) (by decide) (by decide) (fun _ => hid) {}

end HtmlToLatex
