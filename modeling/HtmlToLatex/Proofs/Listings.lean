import HtmlToLatex.Convert
import HtmlToLatex.Proofs.Conversion
import HtmlToLatex.Proofs.Delimiters
import HtmlToLatex.Proofs.Guarded
import HtmlToLatex.Proofs.LineBreaks

set_option autoImplicit false

/-! # Listings

The text of a listing goes through the same passes as running text, `convertCode_lists`. So a
listing shows its source as it is only where all passes leave the text alone. A text may grow in one
pass and shrink in another; `normalizeText_eq_self_iff` says that this never comes out even. The
texts that are kept are those in which no pass finds anything to do. -/

namespace HtmlToLatex

/-! ## Settled texts -/

/-- No pass finds anything to do in a text. -/
structure IsSettled (options : Options) (t : String) : Prop where
  tab : '\t' ∉ t.toList
  carriageReturn : '\r' ∉ t.toList
  ignored : options.ignoreBreaks = true → '\n' ∉ t.toList
  /-- Where line breaks are kept, they are paragraph breaks already. -/
  paragraphs : options.ignoreBreaks = false → ∀ n, IsLineRun n t.toList → n = 2
  guarded : HasGuards t
  references : ∀ d, ¬HoldsReference t.toList d
  delimiters : options.preferDollarMath = true → ∀ p ∈ ['(', ')'], ¬['\\', p] <:+: t.toList

/-! ## Passes without anything to do -/

/-- Paragraph breaks are replaced by themselves. The three situations in which the pass can be: in
other text, after the first line feed of a run, and after the second one. -/
theorem replaceBreaksFrom_paragraphs {s : List Char} (hs : '\r' ∉ s) :
    (AreParagraphBreaks (lineRuns 0 s) →
      replaceBreaksFrom paragraphBreak.toList false s = s) ∧
    (AreParagraphBreaks (lineRuns 1 s) →
      '\n' :: replaceBreaksFrom paragraphBreak.toList true s = s) ∧
    (AreParagraphBreaks (lineRuns 2 s) →
      replaceBreaksFrom paragraphBreak.toList true s = s) := by
  induction s with
  | nil => simp [replaceBreaksFrom, lineRuns, endedRun, AreParagraphBreaks]
  | cons c s ih =>
      rw [List.mem_cons, not_or] at hs
      obtain ⟨ihText, ihFirst, ihSecond⟩ := ih hs.2
      by_cases hc : c = '\n'
      · subst hc
        have hnew : replaceBreaksFrom paragraphBreak.toList false ('\n' :: s) =
            '\n' :: '\n' :: replaceBreaksFrom paragraphBreak.toList true s := by
          simp [replaceBreaksFrom, isLineBreak, paragraphBreak]
        have hsame : replaceBreaksFrom paragraphBreak.toList true ('\n' :: s) =
            replaceBreaksFrom paragraphBreak.toList true s := by
          simp [replaceBreaksFrom, isLineBreak]
        rw [hnew, hsame, lineRuns_feed, lineRuns_feed, lineRuns_feed]
        refine ⟨fun h => by rw [ihFirst h], fun h => by rw [ihSecond h], fun h => ?_⟩
        -- A third line feed makes the run too long.
        obtain ⟨n, hn, hlong⟩ := exists_le_of_lineRuns (by omega : 0 < 2 + 1) s
        have htwo := h n hn
        omega
      · have hbreak : isLineBreak c = false := by
          rw [← Bool.not_eq_true, isLineBreak_iff, not_or]
          exact ⟨hc, Ne.symm hs.1⟩
        have hkeep (inRun : Bool) : replaceBreaksFrom paragraphBreak.toList inRun (c :: s) =
            c :: replaceBreaksFrom paragraphBreak.toList false s := by
          rw [replaceBreaksFrom, if_neg (by simp [hbreak])]
        rw [hkeep, hkeep, lineRuns_cons hc, lineRuns_cons hc, lineRuns_cons hc]
        refine ⟨fun h => ?_, fun h => ?_, fun h => ?_⟩
        · rw [ihText fun n hn => h n (List.mem_append_right _ hn)]
        · exact absurd (h 1 (by simp [endedRun])) (by decide)
        · rw [ihText fun n hn => h n (List.mem_append_right _ hn)]

/-- The first two passes find nothing to do. -/
theorem dropTabs_replaceBreaks_eq {options : Options} {s : List Char} (htab : '\t' ∉ s)
    (hreturn : '\r' ∉ s) (hignored : options.ignoreBreaks = true → '\n' ∉ s)
    (hparagraphs : options.ignoreBreaks = false → AreParagraphBreaks (lineRuns 0 s)) :
    dropTabs (replaceBreaks (breakReplacement options) s) = s := by
  have hbreaks : replaceBreaks (breakReplacement options) s = s := by
    unfold breakReplacement replaceBreaks
    cases hignore : options.ignoreBreaks with
    | true =>
        refine replaceBreaksFrom_of_no_breaks _ (fun c hc => ?_) false
        rw [← Bool.not_eq_true, isLineBreak_iff]
        rintro (rfl | rfl)
        · exact hignored hignore hc
        · exact hreturn hc
    | false => exact (replaceBreaksFrom_paragraphs hreturn).1 (hparagraphs hignore)
  rw [hbreaks, dropTabs, List.filter_eq_self]
  rintro c hc
  simpa using ne_of_mem_of_not_mem hc htab

theorem decodeEntityChars_of_no_reference {s : List Char} (hs : ∀ d, ¬HoldsReference s d) :
    decodeEntityChars s = s := by
  induction s with
  | nil => exact decodeEntityChars_nil
  | cons c s ih =>
      have hnone : readReference? (c :: s) = none := by
        by_contra hsome
        obtain ⟨⟨d, rest⟩, hread⟩ := Option.ne_none_iff_exists'.1 hsome
        exact hs d ⟨c :: s, rest, List.suffix_rfl, hread⟩
      rw [decodeEntityChars_of_none hnone,
        ih fun d hmem => hs d (hmem.mono (List.suffix_cons c s))]

theorem dollarPairs_eq_self {s : List Char} (hs : ∀ p ∈ ['(', ')'], ¬['\\', p] <:+: s) :
    dollarPairs s = s := by
  induction s with
  | nil => rfl
  | cons x s ih =>
      rw [dollarPairs_cons, ih fun p hp hinfix => hs p hp (List.infix_cons hinfix)]
      rintro rfl p hp hhead
      obtain ⟨r, rfl⟩ := List.head?_eq_some_iff.1 hhead
      exact hs p hp ⟨[], r, rfl⟩

/-! ## Counting ampersands -/

/-- The second text is the first one without the names and numbers of its references, all of which
stand for ampersands. -/
inductive FoldsReferences : List Char → List Char → Prop where
  | nil : FoldsReferences [] []
  | keep {c s t} (hread : readReference? (c :: s) = none) (hrest : FoldsReferences s t) :
      FoldsReferences (c :: s) (c :: t)
  | reference {body s t} (hbody : '\n' ∉ body) (hrest : FoldsReferences s t) :
      FoldsReferences ('\\' :: '&' :: (body ++ ';' :: s)) ('\\' :: '&' :: t)

namespace FoldsReferences

variable {s t : List Char}

theorem sublist (h : FoldsReferences s t) : t.Sublist s := by
  induction h with
  | nil => exact List.Sublist.refl []
  | keep _ _ ih => exact ih.cons_cons _
  | reference _ _ ih =>
      exact (((ih.cons ';').trans (List.sublist_append_right _ _)).cons_cons '&').cons_cons '\\'

/-- Folding a reference makes a text shorter. -/
theorem not_holdsReference (h : FoldsReferences s t) (hlength : s.length ≤ t.length) (d : Char) :
    ¬HoldsReference s d := by
  induction h with
  | nil =>
      rintro ⟨back, rest, hback, hread⟩
      rw [List.suffix_nil.1 hback] at hread
      cases hread
  | @keep c s t hnone _ ih =>
      rintro ⟨back, rest, hback, hread⟩
      rcases List.suffix_cons_iff.1 hback with rfl | hsuffix
      · cases hnone.symm.trans hread
      · exact ih (by simpa using hlength) ⟨back, rest, hsuffix, hread⟩
  | reference _ hrest _ =>
      have hle := hrest.sublist.length_le
      simp only [List.length_cons, List.length_append] at hlength
      omega

theorem lineRuns_eq (h : FoldsReferences s t) (pending : Nat) :
    lineRuns pending t = lineRuns pending s := by
  induction h generalizing pending with
  | nil => rfl
  | keep _ _ ih => exact lineRuns_cons_congr _ ih pending
  | @reference body s t hbody _ ih =>
      have hreference : '\n' ∉ '\\' :: '&' :: (body ++ [';']) := by simpa using hbody
      have hfolded : '\n' ∉ ['\\', '&'] := by decide
      have hleft := lineRuns_append (by simp) hfolded pending t
      have hright := lineRuns_append (by simp) hreference pending s
      rw [ih, ← hright] at hleft
      simpa using hleft

end FoldsReferences

theorem exists_body_of_readReference? {s rest : List Char} {d : Char}
    (h : readReference? s = some (d, rest)) :
    ∃ body, s = '\\' :: '&' :: (body ++ ';' :: rest) ∧ '\n' ∉ body := by
  obtain ⟨front, hsplit, hfront⟩ := exists_semicolon_of_readReference? h
  have hfeed := hfront '\n' (by decide)
  unfold readReference? at h
  split at h
  next tail =>
    -- The semicolon comes after the two characters that the reference opens with.
    match front, hsplit with
    | [], hsplit => cases hsplit
    | [_], hsplit => cases hsplit
    | _ :: _ :: body, hsplit =>
        simp only [List.cons_append, List.cons.injEq] at hsplit
        obtain ⟨rfl, rfl, rfl⟩ := hsplit
        exact ⟨body, rfl, fun hmem => hfeed (by simp [hmem])⟩
  · cases h

theorem count_ampersand_spelling (d : Char) :
    ((reserved? d).getD [d]).count '&' = if d = '&' then 1 else 0 := by
  unfold reserved?
  split
  case h_6 hd => by_cases h : d = '&' <;> simp [h]
  all_goals decide

theorem count_ampersand_reference (body rest : List Char) :
    ('\\' :: '&' :: (body ++ ';' :: rest)).count '&' = body.count '&' + rest.count '&' + 1 := by
  simp

/-- Each reference loses its ampersand, and only an ampersand that is decoded makes up for it. -/
theorem count_decodeEntityChars_le (s : List Char) :
    (decodeEntityChars s).count '&' ≤ s.count '&' := by
  induction s using decodeEntityChars.induct with
  | case1 => rw [decodeEntityChars_nil]
  | case2 c r d rest hread ih =>
      obtain ⟨body, hsplit, -⟩ := exists_body_of_readReference? hread
      rw [decodeEntityChars_of_some hread, hsplit, List.count_append, count_ampersand_spelling,
        count_ampersand_reference]
      split <;> omega
  | case3 c r hread ih =>
      rw [decodeEntityChars_of_none hread, List.count_cons, List.count_cons]
      omega

theorem foldsReferences_decodeEntityChars {s : List Char}
    (h : s.count '&' ≤ (decodeEntityChars s).count '&') :
    FoldsReferences s (decodeEntityChars s) := by
  induction s using decodeEntityChars.induct with
  | case1 =>
      rw [decodeEntityChars_nil]
      exact .nil
  | case2 c r d rest hread ih =>
      obtain ⟨body, hsplit, hbody⟩ := exists_body_of_readReference? hread
      have hle := count_decodeEntityChars_le rest
      rw [decodeEntityChars_of_some hread] at h ⊢
      rw [hsplit, List.count_append, count_ampersand_spelling, count_ampersand_reference] at h
      have hd : d = '&' := by
        by_contra hne
        rw [if_neg hne] at h
        omega
      subst hd
      rw [if_pos rfl] at h
      rw [hsplit]
      exact .reference hbody (ih (by omega))
  | case3 c r hread ih =>
      rw [decodeEntityChars_of_none hread, List.count_cons, List.count_cons] at h
      rw [decodeEntityChars_of_none hread]
      exact .keep hread (ih (by omega))

theorem count_replaceBreaksFrom {replacement : List Char} {c : Char} (hc : isLineBreak c = false)
    (hreplacement : c ∉ replacement) (inRun : Bool) (s : List Char) :
    (replaceBreaksFrom replacement inRun s).count c = s.count c := by
  induction s generalizing inRun with
  | nil => rfl
  | cons d s ih =>
      unfold replaceBreaksFrom
      split
      next hd =>
        have hne : d ≠ c := by
          rintro rfl
          rw [hc] at hd
          cases hd
        have hnone : (if inRun then [] else replacement).count c = 0 := by
          split
          · rfl
          · exact List.count_eq_zero.2 hreplacement
        rw [List.count_append, hnone, ih, List.count_cons_of_ne hne, Nat.zero_add]
      · rw [List.count_cons, List.count_cons, ih]

theorem count_dollarPairs {c : Char} (hc : c ∉ ['\\', '(', ')', '$']) (s : List Char) :
    (dollarPairs s).count c = s.count c := by
  simp only [List.mem_cons, List.not_mem_nil, or_false, not_or] at hc
  induction s using dollarPairs.induct with
  | case1 x y r hpair ih =>
      rw [dollarPairs, if_pos hpair, List.count_cons_of_ne (Ne.symm hc.2.2.2), ih]
      obtain ⟨rfl, hy⟩ := hpair
      have hne : y ≠ c := by
        rintro rfl
        simp [hc.2.1, hc.2.2.1] at hy
      rw [List.count_cons_of_ne (Ne.symm hc.1), List.count_cons_of_ne hne]
  | case2 x y r hpair ih => rw [dollarPairs, if_neg hpair, List.count_cons, List.count_cons, ih]
  | case3 s hs => rw [dollarPairs]; exact hs

/-! ## Lengths -/

theorem length_dollarPairs_le (s : List Char) : (dollarPairs s).length ≤ s.length := by
  induction s using dollarPairs.induct with
  | case1 x y r hpair ih =>
      rw [dollarPairs, if_pos hpair]
      simp only [List.length_cons]
      omega
  | case2 x y r hpair ih =>
      rw [dollarPairs, if_neg hpair]
      simpa using ih
  | case3 s hs => rw [dollarPairs]; exact hs

/-- Writing a pair as a dollar makes a text shorter. -/
theorem not_infix_of_length_dollarPairs {s : List Char} (h : s.length ≤ (dollarPairs s).length) :
    ∀ p ∈ ['(', ')'], ¬['\\', p] <:+: s := by
  induction s using dollarPairs.induct with
  | case1 x y r hpair ih =>
      have hle := length_dollarPairs_le r
      rw [dollarPairs, if_pos hpair] at h
      simp only [List.length_cons] at h
      omega
  | case2 x y r hpair ih =>
      rw [dollarPairs, if_neg hpair] at h
      intro p hp hinfix
      rcases List.infix_cons_iff.1 hinfix with hpre | hrest
      · rw [List.cons_prefix_cons, List.cons_prefix_cons] at hpre
        exact hpair ⟨hpre.1.symm, hpre.2.1 ▸ hp⟩
      · exact ih (by simpa using h) p hp hrest
  | case3 s hs =>
      -- A text with such a pair has two characters.
      rintro p _ ⟨front, back, rfl⟩
      cases front with
      | nil => exact hs _ _ _ rfl
      | cons x front =>
          cases front with
          | nil => exact hs _ _ _ rfl
          | cons y front => exact hs _ _ _ rfl

/-! ## Guards in the first passes -/

theorem isGuarded_of_plain {s : List Char} (hs : ∀ c ∈ s, reserved? c = none)
    (before : Option Char) : IsGuarded before s := by
  rw [isGuarded_iff]
  rintro front c back rfl hc
  have hplain := hs c (by simp)
  rw [← isSome_reserved?_iff, hplain] at hc
  cases hc

/-- Characters that guard nothing may be left out. -/
theorem IsGuarded.filter {p : Char → Bool} (hp : p '\\' = true) {before before' : Option Char}
    {s : List Char} (h : IsGuarded before s) (hbefore : before = some '\\' → before' = some '\\') :
    IsGuarded before' (s.filter p) := by
  induction s generalizing before before' with
  | nil => trivial
  | cons c s ih =>
      by_cases hc : p c = true
      · rw [List.filter_cons_of_pos hc]
        exact ⟨fun hsome => hbefore (h.1 hsome), ih h.2 id⟩
      · rw [List.filter_cons_of_neg hc]
        refine ih h.2 fun heq => ?_
        cases heq
        exact absurd hp hc

theorem IsGuarded.replaceBreaksFrom {replacement : List Char}
    (hreplacement : ∀ c ∈ replacement, reserved? c = none) (inRun : Bool)
    {before before' : Option Char} {s : List Char} (h : IsGuarded before s)
    (hbefore : before = some '\\' → before' = some '\\') :
    IsGuarded before' (replaceBreaksFrom replacement inRun s) := by
  induction s generalizing before before' inRun with
  | nil => trivial
  | cons c s ih =>
      unfold HtmlToLatex.replaceBreaksFrom
      split
      next hc =>
        have hself : some c ≠ some '\\' := by
          rintro heq
          cases heq
          cases hc
        refine isGuarded_append.2 ⟨isGuarded_of_plain (fun d hd => ?_) _,
          ih _ h.2 fun heq => absurd heq hself⟩
        split at hd
        · cases hd
        · exact hreplacement d hd
      · exact ⟨fun hsome => hbefore (h.1 hsome), ih _ h.2 id⟩

theorem IsGuarded.passes {s : List Char} (h : IsGuarded none s) (options : Options) :
    IsGuarded none (dropTabs (replaceBreaks (breakReplacement options) s)) := by
  have hreplacement : ∀ c ∈ breakReplacement options, reserved? c = none := by
    unfold breakReplacement
    split <;> simp [paragraphBreak, reserved?]
  exact (h.replaceBreaksFrom hreplacement false id).filter (by decide) id

/-! ## Texts that are kept -/

theorem chooseDelimiters_eq (options : Options) (s : List Char) :
    chooseDelimiters options s = if options.preferDollarMath then dollarPairs s else s := by
  rw [chooseDelimiters, preferDollarChars_eq_dollarPairs]

theorem areParagraphBreaks_lineRuns_iff {s : List Char} :
    AreParagraphBreaks (lineRuns 0 s) ↔ ∀ n, IsLineRun n s → n = 2 := by
  simp only [AreParagraphBreaks, mem_lineRuns_iff, List.replicate_zero, List.nil_append]

theorem IsSettled.normalizeChars_eq {options : Options} {t : String} (h : IsSettled options t) :
    normalizeChars options t.toList = t.toList := by
  have hpasses : dropTabs (replaceBreaks (breakReplacement options) t.toList) = t.toList :=
    dropTabs_replaceBreaks_eq h.tab h.carriageReturn h.ignored
      fun hkeep => areParagraphBreaks_lineRuns_iff.2 (h.paragraphs hkeep)
  rw [normalizeChars, hpasses, escapeReservedChars,
    (hasGuards_iff.1 h.guarded).escapeReservedAfter_eq,
    decodeEntityChars_of_no_reference h.references, chooseDelimiters_eq]
  split
  next hprefer => exact dollarPairs_eq_self (h.delimiters hprefer)
  · rfl

section Kept

variable {options : Options} {s passed : List Char}

/-- In a text that is kept there is nothing to escape, and no ampersand is lost to a reference. -/
theorem foldsReferences_of_kept (h : normalizeChars options s = s)
    (hpassed : dropTabs (replaceBreaks (breakReplacement options) s) = passed) :
    FoldsReferences passed (decodeEntityChars passed) ∧
      chooseDelimiters options (decodeEntityChars passed) = s := by
  have hguarded : IsGuarded none s := h ▸ isGuarded_normalizeChars options s
  have hchosen : chooseDelimiters options (decodeEntityChars passed) = s := by
    rw [normalizeChars, escapeReservedChars, (hguarded.passes options).escapeReservedAfter_eq,
      hpassed] at h
    exact h
  refine ⟨foldsReferences_decodeEntityChars ?_, hchosen⟩
  have hcount : passed.count '&' = s.count '&' := by
    have hreplacement : '&' ∉ breakReplacement options := by
      unfold breakReplacement
      split <;> decide
    rw [← hpassed, dropTabs, List.count_filter (by decide)]
    exact count_replaceBreaksFrom (by decide) hreplacement false s
  have hdecoded : (decodeEntityChars passed).count '&' = s.count '&' := by
    rw [← hchosen, chooseDelimiters_eq]
    split
    · exact (count_dollarPairs (by decide) _).symm
    · rfl
  omega

/-- Folding references brings in no tabs and no breaks, and leaves the runs of line feeds as they
are. So the first passes find nothing to do in a text that is kept. -/
theorem passes_of_kept (h : normalizeChars options s = s) :
    ('\t' ∉ s ∧ '\r' ∉ s) ∧ (options.ignoreBreaks = true → '\n' ∉ s) ∧
      (options.ignoreBreaks = false → AreParagraphBreaks (lineRuns 0 s)) := by
  generalize hpassed : dropTabs (replaceBreaks (breakReplacement options) s) = passed
  obtain ⟨hfolds, hchosen⟩ := foldsReferences_of_kept h hpassed
  have hbreaks : ∀ c ∈ breaksAndTab, c ∈ s → c = '\n' ∧ options.ignoreBreaks = false := by
    intro c hc hmem
    have hdollar : c ≠ '$' := by
      rintro rfl
      exact absurd hc (by decide)
    rw [← hchosen] at hmem
    have hdecoded := (mem_of_mem_chooseDelimiters hmem).resolve_left hdollar
    exact eq_feed_of_mem_passes hc (hpassed ▸ hfolds.sublist.subset hdecoded)
  have htab : '\t' ∉ s := fun hmem => absurd (hbreaks _ (by decide) hmem).1 (by decide)
  refine ⟨⟨htab, fun hmem => ?_⟩, fun hignore hmem => ?_, fun hkeep => ?_⟩
  · exact absurd (hbreaks _ (by decide) hmem).1 (by decide)
  · rw [(hbreaks _ (by decide) hmem).2] at hignore
    cases hignore
  · have hparagraphs : passed = paragraphsFrom false s := by
      rw [← hpassed, breakReplacement, hkeep]
      rfl
    have hruns : lineRuns 0 s = lineRuns 0 (paragraphsFrom false s) := by
      rw [← hparagraphs, ← hfolds.lineRuns_eq, ← lineRuns_chooseDelimiters options 0
        (decodeEntityChars passed), hchosen]
    rw [hruns, (areParagraphBreaks_iff s).1]
    rintro ⟨front, b, rest, rfl, -, -⟩
    exact htab (by simp)

/-- What folding and the choice of delimiters take away from a text is not put back. -/
theorem lengths_of_kept (hfolds : FoldsReferences s (decodeEntityChars s))
    (hchosen : chooseDelimiters options (decodeEntityChars s) = s) :
    s.length ≤ (decodeEntityChars s).length ∧
      (options.preferDollarMath = true → s.length ≤ (dollarPairs s).length) := by
  have hlength : s.length ≤ (decodeEntityChars s).length := by
    rw [chooseDelimiters_eq] at hchosen
    split at hchosen
    · have hle := length_dollarPairs_le (decodeEntityChars s)
      rwa [hchosen] at hle
    · rw [hchosen]
  have hdecoded : decodeEntityChars s = s :=
    hfolds.sublist.eq_of_length_le hlength
  refine ⟨hlength, fun hprefer => ?_⟩
  rw [hdecoded, chooseDelimiters_eq, if_pos hprefer] at hchosen
  rw [hchosen]

theorem isSettled_of_kept {t : String} (h : normalizeChars options t.toList = t.toList) :
    IsSettled options t := by
  obtain ⟨⟨htab, hreturn⟩, hignored, hparagraphs⟩ := passes_of_kept h
  obtain ⟨hfolds, hchosen⟩ := foldsReferences_of_kept h
    (dropTabs_replaceBreaks_eq htab hreturn hignored hparagraphs)
  obtain ⟨hfolded, hdollars⟩ := lengths_of_kept hfolds hchosen
  exact {
    tab := htab
    carriageReturn := hreturn
    ignored := hignored
    paragraphs := fun hkeep => areParagraphBreaks_lineRuns_iff.1 (hparagraphs hkeep)
    guarded := hasGuards_iff.2 (h ▸ isGuarded_normalizeChars options t.toList)
    references := hfolds.not_holdsReference hfolded
    delimiters := fun hprefer => not_infix_of_length_dollarPairs (hdollars hprefer) }

end Kept

/-- The texts that running text keeps are those in which no pass finds anything to do. -/
theorem normalizeText_eq_self_iff {options : Options} {t : String} :
    normalizeText options t = t ↔ IsSettled options t := by
  have hchars : normalizeText options t = t ↔ normalizeChars options t.toList = t.toList := by
    rw [normalizeText, ← String.toList_inj, String.toList_ofList]
  rw [hchars]
  exact ⟨isSettled_of_kept, IsSettled.normalizeChars_eq⟩

/-! ## Listings -/

/-- Texts in a row are set one by one, and nothing is done to the world. -/
theorem run_convertInlines_texts (setting : Setting) (texts : List String) (w : World) :
    (convertInlines setting (texts.map .text)).run w =
      (String.join (texts.map (normalizeText setting.options)), w) := by
  induction texts with
  | nil =>
      rw [List.map_nil, convertInlines]
      rfl
  | cons t texts ih =>
      rw [List.map_cons, convertInlines, convertInline, pure_bind, Conversion.run_bind, ih,
        List.map_cons, String.join_cons]
      rfl

/-- **Listings are running text.** The body of a listing is its texts one after the other, each
made into running text, and a text is kept by that exactly if no pass finds anything to do in it. -/
theorem convertCode_lists (setting : Setting) (texts : List String) (w : World) :
    (convertCode setting (texts.map .text)).run w =
      ("\\begin\x7blstlisting\x7d\n" ++ String.join (texts.map (normalizeText setting.options)) ++
        "\n\\end\x7blstlisting\x7d", w) ∧
      ∀ t, normalizeText setting.options t = t ↔ IsSettled setting.options t := by
  refine ⟨?_, fun t => normalizeText_eq_self_iff⟩
  have hlisting (body : String) : Latex.listing body =
      "\\begin\x7blstlisting\x7d\n" ++ body ++ "\n\\end\x7blstlisting\x7d" := by
    have hbegin : Latex.command "begin" "lstlisting" = "\\begin\x7blstlisting\x7d" := rfl
    have hend : Latex.command "end" "lstlisting" = "\\end\x7blstlisting\x7d" := rfl
    rw [Latex.listing, Latex.environment, hbegin, hend]
    simp only [String.append_assoc]
    rfl
  rw [convertCode, Conversion.run_bind, run_convertInlines_texts, ← hlisting]
  rfl

/-- A percent sign in a listing gets a backslash. -/
theorem convertCode_lists_escaped :
    ¬∀ (setting : Setting) (texts : List String) (w : World),
      ((convertCode setting (texts.map .text)).run w).1 =
        "\\begin\x7blstlisting\x7d\n" ++ String.join texts ++ "\n\\end\x7blstlisting\x7d" := by
  intro h
  have hpercent := h { ids := fun _ => "" } ["50%"] {}
  exact absurd hpercent (by decide +kernel)

end HtmlToLatex
