import Mathlib.Algebra.Ring.Parity
import HtmlToLatex.Proofs.RunningText

set_option autoImplicit false

/-! # Line breaks and tabs in running text

Each pass goes once over the text. Breaks are replaced before tabs are dropped, so breaks with
nothing but tabs between them give one paragraph break each, and references are decoded last, so
they can bring in a break or tab again. Apart from that, running text holds no tabs and no carriage
returns, and its line feeds come in pairs: `normalizeText_breaks`. -/

namespace HtmlToLatex

/-! ## Runs of line feeds -/

/-- A maximal run of `n` line feeds in a text. -/
def IsLineRun (n : Nat) (s : List Char) : Prop :=
  0 < n ∧ ∃ front back, s = front ++ (List.replicate n '\n' ++ back) ∧
    front.getLast? ≠ some '\n' ∧ back.head? ≠ some '\n'

/-- The length of a run that has ended, unless it is empty. -/
def endedRun (n : Nat) : List Nat :=
  if n = 0 then [] else [n]

/-- The lengths of the maximal runs of line feeds in a text, in order. The text continues a run of
`pending` line feeds. -/
def lineRuns (pending : Nat) : List Char → List Nat
  | [] => endedRun pending
  | c :: r => if c = '\n' then lineRuns (pending + 1) r else endedRun pending ++ lineRuns 0 r

theorem mem_endedRun {m n : Nat} : m ∈ endedRun n ↔ m = n ∧ 0 < m := by
  unfold endedRun
  split <;> simp <;> omega

theorem lineRuns_feed (pending : Nat) (s : List Char) :
    lineRuns pending ('\n' :: s) = lineRuns (pending + 1) s := by
  simp [lineRuns]

theorem lineRuns_cons {c : Char} (hc : c ≠ '\n') (pending : Nat) (s : List Char) :
    lineRuns pending (c :: s) = endedRun pending ++ lineRuns 0 s := by
  simp [lineRuns, hc]

theorem lineRuns_cons_congr (c : Char) {s t : List Char}
    (h : ∀ pending, lineRuns pending s = lineRuns pending t) (pending : Nat) :
    lineRuns pending (c :: s) = lineRuns pending (c :: t) := by
  simp only [lineRuns, h]

/-- Characters between two runs only separate them. -/
theorem lineRuns_append {u : List Char} (hu : u ≠ []) (hfeed : '\n' ∉ u) (pending : Nat)
    (s : List Char) : lineRuns pending (u ++ s) = endedRun pending ++ lineRuns 0 s := by
  induction u generalizing pending with
  | nil => exact absurd rfl hu
  | cons c u ih =>
      rw [List.mem_cons, not_or] at hfeed
      rw [List.cons_append, lineRuns_cons (Ne.symm hfeed.1)]
      cases u with
      | nil => rfl
      | cons d u =>
          rw [ih (by simp) hfeed.2]
          rfl

theorem replicate_append_inj {a : Char} {m n : Nat} {s t : List Char}
    (h : List.replicate m a ++ s = List.replicate n a ++ t) (hs : s.head? ≠ some a)
    (ht : t.head? ≠ some a) : m = n := by
  induction m generalizing n with
  | zero =>
      cases n with
      | zero => rfl
      | succ n =>
          rw [List.replicate_zero, List.nil_append] at h
          simp [h, List.replicate_succ] at hs
  | succ m ih =>
      cases n with
      | zero =>
          rw [List.replicate_zero, List.nil_append] at h
          simp [← h, List.replicate_succ] at ht
      | succ n =>
          rw [List.replicate_succ, List.replicate_succ, List.cons_append, List.cons_append,
            List.cons.injEq] at h
          rw [ih h.2]

theorem eq_nil_of_feeds {front : List Char} (hfeeds : ∀ c ∈ front, c = '\n')
    (hlast : front.getLast? ≠ some '\n') : front = [] := by
  by_contra hne
  apply hlast
  rw [List.getLast?_eq_some_getLast hne, hfeeds _ (List.getLast_mem hne)]

/-- Before another character there is at most one run that it ends. -/
theorem isLineRun_replicate_append {n pending : Nat} {c : Char} (hc : c ≠ '\n') {s : List Char} :
    IsLineRun n (List.replicate pending '\n' ++ c :: s) ↔
      n ∈ endedRun pending ∨ IsLineRun n s := by
  rw [mem_endedRun]
  constructor
  · rintro ⟨hpos, front, back, hsplit, hfront, hback⟩
    rcases List.append_eq_append_iff.1 hsplit with ⟨a, rfl, ha⟩ | ⟨b, hb, hrest⟩
    · cases a with
      | nil =>
          obtain ⟨m, rfl⟩ := Nat.exists_eq_add_of_lt hpos
          rw [Nat.zero_add, List.nil_append, List.replicate_succ, List.cons_append] at ha
          exact absurd (List.cons.inj ha).1 hc
      | cons d a =>
          obtain ⟨rfl, rfl⟩ := List.cons.inj ha
          refine .inr ⟨hpos, a, back, rfl, fun hlast => hfront ?_, hback⟩
          simp [List.getLast?_append, List.getLast?_cons, hlast]
    · -- What is in front of the run are line feeds, so nothing is.
      have hnil : front = [] := by
        refine eq_nil_of_feeds (fun d hd => ?_) hfront
        exact List.eq_of_mem_replicate (hb ▸ List.mem_append_left b hd)
      rw [hnil, List.nil_append] at hb
      rw [← hb] at hrest
      exact .inl ⟨replicate_append_inj hrest hback (by simpa using hc), hpos⟩
  · rintro (⟨rfl, hpos⟩ | ⟨hpos, front, back, rfl, hfront, hback⟩)
    · exact ⟨hpos, [], c :: s, rfl, by simp, by simpa using hc⟩
    · refine ⟨hpos, List.replicate pending '\n' ++ c :: front, back, by simp, ?_, hback⟩
      cases hlast : front.getLast? with
      | none => simpa [List.getLast?_append, List.getLast?_cons, hlast] using hc
      | some d => simpa [List.getLast?_append, List.getLast?_cons, hlast] using hfront

theorem isLineRun_replicate {n pending : Nat} :
    IsLineRun n (List.replicate pending '\n') ↔ n ∈ endedRun pending := by
  rw [mem_endedRun]
  constructor
  · rintro ⟨hpos, front, back, hsplit, hfront, hback⟩
    have hnil : front = [] := by
      refine eq_nil_of_feeds (fun d hd => ?_) hfront
      exact List.eq_of_mem_replicate (hsplit ▸ List.mem_append_left _ hd)
    rw [hnil, List.nil_append, ← List.append_nil (List.replicate pending '\n')] at hsplit
    exact ⟨replicate_append_inj hsplit.symm hback (by simp), hpos⟩
  · rintro ⟨rfl, hpos⟩
    exact ⟨hpos, [], [], by simp, by simp, by simp⟩

theorem mem_lineRuns_iff {n pending : Nat} {s : List Char} :
    n ∈ lineRuns pending s ↔ IsLineRun n (List.replicate pending '\n' ++ s) := by
  induction s generalizing pending with
  | nil => rw [List.append_nil, isLineRun_replicate, lineRuns]
  | cons c s ih =>
      by_cases hc : c = '\n'
      · subst hc
        rw [lineRuns_feed, ih, List.replicate_succ', List.append_assoc, List.singleton_append]
      · rw [lineRuns_cons hc, List.mem_append, ih, isLineRun_replicate_append hc,
          List.replicate_zero, List.nil_append]

/-! ## The later passes -/

/-- A text before its references are decoded. -/
def escapedText (options : Options) (s : List Char) : List Char :=
  escapeReservedChars (dropTabs (replaceBreaks (breakReplacement options) s))

/-- The spelling of a character is not empty, and a line feed is in it only if it is one itself. -/
theorem lineRuns_spelling {c : Char} {spelling : List Char} (h : reserved? c = some spelling)
    (pending : Nat) (s : List Char) :
    lineRuns pending (spelling ++ s) = endedRun pending ++ lineRuns 0 s := by
  unfold reserved? at h
  split at h <;> cases h <;> exact lineRuns_append (by decide) (by decide) pending s

theorem lineRuns_escapeReservedAfter (before : Option Char) (pending : Nat) (s : List Char) :
    lineRuns pending (escapeReservedAfter before s) = lineRuns pending s := by
  induction s generalizing before pending with
  | nil => rfl
  | cons c s ih =>
      unfold escapeReservedAfter
      cases hspelling : reserved? c with
      | none => exact lineRuns_cons_congr c (ih (some c)) pending
      | some spelling =>
          have hc : c ≠ '\n' := by
            rintro rfl
            cases hspelling
          dsimp only
          split
          · exact lineRuns_cons_congr c (ih (some c)) pending
          · rw [lineRuns_spelling hspelling, lineRuns_cons hc, ih]

theorem lineRuns_decodeEntityChars {s : List Char} (h : ¬HoldsReference s '\n') (pending : Nat) :
    lineRuns pending (decodeEntityChars s) = lineRuns pending s := by
  induction s using decodeEntityChars.induct generalizing pending with
  | case1 => rw [decodeEntityChars_nil]
  | case2 c r d rest hread ih =>
      obtain ⟨front, hsplit, hfront⟩ := exists_semicolon_of_readReference? hread
      have hrest : rest <:+ c :: r := ⟨front ++ [';'], by simp [hsplit]⟩
      have hd : d ≠ '\n' := by
        rintro rfl
        exact h ⟨c :: r, rest, List.suffix_rfl, hread⟩
      have hdecoded : lineRuns pending ((reserved? d).getD [d] ++ decodeEntityChars rest) =
          endedRun pending ++ lineRuns 0 (decodeEntityChars rest) := by
        cases hspelling : reserved? d with
        | none => exact lineRuns_cons hd pending _
        | some spelling => exact lineRuns_spelling hspelling pending _
      have hreference : lineRuns pending (front ++ ';' :: rest) =
          endedRun pending ++ lineRuns 0 rest := by
        have hfeed : '\n' ∉ front ++ [';'] := by
          simpa using hfront '\n' (by decide)
        simpa using lineRuns_append (by simp) hfeed pending rest
      rw [decodeEntityChars_of_some hread, hdecoded, hsplit, hreference,
        ih fun hmem => h (hmem.mono hrest)]
  | case3 c r hread ih =>
      rw [decodeEntityChars_of_none hread]
      exact lineRuns_cons_congr c (ih fun hmem => h (hmem.mono (List.suffix_cons c r))) pending

theorem lineRuns_replacePair {a b c : Char} (ha : a ≠ '\n') (hb : b ≠ '\n') (hc : c ≠ '\n')
    (pending : Nat) (s : List Char) :
    lineRuns pending (replacePair a b c s) = lineRuns pending s := by
  induction s using replacePair.induct a b generalizing pending with
  | case1 x y r hpair ih =>
      obtain ⟨rfl, rfl⟩ := hpair
      rw [replacePair, if_pos ⟨rfl, rfl⟩, lineRuns_cons hc, lineRuns_cons ha, lineRuns_cons hb, ih]
      rfl
  | case2 x y r hpair ih =>
      rw [replacePair, if_neg hpair]
      exact lineRuns_cons_congr x ih pending
  | case3 s hs => rw [replacePair]; exact hs

theorem lineRuns_chooseDelimiters (options : Options) (pending : Nat) (s : List Char) :
    lineRuns pending (chooseDelimiters options s) = lineRuns pending s := by
  unfold chooseDelimiters
  split
  · rw [preferDollarChars, lineRuns_replacePair (by decide) (by decide) (by decide),
      lineRuns_replacePair (by decide) (by decide) (by decide)]
  · rfl

/-- After the first two passes, runs of line feeds change only where a line feed is decoded. -/
theorem lineRuns_normalizeChars {options : Options} {s : List Char}
    (h : ¬HoldsReference (escapedText options s) '\n') :
    lineRuns 0 (normalizeChars options s) =
      lineRuns 0 (dropTabs (replaceBreaks (breakReplacement options) s)) := by
  have hdecoded := lineRuns_decodeEntityChars h 0
  rw [escapedText, escapeReservedChars, lineRuns_escapeReservedAfter] at hdecoded
  rw [normalizeChars, lineRuns_chooseDelimiters]
  exact hdecoded

/-! ## The first passes -/

/-- The first two passes where line breaks are kept. -/
def paragraphsFrom (inRun : Bool) (s : List Char) : List Char :=
  dropTabs (replaceBreaksFrom paragraphBreak.toList inRun s)

theorem paragraphsFrom_break {c : Char} (hc : isLineBreak c = true) (inRun : Bool)
    (s : List Char) :
    paragraphsFrom inRun (c :: s) =
      (if inRun then [] else ['\n', '\n']) ++ paragraphsFrom true s := by
  cases inRun <;> simp [paragraphsFrom, replaceBreaksFrom, hc, dropTabs, paragraphBreak]

theorem paragraphsFrom_tab (inRun : Bool) (s : List Char) :
    paragraphsFrom inRun ('\t' :: s) = paragraphsFrom false s := by
  simp [paragraphsFrom, replaceBreaksFrom, isLineBreak, dropTabs]

theorem paragraphsFrom_cons {c : Char} (hc : isLineBreak c = false) (htab : c ≠ '\t')
    (inRun : Bool) (s : List Char) :
    paragraphsFrom inRun (c :: s) = c :: paragraphsFrom false s := by
  simp [paragraphsFrom, replaceBreaksFrom, hc, htab, dropTabs]

theorem ne_feed_of_not_isLineBreak {c : Char} (hc : isLineBreak c = false) : c ≠ '\n' := by
  rintro rfl
  cases hc

/-- Line feeds are written in pairs. -/
theorem even_of_mem_lineRuns {pending : Nat} (hpending : Even pending) {inRun : Bool}
    {s : List Char} {n : Nat} (hn : n ∈ lineRuns pending (paragraphsFrom inRun s)) : Even n := by
  induction s generalizing pending inRun with
  | nil =>
      obtain ⟨rfl, -⟩ := mem_endedRun.1 hn
      exact hpending
  | cons c s ih =>
      by_cases hc : isLineBreak c = true
      · rw [paragraphsFrom_break hc] at hn
        cases inRun with
        | true => exact ih hpending hn
        | false =>
            rw [if_neg (by decide), List.cons_append, List.singleton_append, lineRuns_feed,
              lineRuns_feed] at hn
            exact ih (hpending.add even_two) hn
      · rw [Bool.not_eq_true] at hc
        by_cases htab : c = '\t'
        · rw [htab, paragraphsFrom_tab] at hn
          exact ih hpending hn
        · rw [paragraphsFrom_cons hc htab, lineRuns_cons (ne_feed_of_not_isLineBreak hc)] at hn
          rcases List.mem_append.1 hn with hn | hn
          · obtain ⟨rfl, -⟩ := mem_endedRun.1 hn
            exact hpending
          · exact ih Even.zero hn

/-! ## Breaks with tabs between them -/

/-- After some tabs, or at once, a line break follows. -/
def TabsThenBreak (s : List Char) : Prop :=
  ∃ n b back, s = List.replicate n '\t' ++ b :: back ∧ isLineBreak b = true

/-- Somewhere there are two line breaks with nothing but tabs between them, and at least one. -/
def TabsBetweenBreaks (s : List Char) : Prop :=
  ∃ front b rest, s = front ++ b :: '\t' :: rest ∧ isLineBreak b = true ∧ TabsThenBreak rest

theorem tabsThenBreak_tab {s : List Char} : TabsThenBreak ('\t' :: s) ↔ TabsThenBreak s := by
  constructor
  · rintro ⟨n, b, back, hsplit, hb⟩
    cases n with
    | zero =>
        obtain ⟨rfl, -⟩ := List.cons.inj hsplit
        cases hb
    | succ n =>
        rw [List.replicate_succ, List.cons_append, List.cons.injEq] at hsplit
        exact ⟨n, b, back, hsplit.2, hb⟩
  · rintro ⟨n, b, back, rfl, hb⟩
    exact ⟨n + 1, b, back, by rw [List.replicate_succ, List.cons_append], hb⟩

theorem tabsThenBreak_cons {c : Char} (htab : c ≠ '\t') {s : List Char} :
    TabsThenBreak (c :: s) ↔ isLineBreak c = true := by
  constructor
  · rintro ⟨n, b, back, hsplit, hb⟩
    cases n with
    | zero =>
        obtain ⟨rfl, -⟩ := List.cons.inj hsplit
        exact hb
    | succ n =>
        rw [List.replicate_succ, List.cons_append, List.cons.injEq] at hsplit
        exact absurd hsplit.1 htab
  · intro hc
    exact ⟨0, c, s, rfl, hc⟩

theorem not_tabsThenBreak_nil : ¬TabsThenBreak [] := by
  rintro ⟨n, b, back, hsplit, -⟩
  simp at hsplit

theorem not_tabsBetweenBreaks_nil : ¬TabsBetweenBreaks [] := by
  rintro ⟨front, b, rest, hsplit, -, -⟩
  simp at hsplit

theorem tabsBetweenBreaks_cons {c : Char} {s : List Char} :
    TabsBetweenBreaks (c :: s) ↔
      (isLineBreak c = true ∧ s.head? = some '\t' ∧ TabsThenBreak s) ∨ TabsBetweenBreaks s := by
  constructor
  · rintro ⟨front, b, rest, hsplit, hb, hrest⟩
    cases front with
    | nil =>
        obtain ⟨rfl, rfl⟩ := List.cons.inj hsplit
        exact .inl ⟨hb, rfl, tabsThenBreak_tab.2 hrest⟩
    | cons d front =>
        obtain ⟨rfl, rfl⟩ := List.cons.inj hsplit
        exact .inr ⟨front, b, rest, rfl, hb, hrest⟩
  · rintro (⟨hc, hhead, htabs⟩ | ⟨front, b, rest, rfl, hb, hrest⟩)
    · obtain ⟨rest, rfl⟩ := List.head?_eq_some_iff.1 hhead
      exact ⟨[], c, rest, rfl, hc, tabsThenBreak_tab.1 htabs⟩
    · exact ⟨c :: front, b, rest, rfl, hb, hrest⟩

instance decidableTabsThenBreak : (s : List Char) → Decidable (TabsThenBreak s)
  | [] => .isFalse not_tabsThenBreak_nil
  | c :: s =>
    if h : c = '\t' then
      have := decidableTabsThenBreak s
      decidable_of_iff (TabsThenBreak s) (h ▸ tabsThenBreak_tab.symm)
    else decidable_of_iff (isLineBreak c = true) (tabsThenBreak_cons h).symm

instance decidableTabsBetweenBreaks : (s : List Char) → Decidable (TabsBetweenBreaks s)
  | [] => .isFalse not_tabsBetweenBreaks_nil
  | _ :: s =>
    have := decidableTabsBetweenBreaks s
    decidable_of_iff _ tabsBetweenBreaks_cons.symm

/-- A run that has begun ends somewhere. -/
theorem exists_le_of_lineRuns {pending : Nat} (hpending : 0 < pending) (s : List Char) :
    ∃ n ∈ lineRuns pending s, pending ≤ n := by
  induction s generalizing pending with
  | nil => exact ⟨pending, mem_endedRun.2 ⟨rfl, hpending⟩, le_rfl⟩
  | cons c s ih =>
      by_cases hc : c = '\n'
      · obtain ⟨n, hn, hle⟩ := ih (Nat.succ_pos pending)
        exact ⟨n, by rwa [hc, lineRuns_feed], by omega⟩
      · rw [lineRuns_cons hc]
        exact ⟨pending, List.mem_append_left _ (mem_endedRun.2 ⟨rfl, hpending⟩), le_rfl⟩

/-- All runs of line feeds have length two. -/
def AreParagraphBreaks (runs : List Nat) : Prop :=
  ∀ n ∈ runs, n = 2

theorem areParagraphBreaks_cons {c : Char} (hc : isLineBreak c = false) (htab : c ≠ '\t')
    {pending : Nat} (hpending : pending = 0 ∨ pending = 2) {inRun : Bool} {s : List Char} :
    AreParagraphBreaks (lineRuns pending (paragraphsFrom inRun (c :: s))) ↔
      AreParagraphBreaks (lineRuns 0 (paragraphsFrom false s)) := by
  rw [paragraphsFrom_cons hc htab, lineRuns_cons (ne_feed_of_not_isLineBreak hc)]
  rcases hpending with rfl | rfl <;> simp [AreParagraphBreaks, endedRun]

/-- A third line feed makes a run too long. -/
theorem not_areParagraphBreaks (s : List Char) : ¬AreParagraphBreaks (lineRuns 4 s) := by
  intro h
  obtain ⟨n, hn, hle⟩ := exists_le_of_lineRuns (by omega : 0 < 4) s
  have htwo := h n hn
  omega

/-- The three situations in which the passes can be: in other text, right after a break, and after a
break with only tabs since. -/
theorem areParagraphBreaks_iff (s : List Char) :
    (AreParagraphBreaks (lineRuns 0 (paragraphsFrom false s)) ↔ ¬TabsBetweenBreaks s) ∧
      (AreParagraphBreaks (lineRuns 2 (paragraphsFrom true s)) ↔
        ¬TabsBetweenBreaks s ∧ ¬(s.head? = some '\t' ∧ TabsThenBreak s)) ∧
      (AreParagraphBreaks (lineRuns 2 (paragraphsFrom false s)) ↔
        ¬TabsBetweenBreaks s ∧ ¬TabsThenBreak s) := by
  induction s with
  | nil =>
      simp [AreParagraphBreaks, paragraphsFrom, replaceBreaksFrom, dropTabs, lineRuns, endedRun,
        not_tabsThenBreak_nil, not_tabsBetweenBreaks_nil]
  | cons c s ih =>
      obtain ⟨ihText, ihBreak, ihTabs⟩ := ih
      by_cases hc : isLineBreak c = true
      · have htab : c ≠ '\t' := by
          rintro rfl
          cases hc
        have hpair : paragraphsFrom false (c :: s) = '\n' :: '\n' :: paragraphsFrom true s := by
          rw [paragraphsFrom_break hc]
          rfl
        have hsame : paragraphsFrom true (c :: s) = paragraphsFrom true s := by
          rw [paragraphsFrom_break hc]
          rfl
        rw [hpair, hsame, lineRuns_feed, lineRuns_feed, lineRuns_feed, lineRuns_feed,
          tabsBetweenBreaks_cons, tabsThenBreak_cons htab]
        have hlong := not_areParagraphBreaks (paragraphsFrom true s)
        simp [ihBreak, hc, htab, hlong, and_comm]
      · rw [Bool.not_eq_true] at hc
        by_cases htab : c = '\t'
        · subst htab
          simp only [paragraphsFrom_tab, tabsBetweenBreaks_cons, tabsThenBreak_tab]
          simp [ihText, ihTabs, hc]
        · rw [areParagraphBreaks_cons hc htab (.inl rfl),
            areParagraphBreaks_cons hc htab (.inr rfl), areParagraphBreaks_cons hc htab (.inr rfl),
            tabsBetweenBreaks_cons, tabsThenBreak_cons htab]
          simp [ihText, hc, htab]

/-! ## What is left of breaks and tabs -/

/-- Of line breaks only the replacement is left. -/
theorem not_isLineBreak_of_mem_replaceBreaksFrom {replacement : List Char} {inRun : Bool}
    {s : List Char} {c : Char} (h : c ∈ replaceBreaksFrom replacement inRun s)
    (hreplacement : c ∉ replacement) : isLineBreak c = false := by
  induction s generalizing inRun with
  | nil => cases h
  | cons d s ih =>
      unfold replaceBreaksFrom at h
      split at h
      · rcases List.mem_append.1 h with h | h
        · split at h
          · cases h
          · exact absurd h hreplacement
        · exact ih h
      next hd =>
        rcases List.mem_cons.1 h with rfl | h
        · simpa using hd
        · exact ih h

/-- The first two passes leave line feeds only, and none where line breaks are ignored. -/
theorem eq_feed_of_mem_passes {options : Options} {s : List Char} {c : Char}
    (hc : c ∈ breaksAndTab)
    (h : c ∈ dropTabs (replaceBreaks (breakReplacement options) s)) :
    c = '\n' ∧ options.ignoreBreaks = false := by
  obtain ⟨hmem, htab⟩ := List.mem_filter.1 h
  have hbreak : c ∈ breakReplacement options := by
    by_contra hnot
    have hline := not_isLineBreak_of_mem_replaceBreaksFrom hmem hnot
    simp only [breaksAndTab, List.mem_cons, List.not_mem_nil, or_false] at hc
    rcases hc with rfl | rfl | rfl
    · cases hline
    · cases hline
    · simp at htab
  unfold breakReplacement at hbreak
  split at hbreak
  · cases hbreak
  next hignore =>
    refine ⟨?_, by simpa using hignore⟩
    simpa [paragraphBreak] using hbreak

/-- Spellings of reserved characters hold neither breaks nor tabs. -/
theorem breaksAndTab_not_mem_spelling {c d : Char} {spelling : List Char}
    (hc : c ∈ breaksAndTab) (h : reserved? d = some spelling) : c ∉ spelling := by
  simp only [breaksAndTab, List.mem_cons, List.not_mem_nil, or_false] at hc
  unfold reserved? at h
  split at h <;> cases h <;> rcases hc with rfl | rfl | rfl <;> decide

theorem mem_of_mem_replacePair {a b c d : Char} {s : List Char}
    (h : d ∈ replacePair a b c s) : d = c ∨ d ∈ s := by
  induction s using replacePair.induct a b with
  | case1 x y r hpair ih =>
      rw [replacePair, if_pos hpair] at h
      rcases List.mem_cons.1 h with rfl | h
      · exact .inl rfl
      · exact (ih h).imp_right fun hr => List.mem_cons_of_mem x (List.mem_cons_of_mem y hr)
  | case2 x y r hpair ih =>
      rw [replacePair, if_neg hpair] at h
      rcases List.mem_cons.1 h with rfl | h
      · exact .inr (List.mem_cons_self ..)
      · exact (ih h).imp_right (List.mem_cons_of_mem x)
  | case3 s hs =>
      rw [replacePair] at h
      · exact .inr h
      · exact hs

theorem mem_of_mem_chooseDelimiters {options : Options} {d : Char} {s : List Char}
    (h : d ∈ chooseDelimiters options s) : d = '$' ∨ d ∈ s := by
  unfold chooseDelimiters at h
  split at h
  · rcases mem_of_mem_replacePair h with rfl | h
    · exact .inl rfl
    · exact mem_of_mem_replacePair h
  · exact .inr h

/-- Breaks and tabs of running text are paragraph breaks that are kept, or decoded. -/
theorem eq_feed_of_mem_normalizeChars {options : Options} {s : List Char} {c : Char}
    (hc : c ∈ breaksAndTab) (href : ¬HoldsReference (escapedText options s) c)
    (h : c ∈ normalizeChars options s) : c = '\n' ∧ options.ignoreBreaks = false := by
  have hdollar : c ≠ '$' := by
    rintro rfl
    exact absurd hc (by decide)
  have hdecoded : c ∈ decodeEntityChars (escapedText options s) :=
    (mem_of_mem_chooseDelimiters h).resolve_left hdollar
  have hescaped : c ∈ escapedText options s := by
    rcases exists_of_mem_decodeEntityChars hdecoded with hmem | ⟨d, hd, hmem⟩
    · exact hmem
    · cases hspelling : reserved? d with
      | none =>
          rw [hspelling, Option.getD_none, List.mem_singleton] at hmem
          exact absurd (hmem ▸ hd) href
      | some spelling =>
          rw [hspelling, Option.getD_some] at hmem
          exact absurd hmem (breaksAndTab_not_mem_spelling hc hspelling)
  rcases mem_escapeReservedAfter hescaped with hmem | ⟨d, spelling, hspelling, hmem⟩
  · exact eq_feed_of_mem_passes hc hmem
  · exact absurd hmem (breaksAndTab_not_mem_spelling hc hspelling)

/-! ## Running text -/

/-- **Breaks and tabs are normalized away**, apart from those that references stand for. Carriage
returns and tabs are gone, and so are line feeds where line breaks are ignored. Where they are kept,
line feeds come in runs of even length, and each run is one paragraph break exactly if nowhere in
the source only tabs are between two line breaks. -/
theorem normalizeText_breaks (options : Options) (s : String) :
    (∀ c ∈ ['\r', '\t'], ¬HoldsReference (escapedText options s.toList) c →
      c ∉ (normalizeText options s).toList) ∧
    (¬HoldsReference (escapedText options s.toList) '\n' →
      (options.ignoreBreaks = true → '\n' ∉ (normalizeText options s).toList) ∧
      (options.ignoreBreaks = false →
        (∀ n, IsLineRun n (normalizeText options s).toList → Even n) ∧
        ((∀ n, IsLineRun n (normalizeText options s).toList → n = 2) ↔
          ¬TabsBetweenBreaks s.toList))) := by
  rw [normalizeText, String.toList_ofList]
  refine ⟨fun c hc href hmem => ?_, fun href => ⟨fun hignore hmem => ?_, fun hkeep => ?_⟩⟩
  · have hbreak : c ∈ breaksAndTab := (by decide : ['\r', '\t'] ⊆ breaksAndTab) hc
    obtain ⟨rfl, -⟩ := eq_feed_of_mem_normalizeChars hbreak href hmem
    exact absurd hc (by decide)
  · obtain ⟨-, hkeep⟩ := eq_feed_of_mem_normalizeChars (by decide) href hmem
    rw [hignore] at hkeep
    cases hkeep
  · have hpasses : dropTabs (replaceBreaks (breakReplacement options) s.toList) =
        paragraphsFrom false s.toList := by
      rw [breakReplacement, hkeep]
      rfl
    have hruns : ∀ n, IsLineRun n (normalizeChars options s.toList) ↔
        n ∈ lineRuns 0 (paragraphsFrom false s.toList) := by
      intro n
      rw [← hpasses, ← lineRuns_normalizeChars href, mem_lineRuns_iff, List.replicate_zero,
        List.nil_append]
    simp only [hruns]
    exact ⟨fun n => even_of_mem_lineRuns Even.zero, (areParagraphBreaks_iff s.toList).1⟩

/-- References to a tab are decoded after tabs are dropped, and a tab between two line breaks keeps
them apart until both are replaced. -/
theorem normalizeText_breaks_apart :
    (¬∀ options : Options, options.ignoreBreaks = true → ∀ s : String, ∀ c ∈ breaksAndTab,
      c ∉ (normalizeText options s).toList) ∧
    (¬∀ options : Options, options.ignoreBreaks = false → ∀ s : String, ∀ c ∈ ['\r', '\t'],
      c ∉ (normalizeText options s).toList) ∧
    ¬∀ options : Options, options.ignoreBreaks = false → ∀ (s : String) (n : Nat),
      IsLineRun n (normalizeText options s).toList → n = 2 := by
  refine ⟨fun h => ?_, fun h => ?_, fun h => ?_⟩
  · exact h {} rfl "a&#9;b" '\t' (by decide) (by decide +kernel)
  · exact h { ignoreBreaks := false } rfl "a&#9;b" '\t' (by decide) (by decide +kernel)
  · have htext : normalizeText { ignoreBreaks := false } "a\n\t\nb" = "a\n\n\n\nb" := by
      decide +kernel
    have hfour : IsLineRun 4 (normalizeText { ignoreBreaks := false } "a\n\t\nb").toList := by
      rw [htext]
      exact ⟨by decide, ['a'], ['b'], rfl, by decide, by decide⟩
    exact absurd (h { ignoreBreaks := false } rfl _ 4 hfour) (by decide)

/-- A text in which no break or tab is decoded, with a tab on one side of its line breaks. -/
theorem normalizeText_breaks_paragraph :
    let options : Options := { ignoreBreaks := false }
    let s := "a\r\n\tb&#39;\n"
    (∀ c ∈ breaksAndTab, ¬HoldsReference (escapedText options s.toList) c) ∧
      options.ignoreBreaks = false ∧ ¬TabsBetweenBreaks s.toList ∧
      (∀ c ∈ ['\r', '\t'], c ∉ (normalizeText options s).toList) ∧
      ∀ n, IsLineRun n (normalizeText options s).toList → n = 2 := by
  intro options s
  have href : ∀ c ∈ breaksAndTab, ¬HoldsReference (escapedText options s.toList) c := by
    simp only [breaksAndTab, List.forall_mem_cons]
    exact ⟨by decide +kernel, by decide +kernel, by decide +kernel, by simp⟩
  have htabs : ¬TabsBetweenBreaks s.toList := by decide +kernel
  obtain ⟨hgone, hfeeds⟩ := normalizeText_breaks options s
  obtain ⟨-, hruns⟩ := (hfeeds (href _ (by decide))).2 rfl
  have hsubset : ['\r', '\t'] ⊆ breaksAndTab := by decide
  exact ⟨href, rfl, htabs, fun c hc => hgone c hc (href c (hsubset hc)), hruns.2 htabs⟩

end HtmlToLatex
