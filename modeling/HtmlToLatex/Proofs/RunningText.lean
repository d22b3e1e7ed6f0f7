import Mathlib.Data.List.Infix
import Mathlib.Data.List.TakeWhile
import HtmlToLatex.Latex.Prose

set_option autoImplicit false

/-! # The passes of running text

What is needed of the passes from more than one side: where letters are among the characters, which
references are decoded in a text without a hash, and what a text looks like that is a single
formula. -/

namespace HtmlToLatex

/-! ## Letters -/

/-- The letters are between `A` and `z`. -/
theorem isAlpha_bounds {c : Char} (h : c.isAlpha = true) : 65 ≤ c.toNat ∧ c.toNat ≤ 122 := by
  have hcases : (decide ('A'.val ≤ c.val ∧ c.val ≤ 'Z'.val) ||
      (decide ('a'.val ≤ c.val) && decide (c.val ≤ 'z'.val))) = true := h
  simp only [Bool.or_eq_true, Bool.and_eq_true, decide_eq_true_eq,
    UInt32.le_iff_toNat_le] at hcases
  change 65 ≤ c.val.toNat ∧ c.val.toNat ≤ 122
  have hbounds : 'A'.val.toNat = 65 ∧ 'Z'.val.toNat = 90 ∧ 'a'.val.toNat = 97 ∧
      'z'.val.toNat = 122 := by decide
  omega

/-! ## Line breaks -/

theorem isLineBreak_iff {c : Char} : isLineBreak c = true ↔ c = '\n' ∨ c = '\r' := by
  simp [isLineBreak]

/-- The line breaks and the tab. -/
def breaksAndTab : List Char := ['\r', '\n', '\t']

theorem replaceBreaksFrom_of_no_breaks (replacement : List Char) {s : List Char}
    (hs : ∀ c ∈ s, isLineBreak c = false) (inRun : Bool) :
    replaceBreaksFrom replacement inRun s = s := by
  induction s generalizing inRun with
  | nil => rfl
  | cons c s ih =>
      rw [List.forall_mem_cons] at hs
      rw [replaceBreaksFrom, if_neg (by simp [hs.1]), ih hs.2]

theorem mem_replaceBreaksFrom {replacement : List Char} {inRun : Bool} {s : List Char} {c : Char}
    (h : c ∈ replaceBreaksFrom replacement inRun s) : c ∈ replacement ∨ c ∈ s := by
  induction s generalizing inRun with
  | nil => cases h
  | cons d r ih =>
      unfold replaceBreaksFrom at h
      split at h
      · rcases List.mem_append.1 h with h | h
        · split at h
          · cases h
          · exact .inl h
        · exact (ih h).imp_right (List.mem_cons_of_mem d)
      · rcases List.mem_cons.1 h with rfl | h
        · exact .inr (List.mem_cons_self ..)
        · exact (ih h).imp_right (List.mem_cons_of_mem d)

/-- The first passes leave characters of the text, and line feeds. -/
theorem mem_dropTabs_replaceBreaks {options : Options} {s : List Char} {c : Char}
    (h : c ∈ dropTabs (replaceBreaks (breakReplacement options) s)) : c ∈ s ∨ c = '\n' := by
  rcases mem_replaceBreaksFrom (List.mem_filter.1 h).1 with hbreak | hmem
  · unfold breakReplacement at hbreak
    split at hbreak
    · cases hbreak
    · simp only [paragraphBreak, String.reduceToList, List.mem_cons, List.not_mem_nil, or_false,
        or_self] at hbreak
      exact .inr hbreak
  · exact .inl hmem

/-! ## Reserved characters -/

theorem hash_not_mem_of_reserved? {c : Char} {spelling : List Char}
    (h : reserved? c = some spelling) (hc : c ≠ '#') : '#' ∉ spelling := by
  unfold reserved? at h
  split at h
  case h_3 => exact absurd rfl hc
  all_goals
    cases h
    try decide

/-- Escaping adds what the spellings of reserved characters are made of. -/
theorem mem_escapeReservedAfter {before : Option Char} {s : List Char} {c : Char}
    (h : c ∈ escapeReservedAfter before s) :
    c ∈ s ∨ ∃ d, ∃ spelling ∈ reserved? d, c ∈ spelling := by
  induction s generalizing before with
  | nil => cases h
  | cons d r ih =>
      unfold escapeReservedAfter at h
      cases hd : reserved? d with
      | none =>
          rw [hd] at h
          rcases List.mem_cons.1 h with rfl | h
          · exact .inl (List.mem_cons_self ..)
          · exact (ih h).imp_left (List.mem_cons_of_mem d)
      | some spelling =>
          rw [hd] at h
          dsimp only at h
          split at h
          · rcases List.mem_cons.1 h with rfl | h
            · exact .inl (List.mem_cons_self ..)
            · exact (ih h).imp_left (List.mem_cons_of_mem d)
          · rcases List.mem_append.1 h with h | h
            · exact .inr ⟨d, spelling, hd, h⟩
            · exact (ih h).imp_left (List.mem_cons_of_mem d)

/-! ## References -/

theorem upToSemicolon?_spec {p : Char → Bool} {rightLength : Nat → Bool} {s body rest : List Char}
    (h : upToSemicolon? p rightLength s = some (body, rest)) :
    s = body ++ ';' :: rest ∧ ∀ c ∈ body, p c = true := by
  unfold upToSemicolon? at h
  dsimp only at h
  split at h
  · split at h
    next tail heq =>
      cases h
      refine ⟨?_, fun c hc => List.mem_takeWhile_imp hc⟩
      rw [← heq, List.takeWhile_append_dropWhile]
    · cases h
  · cases h

/-- The characters that references without a hash stand for. -/
def basicCharacters : List Char := ['&', '<', '>', '"', '\'', '\u00a0']

theorem mem_basicCharacters {name : List Char} {d : Char} (h : basicEntity? name = some d) :
    d ∈ basicCharacters := by
  unfold basicEntity? at h
  split at h
  · cases h; decide
  split at h
  · cases h; decide
  split at h
  · cases h; decide
  split at h
  · cases h; decide
  split at h
  · cases h; decide
  split at h
  · cases h; decide
  · cases h

/-- In a text without a hash, a reference is a name between an escaped ampersand and a semicolon. -/
theorem exists_name_of_readReference? {s rest : List Char} {d : Char} (hhash : '#' ∉ s)
    (h : readReference? s = some (d, rest)) :
    ∃ name, s = '\\' :: '&' :: (name ++ ';' :: rest) ∧ (∀ c ∈ name, c.isAlpha = true) ∧
      d ∈ basicCharacters := by
  unfold readReference? at h
  split at h
  next tail =>
    simp only [List.mem_cons, not_or] at hhash
    unfold readReferenceBody? at h
    split at h
    · exact absurd (by simp) hhash.2.2
    · exact absurd (by simp) hhash.2.2
    · exact absurd (by simp) hhash.2.2
    · simp only [Option.bind_eq_bind, Option.bind_eq_some_iff, Option.pure_def] at h
      obtain ⟨⟨name, after⟩, hname, c, hc, heq⟩ := h
      cases heq
      obtain ⟨htail, halpha⟩ := upToSemicolon?_spec hname
      exact ⟨name, by rw [htail], halpha, mem_basicCharacters hc⟩
  · cases h

theorem breaksAndTab_not_mem {p : Char → Bool} {opening body : List Char}
    (hopening : breaksAndTab.any opening.contains = false) (hp : breaksAndTab.any p = false)
    (hbody : ∀ c ∈ body, p c = true) : ∀ c ∈ breaksAndTab, c ∉ opening ++ body := by
  intro c hc hmem
  rcases List.mem_append.1 hmem with hmem | hmem
  · exact List.any_eq_false.1 hopening c hc (List.contains_iff_mem.2 hmem)
  · exact List.any_eq_false.1 hp c hc (hbody c hmem)

/-- A reference ends in a semicolon and holds neither line breaks nor tabs. -/
theorem exists_semicolon_of_readReference? {s rest : List Char} {d : Char}
    (h : readReference? s = some (d, rest)) :
    ∃ front, s = front ++ ';' :: rest ∧ ∀ c ∈ breaksAndTab, c ∉ front := by
  unfold readReference? at h
  split at h
  next tail =>
    unfold readReferenceBody? at h
    split at h
    all_goals
      simp only [Option.bind_eq_bind, Option.bind_eq_some_iff, Option.pure_def] at h
      obtain ⟨⟨body, after⟩, hread, c, -, heq⟩ := h
      cases heq
      obtain ⟨rfl, hbody⟩ := upToSemicolon?_spec hread
    · exact ⟨['\\', '&', '\\', '#', 'x'] ++ body, rfl, breaksAndTab_not_mem rfl rfl hbody⟩
    · exact ⟨['\\', '&', '\\', '#', 'X'] ++ body, rfl, breaksAndTab_not_mem rfl rfl hbody⟩
    · exact ⟨['\\', '&', '\\', '#'] ++ body, rfl, breaksAndTab_not_mem rfl rfl hbody⟩
    · exact ⟨['\\', '&'] ++ body, rfl, breaksAndTab_not_mem rfl rfl hbody⟩
  · cases h

theorem decodeEntityChars_nil : decodeEntityChars [] = [] := by
  rw [decodeEntityChars]

theorem decodeEntityChars_of_some {c d : Char} {r rest : List Char}
    (h : readReference? (c :: r) = some (d, rest)) :
    decodeEntityChars (c :: r) = (reserved? d).getD [d] ++ decodeEntityChars rest := by
  rw [decodeEntityChars]
  split
  next heq =>
    cases h.symm.trans heq
    rfl
  next heq => cases h.symm.trans heq

theorem decodeEntityChars_of_none {c : Char} {r : List Char} (h : readReference? (c :: r) = none) :
    decodeEntityChars (c :: r) = c :: decodeEntityChars r := by
  rw [decodeEntityChars]
  split
  next heq => cases h.symm.trans heq
  · rfl

/-- Where no backslash is, nothing is decoded. -/
theorem decodeEntityChars_append_of_not_mem {s : List Char} (hs : '\\' ∉ s) (rest : List Char) :
    decodeEntityChars (s ++ rest) = s ++ decodeEntityChars rest := by
  induction s with
  | nil => rfl
  | cons c s ih =>
      rw [List.mem_cons, not_or] at hs
      have hnone : readReference? (c :: (s ++ rest)) = none := by
        unfold readReference?
        split
        next heq => exact absurd (List.cons.inj heq).1.symm hs.1
        · rfl
      rw [List.cons_append, decodeEntityChars_of_none hnone, ih hs.2, List.cons_append]

/-- Somewhere in an escaped text there is a reference that stands for the character. -/
def HoldsReference (s : List Char) (d : Char) : Prop :=
  ∃ back rest, back <:+ s ∧ readReference? back = some (d, rest)

theorem HoldsReference.mono {s t : List Char} {d : Char} (h : HoldsReference s d)
    (hsuffix : s <:+ t) : HoldsReference t d := by
  obtain ⟨back, rest, hback, hread⟩ := h
  exact ⟨back, rest, hback.trans hsuffix, hread⟩

instance (s : List Char) (d : Char) : Decidable (HoldsReference s d) :=
  decidable_of_iff (∃ back ∈ s.tails, (readReference? back).map Prod.fst = some d) <| by
    simp [HoldsReference, Option.map_eq_some_iff]

/-- Decoding adds what the references of the text stand for. -/
theorem exists_of_mem_decodeEntityChars {s : List Char} {c : Char}
    (h : c ∈ decodeEntityChars s) :
    c ∈ s ∨ ∃ d, HoldsReference s d ∧ c ∈ (reserved? d).getD [d] := by
  induction s using decodeEntityChars.induct with
  | case1 =>
      rw [decodeEntityChars_nil] at h
      cases h
  | case2 b r d rest hread ih =>
      obtain ⟨front, hsplit, -⟩ := exists_semicolon_of_readReference? hread
      have hrest : rest <:+ b :: r := ⟨front ++ [';'], by simp [hsplit]⟩
      rw [decodeEntityChars_of_some hread] at h
      rcases List.mem_append.1 h with h | h
      · exact .inr ⟨d, ⟨b :: r, rest, List.suffix_rfl, hread⟩, h⟩
      · exact (ih h).imp (fun hmem => hrest.mem hmem) fun ⟨e, he, hmem⟩ => ⟨e, he.mono hrest, hmem⟩
  | case3 b r hread ih =>
      have hrest : r <:+ b :: r := List.suffix_cons b r
      rw [decodeEntityChars_of_none hread] at h
      rcases List.mem_cons.1 h with rfl | h
      · exact .inl (List.mem_cons_self ..)
      · exact (ih h).imp (fun hmem => hrest.mem hmem) fun ⟨e, he, hmem⟩ => ⟨e, he.mono hrest, hmem⟩

/-- In a text without a hash, decoding adds what references without a hash stand for. -/
theorem mem_decodeEntityChars {s : List Char} (hhash : '#' ∉ s) {c : Char}
    (h : c ∈ decodeEntityChars s) :
    c ∈ s ∨ ∃ d ∈ basicCharacters, c ∈ (reserved? d).getD [d] := by
  rcases exists_of_mem_decodeEntityChars h with h | ⟨d, ⟨back, rest, hback, hread⟩, h⟩
  · exact .inl h
  · obtain ⟨-, -, -, hd⟩ := exists_name_of_readReference? (fun hmem => hhash (hback.mem hmem)) hread
    exact .inr ⟨d, hd, h⟩

/-! ## Formulas -/

/-- Where the first character of a pair is not, nothing is replaced. -/
theorem replacePair_append_of_not_mem {a b c : Char} {s : List Char} (hs : a ∉ s)
    (rest : List Char) : replacePair a b c (s ++ rest) = s ++ replacePair a b c rest := by
  induction s with
  | nil => rfl
  | cons d s ih =>
      rw [List.mem_cons, not_or] at hs
      have htail := ih hs.2
      rw [List.cons_append, List.cons_append, ← htail]
      cases hrest : s ++ rest with
      | nil => simp [replacePair]
      | cons e back => rw [replacePair, if_neg fun h => hs.1 h.1.symm]

/-- A text that is a single formula is its interior between two delimiters. -/
theorem formulaInterior?_spec {s interior : List Char} (h : formulaInterior? s = some interior) :
    ∃ opening ∈ [['$'], ['\\', '(']], ∃ closing ∈ [['$'], ['\\', ')']],
      s = opening ++ interior ++ closing := by
  obtain ⟨after, hopening, h⟩ := Option.bind_eq_some_iff.1 h
  obtain ⟨before, hclosing, rfl⟩ := Option.map_eq_some_iff.1 h
  have hback : ∃ closing ∈ [['$'], ['\\', ')']], after = before.reverse ++ closing := by
    unfold beforeClosing? at hclosing
    split at hclosing
    next r heq =>
      cases hclosing
      refine ⟨['$'], by simp, ?_⟩
      rw [← List.reverse_reverse after, heq, List.reverse_cons]
    next r heq =>
      cases hclosing
      refine ⟨['\\', ')'], by simp, ?_⟩
      rw [← List.reverse_reverse after, heq]
      simp
    · cases hclosing
  obtain ⟨closing, hmem, rfl⟩ := hback
  unfold afterOpening? at hopening
  split at hopening
  · cases hopening
    exact ⟨['$'], by simp, closing, hmem, rfl⟩
  · cases hopening
    exact ⟨['\\', '('], by simp, closing, hmem, rfl⟩
  · cases hopening

end HtmlToLatex
