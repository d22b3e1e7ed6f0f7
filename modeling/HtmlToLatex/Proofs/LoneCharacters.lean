import Mathlib.Algebra.Ring.Parity
import Mathlib.Data.List.DropRight
import HtmlToLatex.Proofs.CharacterReferences

set_option autoImplicit false

/-! # Characters read on their own

TeX reads a text from the left, and a backslash takes the next character with it. So a backslash
directly before a reserved character is not enough: it may be taken itself. In running text that
comes from a source without backslashes this happens exactly where references bring in an odd number
of backslashes right before a reserved character: `normalizeText_readsAlone`. -/

namespace HtmlToLatex

/-! ## Reading -/

/-- The characters that are read on their own when a text is read from the left and a backslash
takes the next character with it. `taken` says whether the text comes after such a backslash. -/
def readAlone (taken : Bool) : List Char → List Char
  | [] => []
  | c :: r =>
    if taken then readAlone false r
    else if c = '\\' then readAlone true r
    else c :: readAlone false r

theorem readAlone_backslash (taken : Bool) (s : List Char) :
    readAlone taken ('\\' :: s) = readAlone (!taken) s := by
  cases taken <;> simp [readAlone]

theorem mem_readAlone_cons {taken : Bool} {c d : Char} (hc : c ≠ '\\') {s : List Char} :
    d ∈ readAlone taken (c :: s) ↔ (taken = false ∧ d = c) ∨ d ∈ readAlone false s := by
  cases taken <;> simp [readAlone, hc]

/-- After characters that are no backslashes, all is read anew. -/
theorem mem_readAlone_append {taken : Bool} {d : Char} {u s : List Char} (hu : u ≠ [])
    (hbackslash : '\\' ∉ u) (hd : d ∉ u) :
    d ∈ readAlone taken (u ++ s) ↔ d ∈ readAlone false s := by
  induction u generalizing taken with
  | nil => exact absurd rfl hu
  | cons c u ih =>
      rw [List.mem_cons, not_or] at hbackslash hd
      rw [List.cons_append, mem_readAlone_cons (Ne.symm hbackslash.1)]
      cases u with
      | nil => simp [hd.1]
      | cons e u => rw [ih (by simp) hbackslash.2 hd.2]; simp [hd.1]

/-- Choosing delimiters changes what is read on its own in delimiters only. -/
theorem mem_readAlone_replacePair {b c d : Char} (hb : b ≠ '\\') (hc : c ≠ '\\') (hdb : d ≠ b)
    (hdc : d ≠ c) {taken : Bool} {s : List Char} :
    d ∈ readAlone taken (replacePair '\\' b c s) ↔ d ∈ readAlone taken s := by
  induction s using replacePair.induct '\\' b generalizing taken with
  | case1 x y r hpair ih =>
      -- A backslash that is taken leaves the parenthesis to be read on its own, and one that is
      -- not taken takes it: either way the reading goes on after the pair as after a dollar.
      obtain ⟨rfl, rfl⟩ := hpair
      rw [replacePair, if_pos ⟨rfl, rfl⟩, mem_readAlone_cons hc, ih, readAlone_backslash,
        mem_readAlone_cons hb]
      simp [hdb, hdc]
  | case2 x y r hpair ih =>
      rw [replacePair, if_neg hpair]
      by_cases hx : x = '\\'
      · rw [hx, readAlone_backslash, readAlone_backslash, ih]
      · rw [mem_readAlone_cons hx, mem_readAlone_cons hx, ih]
  | case3 s hs => rw [replacePair]; exact hs

/-! ## Reading what is escaped -/

/-- Whether the next character is taken after a text is read. -/
def endsTaken (taken : Bool) (s : List Char) : Bool :=
  s.foldl (fun taken c => c == '\\' && !taken) taken

theorem endsTaken_concat (taken : Bool) (s : List Char) (c : Char) :
    endsTaken taken (s ++ [c]) = (c == '\\' && !endsTaken taken s) := by
  simp [endsTaken]

theorem endsTaken_eq_true_iff {s : List Char} :
    endsTaken false s = true ↔ Odd (s.rtakeWhile (· == '\\')).length := by
  induction s using List.reverseRecOn with
  | nil => simp [endsTaken]
  | append_singleton s c ih =>
      rw [endsTaken_concat, List.rtakeWhile_concat]
      by_cases hc : c = '\\'
      · simp [hc, Nat.odd_add_one, ← ih]
      · simp [hc]

theorem exists_split_cons {taken : Bool} {c d : Char} {t : List Char} :
    (∃ front back, c :: t = front ++ d :: back ∧ endsTaken taken front = true) ↔
      (d = c ∧ taken = true) ∨
        ∃ front back, t = front ++ d :: back ∧ endsTaken (c == '\\' && !taken) front = true := by
  constructor
  · rintro ⟨front, back, hsplit, hends⟩
    cases front with
    | nil =>
        obtain ⟨rfl, -⟩ := List.cons.inj hsplit
        exact .inl ⟨rfl, hends⟩
    | cons e front =>
        obtain ⟨rfl, rfl⟩ := List.cons.inj hsplit
        exact .inr ⟨front, back, rfl, hends⟩
  · rintro (⟨rfl, htaken⟩ | ⟨front, back, rfl, hends⟩)
    · exact ⟨[], t, rfl, htaken⟩
    · exact ⟨c :: front, back, rfl, hends⟩

/-- The reserved characters whose spelling still holds the character itself. -/
def keptCharacters : List Char := ['%', '&', '#']

/-- A spelling is a backslash and the character, or a command without reserved characters. -/
theorem spelling_kept_or_command {c : Char} {spelling : List Char}
    (h : reserved? c = some spelling) :
    (c ∈ keptCharacters ∧ spelling = ['\\', c]) ∨
      (c ∉ keptCharacters ∧ ∃ command, spelling = '\\' :: command ∧ command ≠ [] ∧
        command.any ('\\' :: reservedCharacters).contains = false) := by
  unfold reserved? at h
  split at h <;> cases h
  · exact .inl (by decide)
  · exact .inl (by decide)
  · exact .inl (by decide)
  · exact .inr ⟨by decide, _, rfl, by decide, by decide⟩
  · exact .inr ⟨by decide, _, rfl, by decide, by decide⟩

/-- In an escaped text, a reserved character is read on its own exactly if the backslash that is
put before it is taken. -/
theorem mem_readAlone_protectChars {d : Char} (hd : d ∈ reservedCharacters) (taken : Bool)
    (t : List Char) :
    d ∈ readAlone taken (protectChars t) ↔ d ∈ keptCharacters ∧
      ∃ front back, t = front ++ d :: back ∧ endsTaken taken front = true := by
  have hne : d ≠ '\\' := by
    rintro rfl
    exact absurd hd (by decide)
  induction t generalizing taken with
  | nil => simp [readAlone]
  | cons c t ih =>
      rw [exists_split_cons]
      cases hspelling : reserved? c with
      | none =>
          have hdc : d ≠ c := by
            rintro rfl
            simpa [hspelling] using isSome_reserved?_iff.2 hd
          rw [protectChars_cons_of_plain hspelling]
          by_cases hc : c = '\\'
          · subst hc
            simp [readAlone_backslash, ih, hne]
          · have hbeq : (c == '\\') = false := by simpa using hc
            simp [mem_readAlone_cons hc, ih, hdc, hbeq]
      | some spelling =>
          have hc : c ≠ '\\' := by
            rintro rfl
            cases hspelling
          have hbeq : (c == '\\') = false := by simpa using hc
          rw [protectChars_cons, hspelling, Option.getD_some]
          rcases spelling_kept_or_command hspelling with
            ⟨hkept, rfl⟩ | ⟨hkept, command, rfl, hcommand, hplain⟩
          · rw [List.cons_append, readAlone_backslash, List.singleton_append, mem_readAlone_cons hc]
            by_cases hdc : d = c
            · subst hdc
              simp [ih, hbeq, hkept]
            · simp [ih, hdc, hbeq]
          · have hbackslash : '\\' ∉ command := fun hmem =>
              List.any_eq_false.1 hplain _ hmem (by simp)
            have hnot : d ∉ command := fun hmem =>
              List.any_eq_false.1 hplain _ hmem (by simp [hd])
            rw [List.cons_append, readAlone_backslash,
              mem_readAlone_append hcommand hbackslash hnot]
            by_cases hdc : d = c
            · subst hdc
              simp [ih, hkept]
            · simp [ih, hdc, hbeq]

theorem mem_readAlone_chooseDelimiters {options : Options} {d : Char}
    (hd : d ∈ reservedCharacters) {s : List Char} :
    d ∈ readAlone false (chooseDelimiters options s) ↔ d ∈ readAlone false s := by
  have hne : d ≠ '(' ∧ d ≠ ')' ∧ d ≠ '$' := by
    simp only [reservedCharacters, List.mem_cons, List.not_mem_nil, or_false] at hd
    rcases hd with rfl | rfl | rfl | rfl | rfl <;> decide
  unfold chooseDelimiters
  split
  · rw [preferDollarChars,
      mem_readAlone_replacePair (by decide) (by decide) hne.2.1 hne.2.2,
      mem_readAlone_replacePair (by decide) (by decide) hne.1 hne.2.2]
  · rfl

/-! ## Running text -/

/-- **Which reserved characters are read on their own.** Let a source without backslashes stand for
`t`, after the passes over breaks and tabs. A reserved character of the running text is read on its
own exactly if it is one of those that escaping keeps and stands in `t` right after an odd number of
backslashes, which only references can have brought in. So it never is if no reference stands for a
backslash. -/
theorem normalizeText_readsAlone (options : Options) {s : String} (hs : '\\' ∉ s.toList) :
    ∃ t, Resolves (dropTabs (replaceBreaks (breakReplacement options) s.toList)) t ∧
      (∀ d ∈ reservedCharacters, d ∈ readAlone false (normalizeText options s).toList ↔
        d ∈ keptCharacters ∧ ∃ front back, t = front ++ d :: back ∧
          Odd (front.rtakeWhile (· == '\\')).length) ∧
      ('\\' ∉ t → ∀ d ∈ reservedCharacters,
        d ∉ readAlone false (normalizeText options s).toList) := by
  obtain ⟨t, ht⟩ :=
    exists_resolves (dropTabs (replaceBreaks (breakReplacement options) s.toList))
  have hread : ∀ d ∈ reservedCharacters, d ∈ readAlone false (normalizeText options s).toList ↔
      d ∈ keptCharacters ∧ ∃ front back, t = front ++ d :: back ∧
        Odd (front.rtakeWhile (· == '\\')).length := by
    intro d hd
    rw [normalizeText, String.toList_ofList, normalizeChars_eq_protectChars hs ht,
      mem_readAlone_chooseDelimiters hd, mem_readAlone_protectChars hd]
    simp only [endsTaken_eq_true_iff]
  refine ⟨t, ht, hread, fun hbackslash d hd halone => ?_⟩
  obtain ⟨-, front, back, rfl, hodd⟩ := (hread d hd).1 halone
  have hnone : front.rtakeWhile (· == '\\') = [] := by
    rw [List.eq_nil_iff_forall_not_mem]
    intro c hc
    have hmem : c ∈ front := (List.rtakeWhile_suffix _ _).mem hc
    have hself : c = '\\' := by simpa using List.mem_rtakeWhile_imp hc
    exact hbackslash (List.mem_append_left _ (hself ▸ hmem))
  rw [hnone] at hodd
  exact absurd hodd (by decide)

/-- A reference brings in a backslash that takes the one before the percent sign. -/
theorem normalizeText_disarms :
    ¬∀ (options : Options) (s : String), '\\' ∉ s.toList → ∀ d ∈ reservedCharacters,
      d ∉ readAlone false (normalizeText options s).toList := by
  intro h
  refine h {} "&#92;%" (by decide) '%' (by decide) ?_
  decide +kernel

/-- Two backslashes from references before an ampersand do no harm. -/
theorem normalizeText_readsAlone_row :
    let s := "a&#92;&#92;&b~"
    '\\' ∉ s.toList ∧
      ∃ t, Resolves (dropTabs (replaceBreaks (breakReplacement {}) s.toList)) t ∧
        (∀ d ∈ reservedCharacters, d ∈ readAlone false (normalizeText {} s).toList ↔
          d ∈ keptCharacters ∧ ∃ front back, t = front ++ d :: back ∧
            Odd (front.rtakeWhile (· == '\\')).length) ∧
        ('\\' ∉ t → ∀ d ∈ reservedCharacters,
          d ∉ readAlone false (normalizeText {} s).toList) :=
  ⟨by decide, normalizeText_readsAlone {} (by decide)⟩

end HtmlToLatex
