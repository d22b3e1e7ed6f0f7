import Mathlib.Data.List.Infix
import HtmlToLatex.Latex.Math

set_option autoImplicit false

/-! # Delimiters as TeX reads them

TeX reads a text in tokens: a backslash takes the next character with it. The choice of dollars as
delimiters looks for a backslash and a parenthesis in a row instead. The second backslash of a line
break belongs to no delimiter, but it makes such a pair with a parenthesis after it. This is the
only way in which the two differ: `preferDollarMath_reads_tokens`. -/

namespace HtmlToLatex

/-! ## Tokens -/

/-- The tokens of a text that is read from the left, where a backslash takes the next character with
it. -/
def texTokens : List Char → List (List Char)
  | '\\' :: c :: r => ['\\', c] :: texTokens r
  | c :: r => [c] :: texTokens r
  | [] => []

/-- The delimiters that are parentheses after a backslash. -/
def parenthesisDelimiters : List (List Char) := [['\\', '('], ['\\', ')']]

/-- Writes the parenthesis delimiters among the tokens of a text as dollars. -/
def dollarTokens (s : List Char) : List Char :=
  (texTokens s).flatMap fun token => if token ∈ parenthesisDelimiters then ['$'] else token

/-- Right after the line break token there is a parenthesis. -/
def BreakThenParenthesis (s : List Char) : Prop :=
  ∃ p ∈ ['(', ')'], [['\\', '\\'], [p]] <:+: texTokens s

theorem texTokens_single {c : Char} {s : List Char} (hc : c = '\\' → s = []) :
    texTokens (c :: s) = [c] :: texTokens s := by
  rw [texTokens]
  rintro d r rfl rfl
  cases hc rfl

/-- A parenthesis that is a token of its own is the first character. -/
theorem head?_texTokens {p : Char} (hp : p ≠ '\\') {s : List Char} :
    (texTokens s).head? = some [p] ↔ s.head? = some p := by
  unfold texTokens
  split
  · simp [Ne.symm hp]
  · simp
  · simp

theorem breakThenParenthesis_pair {c : Char} {s : List Char} :
    BreakThenParenthesis ('\\' :: c :: s) ↔
      (c = '\\' ∧ ∃ p ∈ ['(', ')'], s.head? = some p) ∨ BreakThenParenthesis s := by
  have htokens : texTokens ('\\' :: c :: s) = ['\\', c] :: texTokens s := rfl
  have hstart : ∀ p ∈ ['(', ')'], [['\\', '\\'], [p]] <+: ['\\', c] :: texTokens s ↔
      c = '\\' ∧ s.head? = some p := by
    intro p hp
    have hne : p ≠ '\\' := by
      rintro rfl
      exact absurd hp (by decide)
    rw [List.cons_prefix_cons, ← head?_texTokens hne]
    cases texTokens s <;> simp [List.cons_prefix_cons, eq_comm]
  unfold BreakThenParenthesis
  rw [htokens]
  constructor
  · rintro ⟨p, hp, hinfix⟩
    rcases List.infix_cons_iff.1 hinfix with hpre | hrest
    · exact .inl ⟨((hstart p hp).1 hpre).1, p, hp, ((hstart p hp).1 hpre).2⟩
    · exact .inr ⟨p, hp, hrest⟩
  · rintro (⟨hc, p, hp, hhead⟩ | ⟨p, hp, hrest⟩)
    · exact ⟨p, hp, List.infix_cons_iff.2 (.inl ((hstart p hp).2 ⟨hc, hhead⟩))⟩
    · exact ⟨p, hp, List.infix_cons_iff.2 (.inr hrest)⟩

theorem breakThenParenthesis_single {c : Char} {s : List Char} (hc : c = '\\' → s = []) :
    BreakThenParenthesis (c :: s) ↔ BreakThenParenthesis s := by
  unfold BreakThenParenthesis
  rw [texTokens_single hc]
  simp only [List.infix_cons_iff, List.cons_prefix_cons]
  simp

/-! ## Pairs -/

/-- Writes a backslash and a parenthesis in a row as a dollar, wherever they stand. -/
def dollarPairs : List Char → List Char
  | x :: y :: r =>
    if x = '\\' ∧ y ∈ ['(', ')'] then '$' :: dollarPairs r else x :: dollarPairs (y :: r)
  | r => r

theorem replacePair_cons {a b c x : Char} {s : List Char} (h : ¬(x = a ∧ s.head? = some b)) :
    replacePair a b c (x :: s) = x :: replacePair a b c s := by
  cases s with
  | nil => simp [replacePair]
  | cons y s => rw [replacePair, if_neg (by simpa using h)]

theorem dollarPairs_cons {x : Char} {s : List Char}
    (h : x = '\\' → ∀ p ∈ ['(', ')'], s.head? ≠ some p) :
    dollarPairs (x :: s) = x :: dollarPairs s := by
  cases s with
  | nil => simp [dollarPairs]
  | cons y s =>
      rw [dollarPairs, if_neg]
      rintro ⟨hx, hy⟩
      exact h hx y hy rfl

/-- Without backslashes there are no pairs. -/
theorem dollarPairs_append_of_not_mem {s : List Char} (hs : '\\' ∉ s) (rest : List Char) :
    dollarPairs (s ++ rest) = s ++ dollarPairs rest := by
  induction s with
  | nil => rfl
  | cons c s ih =>
      rw [List.mem_cons, not_or] at hs
      rw [List.cons_append, dollarPairs_cons fun h => absurd h.symm hs.1, ih hs.2, List.cons_append]

/-- What is replaced at the start of a text is replaced by the new character. -/
theorem head?_replacePair {a b c d : Char} {s : List Char}
    (h : (replacePair a b c s).head? = some d) : d = c ∨ s.head? = some d := by
  unfold replacePair at h
  split at h
  · split at h
    · exact .inl (Option.some.inj h).symm
    · exact .inr h
  · exact .inr h

/-- The two replacements are one: neither makes a pair for the other or takes one away. -/
theorem preferDollarChars_eq_dollarPairs (s : List Char) :
    preferDollarChars s = dollarPairs s := by
  unfold preferDollarChars
  induction s using dollarPairs.induct with
  | case1 x y r hpair ih =>
      obtain ⟨rfl, hy⟩ := hpair
      rw [dollarPairs, if_pos ⟨rfl, hy⟩, ← ih]
      simp only [List.mem_cons, List.not_mem_nil, or_false] at hy
      rcases hy with rfl | rfl
      · rw [replacePair, if_pos ⟨rfl, rfl⟩, replacePair_cons (by simp)]
      · have hinner : replacePair '\\' '(' '$' ('\\' :: ')' :: r) =
            '\\' :: ')' :: replacePair '\\' '(' '$' r := by
          rw [replacePair_cons (by simp), replacePair_cons (by simp)]
        rw [hinner, replacePair, if_pos ⟨rfl, rfl⟩]
  | case2 x y r hpair ih =>
      have hopen : ¬(x = '\\' ∧ (y :: r).head? = some '(') := by
        rintro ⟨rfl, hy⟩
        cases hy
        exact hpair (by decide)
      have hclose : ¬(x = '\\' ∧ (replacePair '\\' '(' '$' (y :: r)).head? = some ')') := by
        rintro ⟨rfl, hy⟩
        rcases head?_replacePair hy with hdollar | hy
        · cases hdollar
        · cases hy
          exact hpair (by decide)
      rw [dollarPairs, if_neg hpair, ← ih, replacePair_cons hopen, replacePair_cons hclose]
  | case3 s hs =>
      match s, hs with
      | [], _ => rfl
      | [x], _ => simp [replacePair, dollarPairs]
      | x :: y :: r, hs => exact absurd rfl (hs x y r)

/-! ## Agreement -/

/-- After a backslash that belongs to a token already, all goes as without it, unless a parenthesis
follows. -/
theorem dollarPairs_backslash {s t : List Char} :
    dollarPairs ('\\' :: s) = '\\' :: t ↔
      dollarPairs s = t ∧ ∀ p ∈ ['(', ')'], s.head? ≠ some p := by
  by_cases hhead : ∀ p ∈ ['(', ')'], s.head? ≠ some p
  · rw [dollarPairs_cons fun _ => hhead, List.cons.injEq]
    simp [hhead]
  · refine iff_of_false ?_ fun h => hhead h.2
    simp only [not_forall, not_not] at hhead
    obtain ⟨p, hp, hs⟩ := hhead
    obtain ⟨r, rfl⟩ := List.head?_eq_some_iff.1 hs
    rw [dollarPairs, if_pos ⟨rfl, hp⟩]
    simp

theorem dollarPairs_eq_dollarTokens_iff (s : List Char) :
    dollarPairs s = dollarTokens s ↔ ¬BreakThenParenthesis s := by
  induction s using texTokens.induct with
  | case1 c r ih =>
      have htokens : dollarTokens ('\\' :: c :: r) =
          (if c ∈ ['(', ')'] then ['$'] else ['\\', c]) ++ dollarTokens r := by
        simp [dollarTokens, texTokens, parenthesisDelimiters]
      rw [htokens, breakThenParenthesis_pair]
      by_cases hparenthesis : c ∈ ['(', ')']
      · have hc : c ≠ '\\' := by
          rintro rfl
          exact absurd hparenthesis (by decide)
        rw [dollarPairs, if_pos ⟨rfl, hparenthesis⟩, if_pos hparenthesis, List.singleton_append,
          List.cons.injEq, ih]
        simp [hc]
      · rw [dollarPairs, if_neg fun h => hparenthesis h.2, if_neg hparenthesis, List.cons_append,
          List.singleton_append, List.cons.injEq]
        by_cases hc : c = '\\'
        · -- A line break: its second backslash may still make a pair.
          subst hc
          rw [dollarPairs_backslash, ih]
          simp [not_or, and_comm]
        · rw [dollarPairs_cons fun h => absurd h hc, List.cons.injEq, ih]
          simp [hc]
  | case2 c r hc ih =>
      have hlast : c = '\\' → r = [] := by
        rintro rfl
        cases r with
        | nil => rfl
        | cons d r => exact absurd rfl (hc d r rfl)
      have htokens : dollarTokens (c :: r) = c :: dollarTokens r := by
        simp [dollarTokens, texTokens_single hlast, parenthesisDelimiters]
      have hpairs : dollarPairs (c :: r) = c :: dollarPairs r :=
        dollarPairs_cons fun h => by simp [hlast h]
      rw [htokens, hpairs, List.cons.injEq, ih, breakThenParenthesis_single hlast]
      simp
  | case3 => simp [dollarPairs, dollarTokens, texTokens, BreakThenParenthesis]

/-- **Which parentheses are taken for delimiters.** Every backslash that stands directly before a
parenthesis becomes a dollar together with it, and all else is copied. This changes the delimiters
among the tokens of the text and nothing else exactly if no line break stands right before a
parenthesis. -/
theorem preferDollarMath_reads_tokens (t : String) :
    preferDollarMath t = String.ofList (dollarPairs t.toList) ∧
      (preferDollarMath t = String.ofList (dollarTokens t.toList) ↔
        ¬BreakThenParenthesis t.toList) := by
  rw [preferDollarMath, preferDollarChars_eq_dollarPairs]
  exact ⟨rfl, String.ofList_inj.trans (dollarPairs_eq_dollarTokens_iff t.toList)⟩

example : preferDollarMath "\\(a\\\\(b)\\)" = "$a\\$b)$" := by decide

/-- A line break inside a formula, with a parenthesis after it. -/
theorem preferDollarMath_splits_break :
    ¬∀ t : String, preferDollarMath t = String.ofList (dollarTokens t.toList) := by
  intro h
  exact absurd (h "\\(a\\\\(b)\\)") (by decide)

end HtmlToLatex
