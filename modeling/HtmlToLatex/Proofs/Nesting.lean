import Mathlib.Data.List.Induction
import HtmlToLatex.Latex.Command
import HtmlToLatex.Proofs.RunningText

set_option autoImplicit false

/-! # Nesting

What it means that the braces of a text match and that its environments are closed in the order in
which they are opened. Both are read off the characters. `Tidy` is a grammar of texts of which both
hold; every text of it can stand before any other without the two being mixed up. -/

namespace HtmlToLatex

/-! ## Braces -/

/-- The braces of a text match: up to every place at most as many are closed as are opened, and in
    the end all of them are. -/
structure Balanced (s : List Char) : Prop where
  closed_le_opened : ∀ n, (s.take n).count '}' ≤ (s.take n).count '{'
  opened_eq_closed : s.count '{' = s.count '}'

theorem Balanced.append {s t : List Char} (hs : Balanced s) (ht : Balanced t) :
    Balanced (s ++ t) where
  closed_le_opened n := by
    have hfront := hs.closed_le_opened n
    have hback := ht.closed_le_opened (n - s.length)
    simp only [List.take_append, List.count_append]
    omega
  opened_eq_closed := by
    rw [List.count_append, List.count_append, hs.opened_eq_closed, ht.opened_eq_closed]

theorem balanced_of_no_braces {s : List Char} (hopen : '{' ∉ s) (hclose : '}' ∉ s) :
    Balanced s where
  closed_le_opened n := by
    rw [List.count_eq_zero.2 fun hmem => hclose (List.take_subset n s hmem)]
    exact Nat.zero_le _
  opened_eq_closed := by rw [List.count_eq_zero.2 hopen, List.count_eq_zero.2 hclose]

/-- A text in braces. -/
def inBraces (s : List Char) : List Char :=
  '{' :: s ++ ['}']

theorem Balanced.wrapped {s : List Char} (hs : Balanced s) : Balanced (inBraces s) where
  closed_le_opened n := by
    cases n with
    | zero => exact Nat.le_refl _
    | succ n =>
        have hfront := hs.closed_le_opened n
        -- The opening brace makes up for the closing one, if that one is reached at all.
        have hlast : (['}'].take (n - s.length)).count '}' ≤ 1 :=
          List.Sublist.count_le '}' (List.take_sublist _ ['}'])
        simp only [inBraces, List.cons_append, List.take_succ_cons, List.take_append,
          List.count_cons, List.count_append]
        simp
        omega
  opened_eq_closed := by simp [inBraces, hs.opened_eq_closed]

/-! ## Environments -/

/-- The start or the end of an environment. -/
inductive Marker where
  | opens (name : List Char)
  | closes (name : List Char)
  deriving DecidableEq

/-- What stands before a closing brace. -/
def upToBrace (s : List Char) : List Char :=
  s.takeWhile (· ≠ '}')

/-- The marker that a text starts with. -/
def marker? : List Char → Option Marker
  | '\\' :: 'b' :: 'e' :: 'g' :: 'i' :: 'n' :: '{' :: rest => some (.opens (upToBrace rest))
  | '\\' :: 'e' :: 'n' :: 'd' :: '{' :: rest => some (.closes (upToBrace rest))
  | _ => none

/-- The markers of a text, in order, wherever they start. -/
def markers : List Char → List Marker
  | [] => []
  | c :: rest => (marker? (c :: rest)).toList ++ markers rest

/-- Whether every end names the innermost open environment, and all are closed. The names of the
    environments that are open already are given, innermost first. -/
def nested : List (List Char) → List Marker → Bool
  | opened, [] => opened.isEmpty
  | opened, .opens name :: rest => nested (name :: opened) rest
  | name :: opened, .closes name' :: rest => name == name' && nested opened rest
  | [], .closes _ :: _ => false

/-- A marker starts with a backslash. -/
theorem markers_cons_of_ne {c : Char} (hc : c ≠ '\\') (rest : List Char) :
    markers (c :: rest) = markers rest := by
  have hnone : marker? (c :: rest) = none := by
    unfold marker?
    split
    next heq => exact absurd (List.cons.inj heq).1 hc
    next heq => exact absurd (List.cons.inj heq).1 hc
    · rfl
  rw [markers, hnone]
  rfl

theorem markers_append_of_not_mem {s : List Char} (hs : '\\' ∉ s) (rest : List Char) :
    markers (s ++ rest) = markers rest := by
  induction s with
  | nil => rfl
  | cons c s ih =>
      rw [List.mem_cons, not_or] at hs
      rw [List.cons_append, markers_cons_of_ne (Ne.symm hs.1), ih hs.2]

/-- No marker starts where a command of another name stands. -/
theorem markers_control {c : Char} (hb : c ≠ 'b') (he : c ≠ 'e') (hc : c ≠ '\\')
    (rest : List Char) : markers ('\\' :: c :: rest) = markers rest := by
  have hnone : marker? ('\\' :: c :: rest) = none := by
    unfold marker?
    split
    next heq => exact absurd (List.cons.inj (List.cons.inj heq).2).1 hb
    next heq => exact absurd (List.cons.inj (List.cons.inj heq).2).1 he
    · rfl
  rw [markers, hnone, markers_cons_of_ne hc]
  rfl

theorem upToBrace_append {name : List Char} (hname : '}' ∉ name) (rest : List Char) :
    upToBrace (name ++ ['}'] ++ rest) = name := by
  induction name with
  | nil => rfl
  | cons c name ih =>
      rw [List.mem_cons, not_or] at hname
      rw [List.cons_append, List.cons_append, upToBrace,
        List.takeWhile_cons_of_pos (by simpa using Ne.symm hname.1)]
      exact congrArg (c :: ·) (ih hname.2)

/-- The start of an environment. -/
def beginMark (name : List Char) : List Char :=
  ['\\', 'b', 'e', 'g', 'i', 'n'] ++ inBraces name

/-- The end of an environment. -/
def endMark (name : List Char) : List Char :=
  ['\\', 'e', 'n', 'd'] ++ inBraces name

theorem markers_beginMark {name : List Char} (hbrace : '}' ∉ name) (hbackslash : '\\' ∉ name)
    (rest : List Char) : markers (beginMark name ++ rest) = .opens name :: markers rest := by
  have hmarker : marker? (beginMark name ++ rest) =
      some (.opens (upToBrace (name ++ ['}'] ++ rest))) := rfl
  have hscan : beginMark name ++ rest =
      '\\' :: (['b', 'e', 'g', 'i', 'n'] ++ inBraces name ++ rest) := rfl
  have hrest : '\\' ∉ ['b', 'e', 'g', 'i', 'n'] ++ inBraces name := by simp [inBraces, hbackslash]
  rw [upToBrace_append hbrace, hscan] at hmarker
  rw [hscan, markers, hmarker, markers_append_of_not_mem hrest]
  rfl

theorem markers_endMark {name : List Char} (hbrace : '}' ∉ name) (hbackslash : '\\' ∉ name)
    (rest : List Char) : markers (endMark name ++ rest) = .closes name :: markers rest := by
  have hmarker : marker? (endMark name ++ rest) =
      some (.closes (upToBrace (name ++ ['}'] ++ rest))) := rfl
  have hscan : endMark name ++ rest = '\\' :: (['e', 'n', 'd'] ++ inBraces name ++ rest) := rfl
  have hrest : '\\' ∉ ['e', 'n', 'd'] ++ inBraces name := by simp [inBraces, hbackslash]
  rw [upToBrace_append hbrace, hscan] at hmarker
  rw [hscan, markers, hmarker, markers_append_of_not_mem hrest]
  rfl

/-! ## Tidy texts -/

/-- A character that may follow a backslash. Those that could be the first letter of a marker are
    left out. -/
def isControl (c : Char) : Bool :=
  (c.isAlpha && c != 'b' && c != 'e') || ['%', '&', '[', ']'].contains c

/-- A character without a meaning for the nesting. -/
def isInert (c : Char) : Bool :=
  c != '\\' && c != '{' && c != '}'

/-- The end of a row in a table, with the line below it. -/
def rowBreak : List Char :=
  ['\\', '\\', '\n', '\t', '\\', 'h', 'l', 'i', 'n', 'e']

/-- Texts in which braces and environments are nested and cannot be mixed up with what stands
    around. -/
inductive Tidy : List Char → Prop where
  | nil : Tidy []
  | inert {c rest} (hc : isInert c = true) (hrest : Tidy rest) : Tidy (c :: rest)
  | control {c rest} (hc : isControl c = true) (hrest : Tidy rest) : Tidy ('\\' :: c :: rest)
  | row {rest} (hrest : Tidy rest) : Tidy (rowBreak ++ rest)
  | group {body rest} (hbody : Tidy body) (hrest : Tidy rest) : Tidy (inBraces body ++ rest)
  | environment {name body rest} (hname : ∀ c ∈ name, c.isAlpha = true) (hbody : Tidy body)
      (hrest : Tidy rest) : Tidy (beginMark name ++ body ++ endMark name ++ rest)

theorem Tidy.append {s t : List Char} (hs : Tidy s) (ht : Tidy t) : Tidy (s ++ t) := by
  induction hs with
  | nil => exact ht
  | inert hc _ ih => exact .inert hc ih
  | control hc _ ih => exact .control hc ih
  | row _ ih =>
      rw [List.append_assoc]
      exact .row ih
  | group hbody _ _ ih =>
      rw [List.append_assoc]
      exact .group hbody ih
  | environment hname hbody _ _ ih =>
      rw [List.append_assoc]
      exact .environment hname hbody ih

theorem Tidy.of_inert {s : List Char} (hs : ∀ c ∈ s, isInert c = true) : Tidy s := by
  induction s with
  | nil => exact .nil
  | cons c s ih =>
      rw [List.forall_mem_cons] at hs
      exact .inert hs.1 (ih hs.2)

theorem Tidy.wrapped {s : List Char} (hs : Tidy s) : Tidy (inBraces s) := by
  simpa using Tidy.group hs .nil

/-! ### What tidy texts are good for -/

theorem isInert_iff {c : Char} : isInert c = true ↔ c ≠ '\\' ∧ c ≠ '{' ∧ c ≠ '}' := by
  simp [isInert, and_assoc]

theorem ne_of_isControl {c d : Char} (hc : isControl c = true) (hd : isControl d = false) :
    c ≠ d := by
  rintro rfl
  cases hc.symm.trans hd

theorem isInert_of_isControl {c : Char} (hc : isControl c = true) : isInert c = true :=
  isInert_iff.2 ⟨ne_of_isControl hc rfl, ne_of_isControl hc rfl, ne_of_isControl hc rfl⟩

theorem not_mem_of_alpha {name : List Char} (hname : ∀ c ∈ name, c.isAlpha = true) {d : Char}
    (hd : d.isAlpha = false) : d ∉ name := by
  intro hmem
  cases (hname d hmem).symm.trans hd

/-- The braces of a tidy text match. -/
theorem Tidy.balanced {s : List Char} (hs : Tidy s) : Balanced s := by
  have hsingle : ∀ {c}, isInert c = true → Balanced [c] := by
    intro c hc
    obtain ⟨-, hopen, hclose⟩ := isInert_iff.1 hc
    exact balanced_of_no_braces (by simpa using Ne.symm hopen) (by simpa using Ne.symm hclose)
  have hbackslash : Balanced ['\\'] := balanced_of_no_braces (by decide) (by decide)
  induction hs with
  | nil => exact balanced_of_no_braces List.not_mem_nil List.not_mem_nil
  | inert hc _ ih => exact (hsingle hc).append ih
  | control hc _ ih => exact (hbackslash.append (hsingle (isInert_of_isControl hc))).append ih
  | row _ ih => exact (balanced_of_no_braces (by decide) (by decide)).append ih
  | group _ _ ihbody ihrest => exact ihbody.wrapped.append ihrest
  | @environment name body rest hname _ _ ihbody ihrest =>
      have hword : ∀ {word : List Char}, '{' ∉ word → '}' ∉ word →
          Balanced (word ++ inBraces name) := fun hopen hclose =>
        (balanced_of_no_braces hopen hclose).append
          (balanced_of_no_braces (not_mem_of_alpha hname rfl) (not_mem_of_alpha hname rfl)).wrapped
      exact (((hword (by decide) (by decide)).append ihbody).append
        (hword (by decide) (by decide))).append ihrest

/-- What is open before a tidy text is open after it. -/
theorem Tidy.nested_markers {s : List Char} (hs : Tidy s) (opened : List (List Char))
    (rest : List Char) : nested opened (markers (s ++ rest)) = nested opened (markers rest) := by
  induction hs generalizing opened rest with
  | nil => rfl
  | inert hc _ ih =>
      rw [List.cons_append, markers_cons_of_ne (isInert_iff.1 hc).1, ih]
  | control hc _ ih =>
      rw [List.cons_append, List.cons_append, markers_control (ne_of_isControl hc rfl)
        (ne_of_isControl hc rfl) (ne_of_isControl hc rfl), ih]
  | @row back _ ih =>
      -- The second backslash is followed by a line break, the third by a letter of no marker.
      have hscan : markers (rowBreak ++ back ++ rest) = markers (back ++ rest) := rfl
      rw [hscan, ih]
  | group _ _ ihbody ihrest =>
      simp only [inBraces, List.cons_append, List.append_assoc, List.nil_append]
      rw [markers_cons_of_ne (by decide), ihbody, markers_cons_of_ne (by decide), ihrest]
  | environment hname _ _ ihbody ihrest =>
      have hbrace := not_mem_of_alpha hname (d := '}') rfl
      have hbackslash := not_mem_of_alpha hname (d := '\\') rfl
      simp only [List.append_assoc]
      rw [markers_beginMark hbrace hbackslash, nested, ihbody, markers_endMark hbrace hbackslash,
        nested, ihrest]
      simp

/-! ### Taking tidy texts apart -/

/-- A character at which a tidy text can be cut off: no token but the character itself ends in
    it. -/
def IsLoose (d : Char) : Prop :=
  isControl d = false ∧ d ≠ 'e' ∧ d ≠ '}'

/-- A text that starts with an inert character stays tidy without it. -/
theorem Tidy.of_cons {c : Char} {s : List Char} (h : Tidy (c :: s)) (hc : isInert c = true) :
    Tidy s := by
  have hne := (isInert_iff.1 hc).1
  generalize ht : c :: s = t at h
  cases h with
  | nil => cases ht
  | inert _ hrest =>
      cases ht
      exact hrest
  | group =>
      obtain ⟨rfl, -⟩ := List.cons.inj ht
      cases hc
  | _ => exact absurd (List.cons.inj ht).1 hne

/-- If a token and what follows it end in a character that the token does not end in, it is what
    follows that ends in it. -/
theorem eq_append_of_append_eq_concat {token rest s : List Char} {d : Char}
    (h : token ++ rest = s ++ [d]) (htoken : token.getLast? ≠ some d) :
    ∃ back, rest = back ++ [d] ∧ s = token ++ back := by
  rcases List.eq_nil_or_concat rest with rfl | ⟨back, e, rfl⟩
  · rw [List.append_nil] at h
    exact absurd (by simp [h]) htoken
  · rw [List.concat_eq_append, ← List.append_assoc] at h
    obtain ⟨hfront, hlast⟩ := List.append_inj' h rfl
    cases hlast
    exact ⟨back, List.concat_eq_append, hfront.symm⟩

theorem getLast?_append_inBraces (front s : List Char) :
    (front ++ inBraces s).getLast? = some '}' := by
  rw [inBraces, ← List.append_assoc, List.getLast?_concat]

/-- A text that ends in a loose character stays tidy without it, and the character is inert. -/
theorem Tidy.of_concat {s : List Char} {d : Char} (h : Tidy (s ++ [d])) (hd : IsLoose d) :
    Tidy s ∧ isInert d = true := by
  obtain ⟨hcontrol, he, hclose⟩ := hd
  generalize ht : s ++ [d] = t at h
  -- No token but a single inert character ends in `d`, so it is always the rest that ends in it.
  induction h generalizing s with
  | nil => simp at ht
  | inert hc hrest ih =>
      cases s with
      | nil =>
          cases ht
          exact ⟨.nil, hc⟩
      | cons c s =>
          cases ht
          obtain ⟨hs, hinert⟩ := ih rfl
          exact ⟨.inert hc hs, hinert⟩
  | @control c rest hc _ ih =>
      have hlast : ['\\', c].getLast? ≠ some d := by simpa using ne_of_isControl hc hcontrol
      have htoken : ['\\', c] ++ rest = s ++ [d] := ht.symm
      obtain ⟨back, rfl, rfl⟩ := eq_append_of_append_eq_concat htoken hlast
      exact ⟨.control hc (ih rfl).1, (ih rfl).2⟩
  | row _ ih =>
      have hlast : rowBreak.getLast? ≠ some d := by
        intro hlast
        exact he (Option.some.inj hlast).symm
      obtain ⟨back, rfl, rfl⟩ := eq_append_of_append_eq_concat ht.symm hlast
      exact ⟨.row (ih rfl).1, (ih rfl).2⟩
  | @group body rest hbody _ _ ih =>
      have hlast : (inBraces body).getLast? ≠ some d := by
        rw [← List.nil_append (inBraces body), getLast?_append_inBraces]
        exact fun h => hclose (Option.some.inj h).symm
      obtain ⟨back, rfl, rfl⟩ := eq_append_of_append_eq_concat ht.symm hlast
      exact ⟨.group hbody (ih rfl).1, (ih rfl).2⟩
  | @environment name body rest hname hbody _ _ ih =>
      have hlast : (beginMark name ++ body ++ endMark name).getLast? ≠ some d := by
        rw [endMark, ← List.append_assoc, getLast?_append_inBraces]
        exact fun h => hclose (Option.some.inj h).symm
      obtain ⟨back, rfl, rfl⟩ := eq_append_of_append_eq_concat ht.symm hlast
      exact ⟨.environment hname hbody (ih rfl).1, (ih rfl).2⟩

/-! ### Trimming -/

theorem isControl_of_isBlank {c : Char} (hc : isBlank c = true) : isControl c = false := by
  rw [Bool.eq_false_iff]
  intro hcontrol
  simp only [isControl, Bool.or_eq_true, Bool.and_eq_true] at hcontrol
  rcases hcontrol with ⟨⟨halpha, -⟩, -⟩ | hsymbol
  · have hbounds := isAlpha_bounds halpha
    simp only [isBlank, Bool.or_eq_true, Bool.and_eq_true, decide_eq_true_eq, beq_iff_eq] at hc
    omega
  · have hcases : c = '%' ∨ c = '&' ∨ c = '[' ∨ c = ']' := by simpa using hsymbol
    rcases hcases with rfl | rfl | rfl | rfl <;> cases hc

theorem isLoose_of_isBlank {c : Char} (hc : isBlank c = true) : IsLoose c := by
  refine ⟨isControl_of_isBlank hc, ?_, ?_⟩ <;> rintro rfl <;> cases hc

theorem isInert_of_isBlank {c : Char} (hc : isBlank c = true) : isInert c = true := by
  rw [isInert_iff]
  refine ⟨?_, ?_, ?_⟩ <;> rintro rfl <;> cases hc

/-- What is kept when a blank is dropped at either end is kept by trimming. -/
theorem trimChars_keeps {P : List Char → Prop}
    (hfront : ∀ c s, isBlank c = true → P (c :: s) → P s)
    (hback : ∀ s d, isBlank d = true → P (s ++ [d]) → P s) {s : List Char} (h : P s) :
    P (trimChars s) := by
  have hdropFront : ∀ {s}, P s → P (s.dropWhile isBlank) := by
    intro s h
    induction s with
    | nil => exact h
    | cons c s ih =>
        rw [List.dropWhile_cons]
        split
        next hblank => exact ih (hfront c s hblank h)
        · exact h
  have hdropBack : ∀ {s}, P s → P (s.reverse.dropWhile isBlank).reverse := by
    intro s h
    induction s using List.reverseRecOn with
    | nil => exact h
    | append_singleton s d ih =>
        rw [List.reverse_concat, List.dropWhile_cons]
        split
        next hblank => exact ih (hback s d hblank h)
        · rw [List.reverse_cons, List.reverse_reverse]
          exact h
  exact hdropBack (hdropFront h)

theorem Tidy.trimChars {s : List Char} (h : Tidy s) : Tidy (trimChars s) :=
  trimChars_keeps (fun _ _ hblank h => h.of_cons (isInert_of_isBlank hblank))
    (fun _ _ hblank h => (h.of_concat (isLoose_of_isBlank hblank)).1) h

end HtmlToLatex
