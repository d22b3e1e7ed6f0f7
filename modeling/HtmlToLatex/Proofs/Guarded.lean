import HtmlToLatex.Proofs.RunningText

set_option autoImplicit false

/-! # Guarded text

A reserved character right after a backslash is no danger. Escaping leaves no other, and the passes
after it keep to that: decoding escapes what it brings in, and neither decoding nor the choice of
delimiters takes the backslash away from a character that stays. So running text is guarded,
whatever the source is: `normalizeText_guards`. The guarded texts are also just those that escaping
leaves as they are, and escaping can be done piece by piece wherever no backslash is parted from
what it guards: `escapeReserved_projects`. -/

namespace HtmlToLatex

/-- Every reserved character of a text follows a backslash. The character before the text is
    given. -/
def IsGuarded (before : Option Char) : List Char → Prop
  | [] => True
  | c :: r => ((reserved? c).isSome = true → before = some '\\') ∧ IsGuarded (some c) r

/-- Only a backslash before a text can guard its first character. -/
theorem IsGuarded.mono {before before' : Option Char} {s : List Char} (h : IsGuarded before s)
    (hbefore : before = some '\\' → before' = some '\\') : IsGuarded before' s := by
  cases s with
  | nil => trivial
  | cons c r => exact ⟨fun hc => hbefore (h.1 hc), h.2⟩

theorem getLast?_cons_or (c : Char) (r : List Char) (before : Option Char) :
    (c :: r).getLast?.or before = r.getLast?.or (some c) := by
  cases hr : r.getLast? <;> simp [List.getLast?_cons, hr]

theorem isGuarded_append {before : Option Char} {s t : List Char} :
    IsGuarded before (s ++ t) ↔ IsGuarded before s ∧ IsGuarded (s.getLast?.or before) t := by
  induction s generalizing before with
  | nil => simp [IsGuarded]
  | cons c r ih =>
      rw [List.cons_append, IsGuarded, IsGuarded, ih, getLast?_cons_or, and_assoc]

/-- In the spelling of a reserved character, no reserved character is left unguarded. -/
theorem isGuarded_of_reserved? {c : Char} {spelling : List Char}
    (h : reserved? c = some spelling) (before : Option Char) : IsGuarded before spelling := by
  unfold reserved? at h
  split at h <;> cases h <;> simp [IsGuarded, reserved?]

/-! ## Escaping -/

/-- Escaping guards a text. A backslash before the text is still there afterwards. -/
theorem isGuarded_escapeReservedAfter {before before' : Option Char}
    (hbefore : before = some '\\' → before' = some '\\') (s : List Char) :
    IsGuarded before' (escapeReservedAfter before s) := by
  induction s generalizing before before' with
  | nil => trivial
  | cons c r ih =>
      unfold escapeReservedAfter
      cases hc : reserved? c with
      | none => exact ⟨fun h => by simp [hc] at h, ih id⟩
      | some spelling =>
          dsimp only
          split
          next hguard => exact ⟨fun _ => hbefore (by simpa using hguard), ih id⟩
          · -- A reserved character is no backslash itself, so what comes next is not guarded by it.
            have hself : some c ≠ some '\\' := by
              rintro heq
              cases heq
              cases hc
            exact isGuarded_append.2 ⟨isGuarded_of_reserved? hc _, ih fun heq => absurd heq hself⟩

/-- A guarded text is escaped already. -/
theorem IsGuarded.escapeReservedAfter_eq {before : Option Char} {s : List Char}
    (h : IsGuarded before s) : escapeReservedAfter before s = s := by
  induction s generalizing before with
  | nil => rfl
  | cons c r ih =>
      rw [escapeReservedAfter, ih h.2]
      cases hc : reserved? c with
      | none => rfl
      | some spelling =>
          have hbefore := h.1 (by simp [hc])
          dsimp only
          rw [if_pos (by simpa using hbefore), List.singleton_append]

/-! ## Escaping piece by piece -/

/-- A text is escaped from left to right; what stands last in the first piece comes before the
    second one. -/
theorem escapeReservedAfter_append (before : Option Char) (s t : List Char) :
    escapeReservedAfter before (s ++ t) =
      escapeReservedAfter before s ++ escapeReservedAfter (s.getLast?.or before) t := by
  induction s generalizing before with
  | nil => simp [escapeReservedAfter]
  | cons c r ih =>
      rw [List.cons_append, escapeReservedAfter, escapeReservedAfter, ih, getLast?_cons_or,
        List.append_assoc]

/-- What comes before a text counts only if it is a backslash and the text opens with a reserved
    character. -/
theorem escapeReservedAfter_eq_iff {before : Option Char} {s : List Char} :
    escapeReservedAfter before s = escapeReservedAfter none s ↔
      ¬(before = some '\\' ∧ ∃ c, s.head? = some c ∧ (reserved? c).isSome = true) := by
  cases s with
  | nil => simp [escapeReservedAfter]
  | cons c r =>
      rw [escapeReservedAfter, escapeReservedAfter, List.append_left_inj]
      cases hc : reserved? c with
      | none => simp [hc]
      | some spelling =>
          -- The spelling opens with a backslash, and a backslash is not reserved.
          have hself : [c] ≠ spelling := by
            rintro rfl
            cases head?_of_reserved? hc
            cases hc
          by_cases hbefore : before = some '\\' <;> simp [hbefore, hc, hself]

/-! ## The passes after it -/

theorem IsGuarded.decode {before before' : Option Char} {s : List Char} (h : IsGuarded before s)
    (hbefore : before = some '\\' → before' = some '\\') :
    IsGuarded before' (decodeEntityChars s) := by
  induction s using decodeEntityChars.induct generalizing before before' with
  | case1 =>
      rw [decodeEntityChars_nil]
      trivial
  | case2 c r d rest hread ih =>
      -- What follows a reference follows its semicolon, so it did without a backslash before.
      obtain ⟨front, hsplit, -⟩ := exists_semicolon_of_readReference? hread
      rw [hsplit, isGuarded_append] at h
      have hrest : IsGuarded (some ';') rest := h.2.2
      have hsemicolon : some ';' ≠ some '\\' := by decide
      rw [decodeEntityChars_of_some hread, isGuarded_append]
      refine ⟨?_, ih hrest fun heq => absurd heq hsemicolon⟩
      cases hd : reserved? d with
      | none => exact ⟨fun hsome => by simp [hd] at hsome, trivial⟩
      | some spelling => exact isGuarded_of_reserved? hd _
  | case3 c r hread ih =>
      rw [decodeEntityChars_of_none hread]
      exact ⟨fun hc => hbefore (h.1 hc), ih h.2 id⟩

/-- A pair that is replaced takes its backslash from its own second character only. -/
theorem IsGuarded.replacePair {a b c : Char} (hb : b ≠ '\\') (hc : reserved? c = none)
    {before before' : Option Char} {s : List Char} (h : IsGuarded before s)
    (hbefore : before = some '\\' → before' = some '\\') :
    IsGuarded before' (replacePair a b c s) := by
  induction s using replacePair.induct a b generalizing before before' with
  | case1 x y r hpair ih =>
      obtain ⟨rfl, rfl⟩ := hpair
      rw [HtmlToLatex.replacePair, if_pos ⟨rfl, rfl⟩]
      exact ⟨fun hsome => by simp [hc] at hsome,
        ih h.2.2 fun heq => absurd (Option.some.inj heq) hb⟩
  | case2 x y r hpair ih =>
      rw [HtmlToLatex.replacePair, if_neg hpair]
      exact ⟨fun hx => hbefore (h.1 hx), ih h.2 id⟩
  | case3 s hs =>
      rw [HtmlToLatex.replacePair]
      · exact h.mono hbefore
      · exact hs

theorem IsGuarded.preferDollarChars {s : List Char} (h : IsGuarded none s) :
    IsGuarded none (preferDollarChars s) :=
  (h.replacePair (by decide) rfl id).replacePair (by decide) rfl id

/-- The characters of running text are guarded. -/
theorem isGuarded_normalizeChars (options : Options) (s : List Char) :
    IsGuarded none (normalizeChars options s) := by
  have hescaped : IsGuarded none
      (escapeReservedChars (dropTabs (replaceBreaks (breakReplacement options) s))) :=
    isGuarded_escapeReservedAfter id _
  have hdecoded : IsGuarded none (decodeEntityChars _) := hescaped.decode id
  unfold normalizeChars chooseDelimiters
  split
  · exact hdecoded.preferDollarChars
  · exact hdecoded

/-! ## Occurrences -/

/-- The characters that escaping protects. -/
def reservedCharacters : List Char := ['%', '&', '#', '~', '|']

theorem isSome_reserved?_iff {c : Char} :
    (reserved? c).isSome = true ↔ c ∈ reservedCharacters := by
  unfold reserved?
  split <;> simp_all [reservedCharacters]

/-- Wherever a reserved character stands in a text, a backslash stands directly before it. -/
def HasGuards (t : String) : Prop :=
  ∀ front c back, t.toList = front ++ c :: back → c ∈ reservedCharacters →
    front.getLast? = some '\\'

theorem isGuarded_iff {before : Option Char} {s : List Char} :
    IsGuarded before s ↔ ∀ front c back, s = front ++ c :: back → c ∈ reservedCharacters →
      front.getLast?.or before = some '\\' := by
  constructor
  · rintro h front c back rfl hc
    exact (isGuarded_append.1 h).2.1 (isSome_reserved?_iff.2 hc)
  · intro h
    induction s generalizing before with
    | nil => trivial
    | cons c r ih =>
        refine ⟨fun hc => h [] c r rfl (isSome_reserved?_iff.1 hc), ih ?_⟩
        intro front d back hsplit hd
        have hguard := h (c :: front) d back (by rw [hsplit, List.cons_append]) hd
        rwa [getLast?_cons_or] at hguard

theorem hasGuards_iff {t : String} : HasGuards t ↔ IsGuarded none t.toList := by
  simp [HasGuards, isGuarded_iff]

theorem hasGuards_escapeReserved (s : String) : HasGuards (escapeReserved s) := by
  rw [hasGuards_iff, escapeReserved, String.toList_ofList]
  exact isGuarded_escapeReservedAfter id s.toList

theorem escapeReserved_eq_self_iff {s : String} : escapeReserved s = s ↔ HasGuards s := by
  refine ⟨fun h => h ▸ hasGuards_escapeReserved s, fun h => ?_⟩
  rw [escapeReserved, escapeReservedChars, (hasGuards_iff.1 h).escapeReservedAfter_eq,
    String.ofList_toList]

theorem escapeReserved_append_eq_iff {s t : String} :
    escapeReserved (s ++ t) = escapeReserved s ++ escapeReserved t ↔
      ¬(s.toList.getLast? = some '\\' ∧
        ∃ c, t.toList.head? = some c ∧ c ∈ reservedCharacters) := by
  have hpieces : (escapeReserved (s ++ t)).toList =
      (escapeReserved s).toList ++ escapeReservedAfter s.toList.getLast? t.toList := by
    simp [escapeReserved, escapeReservedChars, escapeReservedAfter_append]
  have hsecond : (escapeReserved t).toList = escapeReservedAfter none t.toList := by
    simp [escapeReserved, escapeReservedChars]
  rw [← String.toList_inj, String.toList_append, hpieces, hsecond, List.append_right_inj,
    escapeReservedAfter_eq_iff]
  simp only [isSome_reserved?_iff]

/-- **Escaping is a projection onto the guarded texts.** It leaves exactly these as they are and
ends in one of them, so that escaping twice is escaping once. Two pieces of a text can be escaped
apart unless the first one ends with a backslash and the second one opens with a reserved
character; then they cannot. -/
theorem escapeReserved_projects :
    (∀ s : String, (escapeReserved s = s ↔ HasGuards s) ∧ HasGuards (escapeReserved s) ∧
      escapeReserved (escapeReserved s) = escapeReserved s) ∧
      ∀ s t : String, escapeReserved (s ++ t) = escapeReserved s ++ escapeReserved t ↔
        ¬(s.toList.getLast? = some '\\' ∧
          ∃ c, t.toList.head? = some c ∧ c ∈ reservedCharacters) := by
  refine ⟨fun s => ?_, fun s t => escapeReserved_append_eq_iff⟩
  have hguards := hasGuards_escapeReserved s
  exact ⟨escapeReserved_eq_self_iff, hguards, escapeReserved_eq_self_iff.2 hguards⟩

/-- The exception: only together does the backslash guard the percent sign. -/
example : escapeReserved ("50\\" ++ "%") = "50\\%" ∧
    escapeReserved "50\\" ++ escapeReserved "%" = "50\\\\%" := by decide +kernel

/-- **Reserved characters stay guarded.** In running text a backslash stands directly before every
reserved character, whatever the source and the options are. Decoding references and choosing
delimiters keep any text that way. -/
theorem normalizeText_guards (options : Options) (s : String) :
    HasGuards (normalizeText options s) ∧
      ∀ t : String, HasGuards t →
        HasGuards (decodeEntities t) ∧ HasGuards (preferDollarMath t) := by
  refine ⟨?_, fun t ht => ?_⟩
  · rw [hasGuards_iff, normalizeText, String.toList_ofList]
    exact isGuarded_normalizeChars options s.toList
  · rw [hasGuards_iff] at ht
    simp only [hasGuards_iff, decodeEntities, preferDollarMath, String.toList_ofList]
    exact ⟨ht.decode id, ht.preferDollarChars⟩

/-- Backslashes that a delimiter and a reference give up, next to ones that stay. -/
theorem normalizeText_guards_formula :
    let options : Options := { preferDollarMath := true }
    let escaped := "\\(a\\)\\%\\&\\#124;\\\\&b"
    normalizeText options "\\(a\\)%&#124;\\\\&b" = "$a$\\%\\textbar\x7b\x7d\\\\&b" ∧
      HasGuards (normalizeText options "\\(a\\)%&#124;\\\\&b") ∧
      HasGuards escaped ∧ HasGuards (decodeEntities escaped) ∧
      HasGuards (preferDollarMath escaped) := by
  intro options escaped
  have hescaped : HasGuards escaped := by
    rw [hasGuards_iff]
    simp [escaped, IsGuarded, reserved?]
  obtain ⟨hnormal, hpasses⟩ := normalizeText_guards options "\\(a\\)%&#124;\\\\&b"
  exact ⟨by decide +kernel, hnormal, hescaped, hpasses escaped hescaped⟩

end HtmlToLatex
