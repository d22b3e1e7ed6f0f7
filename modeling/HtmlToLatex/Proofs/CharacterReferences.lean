import HtmlToLatex.Proofs.Guarded

set_option autoImplicit false

/-! # Character references

References are recognised only after their ampersand and hash were escaped, so it takes an argument
that decoding undoes just the references of the text itself. Escaping keeps every reference
recognisable and makes no new ones. An escaped text is therefore decoded to the escaping of what the
text stands for: `decodeEntityChars_protectChars`. -/

namespace HtmlToLatex

/-! ## Escaping without guards -/

/-- Escapes every reserved character of a text, whatever comes before it. -/
def protectChars (s : List Char) : List Char :=
  s.flatMap fun c => (reserved? c).getD [c]

@[simp]
theorem protectChars_nil : protectChars [] = [] := rfl

theorem protectChars_cons (c : Char) (s : List Char) :
    protectChars (c :: s) = (reserved? c).getD [c] ++ protectChars s := rfl

theorem protectChars_cons_of_plain {c : Char} (hc : reserved? c = none) (s : List Char) :
    protectChars (c :: s) = c :: protectChars s := by
  rw [protectChars_cons, hc]
  rfl

theorem protectChars_hash (s : List Char) :
    protectChars ('#' :: s) = '\\' :: '#' :: protectChars s := rfl

@[simp]
theorem protectChars_append (s t : List Char) :
    protectChars (s ++ t) = protectChars s ++ protectChars t := by
  simp [protectChars]

theorem protectChars_of_plain {s : List Char} (hs : ∀ c ∈ s, reserved? c = none) :
    protectChars s = s := by
  induction s with
  | nil => rfl
  | cons c s ih =>
      rw [List.forall_mem_cons] at hs
      rw [protectChars_cons, hs.1, ih hs.2]
      rfl

/-- In a text without backslashes no reserved character is left alone. -/
theorem escapeReservedAfter_eq_protectChars {before : Option Char} {s : List Char}
    (hbefore : before ≠ some '\\') (hs : '\\' ∉ s) :
    escapeReservedAfter before s = protectChars s := by
  induction s generalizing before with
  | nil => rfl
  | cons c s ih =>
      rw [List.mem_cons, not_or] at hs
      have hself : some c ≠ some '\\' := by
        intro heq
        exact hs.1 (Option.some.inj heq).symm
      rw [escapeReservedAfter, protectChars_cons, ih hself hs.2]
      cases hc : reserved? c with
      | none => rfl
      | some spelling =>
          dsimp only
          rw [if_neg (by simpa using hbefore), Option.getD_some]

/-! ## What an escaped text comes from -/

/-- The escaping of a character opens with a backslash, or it is the character itself. -/
theorem exists_protected (c : Char) :
    ∃ d tail, (reserved? c).getD [c] = d :: tail ∧ '\\' ∉ tail ∧
      (d ≠ '\\' → d = c ∧ tail = []) := by
  unfold reserved?
  split
  case h_6 => exact ⟨c, [], rfl, by simp, fun _ => ⟨rfl, rfl⟩⟩
  all_goals exact ⟨'\\', _, rfl, by decide, fun h => absurd rfl h⟩

/-- A character that is no backslash was there before escaping. -/
theorem exists_of_protectChars_eq_cons {s t : List Char} {c : Char} (hc : c ≠ '\\')
    (h : protectChars s = c :: t) : ∃ s', s = c :: s' ∧ t = protectChars s' := by
  cases s with
  | nil => cases h
  | cons d s =>
      obtain ⟨e, tail, hsplit, -, hself⟩ := exists_protected d
      rw [protectChars_cons, hsplit, List.cons_append, List.cons.injEq] at h
      obtain ⟨rfl, rfl⟩ := h
      obtain ⟨rfl, rfl⟩ := hself hc
      exact ⟨s, rfl, rfl⟩

theorem exists_of_protectChars_eq_append {s u t : List Char} (hu : '\\' ∉ u)
    (h : protectChars s = u ++ t) : ∃ s', s = u ++ s' ∧ t = protectChars s' := by
  induction u generalizing s with
  | nil => exact ⟨s, rfl, h.symm⟩
  | cons c u ih =>
      rw [List.mem_cons, not_or] at hu
      obtain ⟨s₁, rfl, hrest⟩ := exists_of_protectChars_eq_cons (Ne.symm hu.1) h
      obtain ⟨s₂, rfl, ht⟩ := ih hu.2 hrest.symm
      exact ⟨s₂, rfl, ht⟩

/-- An escaped ampersand or hash was an ampersand or hash. -/
theorem exists_of_protectChars_eq_spelling {s t : List Char} {c : Char}
    (hc : reserved? c = some ['\\', c]) (h : protectChars s = '\\' :: c :: t) :
    ∃ s', s = c :: s' ∧ t = protectChars s' := by
  cases s with
  | nil => cases h
  | cons d s =>
      rw [protectChars_cons] at h
      cases hd : reserved? d with
      | none =>
          rw [hd, Option.getD_none, List.singleton_append, List.cons.injEq] at h
          -- Nothing that is escaped opens with a reserved character.
          have hne : c ≠ '\\' := by
            rintro rfl
            cases hc
          obtain ⟨s', rfl, -⟩ := exists_of_protectChars_eq_cons hne h.2
          rw [protectChars_cons, hc] at h
          exact absurd (List.cons.inj h.2).1.symm hne
      | some spelling =>
          rw [hd, Option.getD_some] at h
          unfold reserved? at hd
          split at hd <;> cases hd
          all_goals
            simp only [List.cons_append, List.cons.injEq, true_and, List.nil_append,
              String.reduceToList] at h
            obtain ⟨rfl, rfl⟩ := h
          · exact ⟨s, rfl, rfl⟩
          · exact ⟨s, rfl, rfl⟩
          · exact ⟨s, rfl, rfl⟩
          · cases hc
          · cases hc

/-! ## Reading references -/

theorem upToSemicolon?_eq_some_iff {p : Char → Bool} (hp : p ';' = false)
    {rightLength : Nat → Bool} {s body rest : List Char} :
    upToSemicolon? p rightLength s = some (body, rest) ↔
      s = body ++ ';' :: rest ∧ (∀ c ∈ body, p c = true) ∧ rightLength body.length = true := by
  constructor
  · intro h
    obtain ⟨hsplit, hbody⟩ := upToSemicolon?_spec h
    refine ⟨hsplit, hbody, ?_⟩
    unfold upToSemicolon? at h
    dsimp only at h
    split at h
    next hlength =>
      split at h
      · cases h
        exact hlength
      · cases h
    · cases h
  · rintro ⟨rfl, hbody, hlength⟩
    have htake : (body ++ ';' :: rest).takeWhile p = body := by
      rw [List.takeWhile_append_of_pos hbody, List.takeWhile_cons_of_neg (by simp [hp]),
        List.append_nil]
    have hdrop : (body ++ ';' :: rest).dropWhile p = ';' :: rest := by
      rw [List.dropWhile_append_of_pos hbody, List.dropWhile_cons_of_neg (by simp [hp])]
    simp [upToSemicolon?, htake, hdrop, hlength]

theorem charOfCode?_eq_some_iff {n : Nat} {d : Char} : charOfCode? n = some d ↔ n = d.toNat := by
  by_cases hvalid : n.isValidChar
  · have hcode : charOfCode? n = some (Char.ofNatAux n hvalid) := dif_pos hvalid
    rw [hcode]
    constructor
    · intro h
      cases h
      rfl
    · rintro rfl
      rfl
  · have hcode : charOfCode? n = none := dif_neg hvalid
    rw [hcode]
    constructor
    · intro h
      cases h
    · rintro rfl
      exact absurd d.valid hvalid

/-- What a character reference of a plain text stands for, and how it is written. -/
inductive IsReference : Char → List Char → Prop where
  | named {d name} (hname : basicEntity? name = some d) (halpha : ∀ c ∈ name, c.isAlpha = true) :
      IsReference d ('&' :: (name ++ [';']))
  | decimal {d digits} (hdigits : ∀ c ∈ digits, isDecimal c = true)
      (hlength : 1 ≤ digits.length ∧ digits.length ≤ 7) (hcode : numeral 10 digits = d.toNat) :
      IsReference d ('&' :: '#' :: (digits ++ [';']))
  | hexadecimal {d x digits} (hx : x = 'x' ∨ x = 'X')
      (hdigits : ∀ c ∈ digits, isHexadecimal c = true)
      (hlength : 1 ≤ digits.length ∧ digits.length ≤ 6) (hcode : numeral 16 digits = d.toNat) :
      IsReference d ('&' :: '#' :: x :: (digits ++ [';']))

section Bodies

variable {p : Char → Bool} (hp : (';' :: '\\' :: reservedCharacters).any p = false)
include hp

/-- Escaping leaves the characters in the body of a reference alone. -/
theorem plain_of_body {c : Char} (hc : p c = true) : c ≠ '\\' ∧ reserved? c = none := by
  have hnot : c ∉ ';' :: '\\' :: reservedCharacters := by
    intro hmem
    exact List.any_eq_false.1 hp c hmem hc
  simp only [List.mem_cons, not_or] at hnot
  refine ⟨hnot.2.1, Option.not_isSome_iff_eq_none.1 fun hsome => ?_⟩
  exact hnot.2.2 (by simpa using isSome_reserved?_iff.1 hsome)

/-- The body of a reference reads the same before and after escaping. -/
theorem upToSemicolon?_protectChars {rightLength : Nat → Bool} {s body rest : List Char} :
    upToSemicolon? p rightLength (protectChars s) = some (body, rest) ↔
      ∃ s', s = body ++ ';' :: s' ∧ rest = protectChars s' ∧ (∀ c ∈ body, p c = true) ∧
        rightLength body.length = true := by
  have hsemicolon : p ';' = false := by
    simpa using List.any_eq_false.1 hp ';' (by simp)
  rw [upToSemicolon?_eq_some_iff hsemicolon]
  constructor
  · rintro ⟨hsplit, hbody, hlength⟩
    have hbackslash : '\\' ∉ body ++ [';'] := by
      simp only [List.mem_append, List.mem_singleton, not_or]
      exact ⟨fun hmem => (plain_of_body hp (hbody _ hmem)).1 rfl, by decide⟩
    obtain ⟨s', rfl, hrest⟩ :=
      exists_of_protectChars_eq_append (t := rest) hbackslash (by simpa using hsplit)
    exact ⟨s', by simp, hrest, hbody, hlength⟩
  · rintro ⟨s', rfl, rfl, hbody, hlength⟩
    have hplain : protectChars body = body :=
      protectChars_of_plain fun c hc => (plain_of_body hp (hbody c hc)).2
    refine ⟨?_, hbody, hlength⟩
    rw [protectChars_append, hplain]
    rfl

end Bodies

theorem readReferenceBody?_hexadecimal {x : Char} (hx : x = 'x' ∨ x = 'X') (s : List Char) :
    readReferenceBody? ('\\' :: '#' :: x :: s) =
      (upToSemicolon? isHexadecimal (fun n => 1 ≤ n && n ≤ 6) s).bind fun read =>
        (charOfCode? (numeral 16 read.1)).bind fun c => some (c, read.2) := by
  rcases hx with rfl | rfl <;> rfl

theorem readReferenceBody?_decimal {c : Char} (hc : c ≠ 'x' ∧ c ≠ 'X') (s : List Char) :
    readReferenceBody? ('\\' :: '#' :: c :: s) =
      (upToSemicolon? isDecimal (fun n => 1 ≤ n && n ≤ 7) (c :: s)).bind fun read =>
        (charOfCode? (numeral 10 read.1)).bind fun c => some (c, read.2) := by
  unfold readReferenceBody?
  split
  next heq => exact absurd (List.cons.inj (List.cons.inj (List.cons.inj heq).2).2).1 hc.1
  next heq => exact absurd (List.cons.inj (List.cons.inj (List.cons.inj heq).2).2).1 hc.2
  next heq =>
    cases heq
    rfl
  next hne => exact absurd rfl (hne _)

theorem readReferenceBody?_named {c : Char} (hc : c ≠ '\\') (s : List Char) :
    readReferenceBody? (c :: s) =
      (upToSemicolon? Char.isAlpha (fun n => 1 ≤ n) (c :: s)).bind fun read =>
        (basicEntity? read.1).bind fun c => some (c, read.2) := by
  unfold readReferenceBody?
  split
  next heq => exact absurd (List.cons.inj heq).1 hc
  next heq => exact absurd (List.cons.inj heq).1 hc
  next heq => exact absurd (List.cons.inj heq).1 hc
  next => rfl

theorem readReference?_ampersand (s : List Char) :
    readReference? (protectChars ('&' :: s)) = readReferenceBody? (protectChars s) := rfl

/-- Escaping leaves references recognisable. -/
theorem IsReference.readReference? {d : Char} {w : List Char} (h : IsReference d w)
    (s : List Char) :
    readReference? (protectChars (w ++ s)) = some (d, protectChars s) := by
  cases h with
  | @named name hname halpha =>
      cases name with
      | nil => cases hname
      | cons c name =>
          have hread : upToSemicolon? Char.isAlpha (fun n => 1 ≤ n)
              (protectChars (c :: (name ++ ';' :: s))) = some (c :: name, protectChars s) :=
            (upToSemicolon?_protectChars rfl).2
              ⟨s, rfl, rfl, halpha, by simp⟩
          obtain ⟨hbackslash, hplain⟩ := plain_of_body rfl (halpha c (by simp))
          have hbody : readReferenceBody? (protectChars (c :: (name ++ ';' :: s))) =
              some (d, protectChars s) := by
            rw [protectChars_cons_of_plain hplain] at hread ⊢
            rw [readReferenceBody?_named hbackslash, hread, Option.bind_some, hname,
              Option.bind_some]
          simpa [readReference?_ampersand] using hbody
  | @decimal digits hdigits hlength hcode =>
      cases digits with
      | nil => simp at hlength
      | cons c digits =>
          have hread : upToSemicolon? isDecimal (fun n => 1 ≤ n && n ≤ 7)
              (protectChars (c :: (digits ++ ';' :: s))) = some (c :: digits, protectChars s) :=
            (upToSemicolon?_protectChars rfl).2
              ⟨s, rfl, rfl, hdigits, by simpa using hlength⟩
          have hc : isDecimal c = true := hdigits c (by simp)
          have hx : c ≠ 'x' ∧ c ≠ 'X' := by
            constructor <;> rintro rfl <;> cases hc
          have hbody :
              readReferenceBody? ('\\' :: '#' :: protectChars (c :: (digits ++ ';' :: s))) =
                some (d, protectChars s) := by
            rw [protectChars_cons_of_plain (plain_of_body rfl hc).2] at hread ⊢
            rw [readReferenceBody?_decimal hx, hread, Option.bind_some,
              charOfCode?_eq_some_iff.2 hcode, Option.bind_some]
          simpa [readReference?_ampersand, protectChars_hash] using hbody
  | @hexadecimal x digits hx hdigits hlength hcode =>
      have hread : upToSemicolon? isHexadecimal (fun n => 1 ≤ n && n ≤ 6)
          (protectChars (digits ++ ';' :: s)) = some (digits, protectChars s) :=
        (upToSemicolon?_protectChars rfl).2
          ⟨s, rfl, rfl, hdigits, by simpa using hlength⟩
      have hbody : readReferenceBody? ('\\' :: '#' :: x :: protectChars (digits ++ ';' :: s)) =
          some (d, protectChars s) := by
        rw [readReferenceBody?_hexadecimal hx, hread, Option.bind_some,
          charOfCode?_eq_some_iff.2 hcode, Option.bind_some]
      have hplain : reserved? x = none := by
        rcases hx with rfl | rfl <;> rfl
      simpa [readReference?_ampersand, protectChars_hash, protectChars_cons_of_plain hplain]
        using hbody

/-- What is recognised in an escaped text was a reference before. -/
theorem exists_reference_of_readReference? {s r : List Char} {d : Char}
    (h : readReference? (protectChars s) = some (d, r)) :
    ∃ w s', IsReference d w ∧ s = w ++ s' ∧ r = protectChars s' := by
  unfold HtmlToLatex.readReference? at h
  split at h
  case h_2 => cases h
  next tail heq =>
    obtain ⟨s₁, rfl, rfl⟩ := exists_of_protectChars_eq_spelling rfl heq
    unfold readReferenceBody? at h
    split at h
    all_goals
      simp only [Option.bind_eq_bind, Option.bind_eq_some_iff, Option.pure_def] at h
      obtain ⟨⟨body, rest⟩, hread, c, hc, hresult⟩ := h
      cases hresult
    next digits heq =>
      obtain ⟨s₂, rfl, hx⟩ := exists_of_protectChars_eq_spelling rfl heq
      obtain ⟨s₃, rfl, rfl⟩ := exists_of_protectChars_eq_cons (by decide) hx.symm
      obtain ⟨s₄, rfl, rfl, hbody, hlength⟩ :=
        (upToSemicolon?_protectChars rfl).1 hread
      exact ⟨_, s₄, .hexadecimal (.inl rfl) hbody (by simpa using hlength)
        (charOfCode?_eq_some_iff.1 hc), by simp, rfl⟩
    next digits heq =>
      obtain ⟨s₂, rfl, hx⟩ := exists_of_protectChars_eq_spelling rfl heq
      obtain ⟨s₃, rfl, rfl⟩ := exists_of_protectChars_eq_cons (by decide) hx.symm
      obtain ⟨s₄, rfl, rfl, hbody, hlength⟩ :=
        (upToSemicolon?_protectChars rfl).1 hread
      exact ⟨_, s₄, .hexadecimal (.inr rfl) hbody (by simpa using hlength)
        (charOfCode?_eq_some_iff.1 hc), by simp, rfl⟩
    next digits _ _ heq =>
      obtain ⟨s₂, rfl, rfl⟩ := exists_of_protectChars_eq_spelling rfl heq
      obtain ⟨s₃, rfl, rfl, hbody, hlength⟩ :=
        (upToSemicolon?_protectChars rfl).1 hread
      exact ⟨_, s₃, .decimal hbody (by simpa using hlength) (charOfCode?_eq_some_iff.1 hc),
        by simp, rfl⟩
    next =>
      obtain ⟨s₂, rfl, rfl, hbody, hlength⟩ :=
        (upToSemicolon?_protectChars rfl).1 hread
      exact ⟨_, s₂, .named hc hbody, by simp, rfl⟩

/-! ## What a text stands for -/

/-- The second text is the first one with every reference, taken from the left, replaced by what it
stands for. -/
inductive Resolves : List Char → List Char → Prop where
  | nil : Resolves [] []
  | reference {d w s t} (hw : IsReference d w) (hrest : Resolves s t) : Resolves (w ++ s) (d :: t)
  | keep {c s t} (hc : ∀ d w s', IsReference d w → c :: s ≠ w ++ s') (hrest : Resolves s t) :
      Resolves (c :: s) (c :: t)

theorem IsReference.exists_cons {d : Char} {w : List Char} (h : IsReference d w) :
    ∃ r, w = '&' :: r := by
  cases h <;> exact ⟨_, rfl⟩

/-- Every text stands for something. -/
theorem exists_resolves (s : List Char) : ∃ t, Resolves s t := by
  induction hlength : s.length using Nat.strong_induction_on generalizing s with
  | _ n ih =>
      subst hlength
      by_cases href : ∃ d w s', IsReference d w ∧ s = w ++ s'
      · obtain ⟨d, w, s', hw, rfl⟩ := href
        obtain ⟨r, rfl⟩ := hw.exists_cons
        have hshorter : s'.length < (('&' :: r) ++ s').length := by
          rw [List.length_append, List.length_cons]
          omega
        obtain ⟨t, ht⟩ := ih s'.length hshorter s' rfl
        exact ⟨d :: t, .reference hw ht⟩
      · cases s with
        | nil => exact ⟨[], .nil⟩
        | cons c s =>
            obtain ⟨t, ht⟩ := ih s.length (by simp) s rfl
            refine ⟨c :: t, .keep ?_ ht⟩
            intro d w s' hw hsplit
            exact href ⟨d, w, s', hw, hsplit⟩

theorem decodeEntityChars_of_readReference? {s rest : List Char} {d : Char}
    (h : readReference? s = some (d, rest)) :
    decodeEntityChars s = (reserved? d).getD [d] ++ decodeEntityChars rest := by
  cases s with
  | nil => cases h
  | cons c r => exact decodeEntityChars_of_some h

/-- Decoding an escaped text resolves its references and escapes what they stand for. -/
theorem decodeEntityChars_protectChars {s t : List Char} (h : Resolves s t) :
    decodeEntityChars (protectChars s) = protectChars t := by
  induction h with
  | nil => exact decodeEntityChars_nil
  | reference hw _ ih =>
      rw [decodeEntityChars_of_readReference? (hw.readReference? _), ih, protectChars_cons]
  | @keep c s t hc _ ih =>
      have hnone : readReference? (protectChars (c :: s)) = none := by
        by_contra hsome
        obtain ⟨⟨d, r⟩, hread⟩ := Option.ne_none_iff_exists'.1 hsome
        obtain ⟨w, s', hw, hsplit, -⟩ := exists_reference_of_readReference? hread
        exact hc d w s' hw hsplit
      -- The rest of the spelling holds no backslash, so no reference starts there either.
      obtain ⟨e, tail, hspelling, htail, -⟩ := exists_protected c
      rw [protectChars_cons, hspelling, List.cons_append] at hnone ⊢
      rw [decodeEntityChars_of_none hnone, decodeEntityChars_append_of_not_mem htail, ih,
        protectChars_cons, hspelling, List.cons_append]

/-- The first passes bring in no backslash that would guard a character. -/
theorem escapeReservedChars_passes {options : Options} {s : List Char} (hs : '\\' ∉ s) :
    escapeReservedChars (dropTabs (replaceBreaks (breakReplacement options) s)) =
      protectChars (dropTabs (replaceBreaks (breakReplacement options) s)) := by
  refine escapeReservedAfter_eq_protectChars (by simp) fun hmem => ?_
  rcases mem_dropTabs_replaceBreaks hmem with hmem | hfeed
  · exact hs hmem
  · cases hfeed

/-- Running text without backslashes is what the text stands for, escaped. -/
theorem normalizeChars_eq_protectChars {options : Options} {s t : List Char} (hs : '\\' ∉ s)
    (h : Resolves (dropTabs (replaceBreaks (breakReplacement options) s)) t) :
    normalizeChars options s = chooseDelimiters options (protectChars t) := by
  rw [normalizeChars, escapeReservedChars_passes hs, decodeEntityChars_protectChars h]

end HtmlToLatex
