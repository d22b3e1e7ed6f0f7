import HtmlToLatex.Proofs.CharacterReferences

set_option autoImplicit false

/-! # Reading escaped text back

The spellings of special characters are of different lengths, hold braces and follow each other
without separators. They can still be told apart: each opens with a backslash, which stands nowhere
else in escaped text, and none of them is a beginning of another. So one decoder undoes both
escapers, `unescapeLatex_reads`: the full one on every text, and the one of reserved characters on
texts without backslashes. -/

namespace HtmlToLatex

/-! ## Spellings -/

/-- The characters that the full escaper protects and the one of reserved characters does not. -/
def texCharacters : List Char := ['\\', '{', '}', '$', '^', '_']

/-- The characters that the full escaper protects. -/
def specialCharacters : List Char := texCharacters ++ reservedCharacters

theorem reserved?_of_mem_texCharacters {c : Char} (hc : c ∈ texCharacters) :
    reserved? c = none := by
  simp only [texCharacters, List.mem_cons, List.not_mem_nil, or_false] at hc
  rcases hc with rfl | rfl | rfl | rfl | rfl | rfl <;> rfl

/-- On all other characters, the full escaper does what the other one does. -/
theorem escapeSpecial_of_not_mem {c : Char} (hc : c ∉ texCharacters) :
    escapeSpecial c = (reserved? c).getD [c] := by
  simp only [texCharacters, List.mem_cons, List.not_mem_nil, or_false, not_or] at hc
  unfold escapeSpecial
  split <;> simp_all

theorem escapeSpecial_of_plain {c : Char} (hc : c ∉ specialCharacters) : escapeSpecial c = [c] := by
  rw [specialCharacters, List.mem_append, not_or] at hc
  have hplain : reserved? c = none :=
    Option.not_isSome_iff_eq_none.1 fun hsome => hc.2 (isSome_reserved?_iff.1 hsome)
  rw [escapeSpecial_of_not_mem hc.1, hplain, Option.getD_none]

theorem head?_escapeSpecial :
    ∀ c ∈ specialCharacters, (escapeSpecial c).head? = some '\\' := by
  have hall : specialCharacters.all (fun c => (escapeSpecial c).head? == some '\\') = true := by
    decide
  simpa only [List.all_eq_true, beq_iff_eq] using hall

/-- No spelling is a beginning of another. -/
theorem escapeSpecial_prefixFree :
    ∀ c ∈ specialCharacters, ∀ d ∈ specialCharacters,
      escapeSpecial c <+: escapeSpecial d → c = d := by
  have hall : specialCharacters.all (fun c => specialCharacters.all fun d =>
      !(escapeSpecial c).isPrefixOf (escapeSpecial d) || c == d) = true := by
    decide
  simp only [List.all_eq_true, Bool.or_eq_true, beq_iff_eq] at hall
  intro c hc d hd hpre
  exact (hall c hc d hd).resolve_left (by simp [List.isPrefixOf_iff_prefix.2 hpre])

/-- A text opens with one spelling at most. -/
theorem eq_of_escapeSpecial_append {c d : Char} (hc : c ∈ specialCharacters)
    (hd : d ∈ specialCharacters) {s t : List Char}
    (h : escapeSpecial c ++ s = escapeSpecial d ++ t) : c = d := by
  have hcs : escapeSpecial c <+: escapeSpecial d ++ t := ⟨s, h⟩
  rcases List.prefix_or_prefix_of_prefix hcs (List.prefix_append _ _) with hpre | hpre
  · exact escapeSpecial_prefixFree c hc d hd hpre
  · exact (escapeSpecial_prefixFree d hd c hc hpre).symm

/-! ## Reading -/

/-- Reads the spelling of a special character at the start of an escaped text. -/
def readSpelling? (s : List Char) : Option (Char × List Char) :=
  specialCharacters.findSome? fun c => ((escapeSpecial c).isPrefixOf? s).map (c, ·)

theorem readSpelling?_eq_some_iff {s rest : List Char} {c : Char} :
    readSpelling? s = some (c, rest) ↔ c ∈ specialCharacters ∧ s = escapeSpecial c ++ rest := by
  have hread : ∀ {d t}, readSpelling? s = some (d, t) →
      d ∈ specialCharacters ∧ s = escapeSpecial d ++ t := by
    intro d t h
    obtain ⟨e, he, hsome⟩ := List.exists_of_findSome?_eq_some h
    obtain ⟨u, hprefix, heq⟩ := Option.map_eq_some_iff.1 hsome
    cases heq
    exact ⟨he, (List.isPrefixOf?_eq_some_iff_append_eq.1 hprefix).symm⟩
  refine ⟨hread, fun ⟨hc, hs⟩ => ?_⟩
  have hsome : (readSpelling? s).isSome = true := by
    refine List.findSome?_isSome_iff.2 ⟨c, hc, ?_⟩
    rw [List.isPrefixOf?_eq_some_iff_append_eq.2 hs.symm]
    rfl
  obtain ⟨⟨d, t⟩, hdt⟩ := Option.isSome_iff_exists.1 hsome
  obtain ⟨hd, hsplit⟩ := hread hdt
  obtain rfl := eq_of_escapeSpecial_append hc hd (hs.symm.trans hsplit)
  rw [hdt, List.append_cancel_left (hs.symm.trans hsplit)]

theorem readSpelling?_length {s rest : List Char} {c : Char}
    (h : readSpelling? s = some (c, rest)) : rest.length < s.length := by
  obtain ⟨hc, rfl⟩ := readSpelling?_eq_some_iff.1 h
  obtain ⟨tail, htail⟩ := List.head?_eq_some_iff.1 (head?_escapeSpecial c hc)
  rw [htail, List.length_append, List.length_cons]
  omega

/-- Only a backslash opens a spelling. -/
theorem readSpelling?_of_ne {c : Char} (hc : c ≠ '\\') (s : List Char) :
    readSpelling? (c :: s) = none := by
  by_contra hsome
  obtain ⟨⟨d, rest⟩, hread⟩ := Option.ne_none_iff_exists'.1 hsome
  obtain ⟨hd, hsplit⟩ := readSpelling?_eq_some_iff.1 hread
  obtain ⟨tail, htail⟩ := List.head?_eq_some_iff.1 (head?_escapeSpecial d hd)
  rw [htail] at hsplit
  exact hc (List.cons.inj hsplit).1

/-- Replaces every spelling of an escaped text, taken from the left, by the character that it
stands for. -/
def unescapeChars : List Char → List Char
  | [] => []
  | c :: r =>
    match _h : readSpelling? (c :: r) with
    | some (d, rest) => d :: unescapeChars rest
    | none => c :: unescapeChars r
termination_by s => s.length
decreasing_by
  · exact readSpelling?_length _h
  · simp

/-- Replaces every spelling of an escaped text by the character that it stands for. -/
def unescapeLatex (s : String) : String :=
  String.ofList (unescapeChars s.toList)

theorem unescapeChars_nil : unescapeChars [] = [] := by
  rw [unescapeChars]

theorem unescapeChars_spelling {c : Char} (hc : c ∈ specialCharacters) (s : List Char) :
    unescapeChars (escapeSpecial c ++ s) = c :: unescapeChars s := by
  have hread : readSpelling? (escapeSpecial c ++ s) = some (c, s) :=
    readSpelling?_eq_some_iff.2 ⟨hc, rfl⟩
  obtain ⟨tail, htail⟩ := List.head?_eq_some_iff.1 (head?_escapeSpecial c hc)
  rw [htail, List.cons_append] at hread ⊢
  rw [unescapeChars]
  split
  next heq =>
    cases hread.symm.trans heq
    rfl
  next heq => cases hread.symm.trans heq

theorem unescapeChars_cons {c : Char} (hc : c ≠ '\\') (s : List Char) :
    unescapeChars (c :: s) = c :: unescapeChars s := by
  have hread := readSpelling?_of_ne hc s
  rw [unescapeChars]
  split
  next heq => cases hread.symm.trans heq
  · rfl

/-- A text is read back if each of its characters is spelled, or kept and no backslash. -/
theorem unescapeChars_flatMap {f : Char → List Char} {s : List Char}
    (hf : ∀ c ∈ s, f c = escapeSpecial c ∧ c ∈ specialCharacters ∨ f c = [c] ∧ c ≠ '\\') :
    unescapeChars (s.flatMap f) = s := by
  induction s with
  | nil => exact unescapeChars_nil
  | cons c s ih =>
      rw [List.forall_mem_cons] at hf
      rw [List.flatMap_cons]
      rcases hf.1 with ⟨hspelled, hc⟩ | ⟨hkept, hc⟩
      · rw [hspelled, unescapeChars_spelling hc, ih hf.2]
      · rw [hkept, List.singleton_append, unescapeChars_cons hc, ih hf.2]

/-! ## The two escapers -/

theorem unescapeChars_escapeLatexChars (s : List Char) :
    unescapeChars (escapeLatexChars s) = s := by
  refine unescapeChars_flatMap fun c _ => ?_
  by_cases hc : c ∈ specialCharacters
  · exact .inl ⟨rfl, hc⟩
  · have hbackslash : c ≠ '\\' := by
      rintro rfl
      exact hc (by decide)
    exact .inr ⟨escapeSpecial_of_plain hc, hbackslash⟩

theorem unescapeChars_protectChars {s : List Char} (hs : '\\' ∉ s) :
    unescapeChars (protectChars s) = s := by
  refine unescapeChars_flatMap fun c hc => ?_
  have hbackslash : c ≠ '\\' := by
    rintro rfl
    exact hs hc
  cases hspelling : reserved? c with
  | none => exact .inr ⟨rfl, hbackslash⟩
  | some spelling =>
      have hreserved : c ∈ reservedCharacters := isSome_reserved?_iff.1 (by simp [hspelling])
      have hnot : c ∉ texCharacters := by
        intro htex
        simp [reserved?_of_mem_texCharacters htex] at hspelling
      refine .inl ⟨?_, List.mem_append_right _ hreserved⟩
      rw [escapeSpecial_of_not_mem hnot, hspelling]

/-- The full escaper writes more, at least one character for each that only it protects. -/
theorem length_escapeReservedAfter_le (before : Option Char) (s : List Char) :
    (escapeReservedAfter before s).length + s.countP texCharacters.contains ≤
      (escapeLatexChars s).length := by
  induction s generalizing before with
  | nil => exact le_rfl
  | cons c s ih =>
      have htail := ih (some c)
      rw [escapeLatexChars, List.flatMap_cons, ← escapeLatexChars, escapeReservedAfter,
        List.length_append, List.length_append, List.countP_cons]
      by_cases hc : c ∈ texCharacters
      · have htwo : texCharacters.all (fun d => 2 ≤ (escapeSpecial d).length) = true := by decide
        have hlong : 2 ≤ (escapeSpecial c).length := by
          simpa using List.all_eq_true.1 htwo c hc
        rw [reserved?_of_mem_texCharacters hc, if_pos (List.contains_iff_mem.2 hc),
          List.length_singleton]
        omega
      · rw [escapeSpecial_of_not_mem hc, if_neg (by simpa using hc)]
        cases hspelling : reserved? c with
        | none =>
            rw [Option.getD_none]
            dsimp only
            omega
        | some spelling =>
            obtain ⟨tail, rfl⟩ := List.head?_eq_some_iff.1 (head?_of_reserved? hspelling)
            rw [Option.getD_some]
            dsimp only
            split
            · rw [List.length_singleton, List.length_cons]
              omega
            · omega

theorem escapeReservedChars_eq_iff {s : List Char} :
    escapeReservedChars s = escapeLatexChars s ↔ ∀ c ∈ s, c ∉ texCharacters := by
  constructor
  · intro h c hc htex
    have hlength := length_escapeReservedAfter_le none s
    rw [← escapeReservedChars, h] at hlength
    have hpos : 0 < s.countP texCharacters.contains :=
      List.countP_pos_iff.2 ⟨c, hc, List.contains_iff_mem.2 htex⟩
    omega
  · intro h
    have hbackslash : '\\' ∉ s := fun hmem => h _ hmem (by decide)
    rw [escapeReservedChars, escapeReservedAfter_eq_protectChars (by simp) hbackslash]
    exact List.flatMap_congr fun c hc => (escapeSpecial_of_not_mem (h c hc)).symm

/-- **Escaping loses nothing.** What the full escaper writes is read back, whatever the text was, so
it never writes the same for two texts. The same decoder reads back what the escaper of reserved
characters writes for a text without backslashes. The two escapers write the same exactly for the
texts in which there is none of the characters that only the full one protects. -/
theorem unescapeLatex_reads :
    Function.LeftInverse unescapeLatex escapeLatex ∧ Function.Injective escapeLatex ∧
      (∀ s : String, '\\' ∉ s.toList → unescapeLatex (escapeReserved s) = s) ∧
      ∀ s : String, escapeReserved s = escapeLatex s ↔ ∀ c ∈ s.toList, c ∉ texCharacters := by
  have hinverse : Function.LeftInverse unescapeLatex escapeLatex := by
    intro s
    rw [unescapeLatex, escapeLatex, String.toList_ofList, unescapeChars_escapeLatexChars,
      String.ofList_toList]
  refine ⟨hinverse, hinverse.injective, fun s hs => ?_, fun s => ?_⟩
  · rw [unescapeLatex, escapeReserved, String.toList_ofList, escapeReservedChars,
      escapeReservedAfter_eq_protectChars (by simp) hs, unescapeChars_protectChars hs,
      String.ofList_toList]
  · rw [escapeReserved, escapeLatex, String.ofList_inj, escapeReservedChars_eq_iff]

/-- Braces right after characters whose spelling ends in braces, and a text that holds a spelling
already. -/
theorem unescapeLatex_reads_braces :
    let s := "~\x7b\x7d|\x7b%#&\x7d"
    '\\' ∉ s.toList ∧ unescapeLatex (escapeReserved s) = s ∧
      unescapeLatex (escapeLatex "\\textbar\x7b\x7d|\\%") = "\\textbar\x7b\x7d|\\%" ∧
      ¬(escapeReserved s = escapeLatex s) := by
  intro s
  obtain ⟨hinverse, -, hreserved, hagree⟩ := unescapeLatex_reads
  have hs : '\\' ∉ s.toList := by decide
  refine ⟨hs, hreserved s hs, hinverse _, fun heq => ?_⟩
  exact (hagree s).1 heq '\x7b' (by decide) (by decide)

end HtmlToLatex
