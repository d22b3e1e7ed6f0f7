import Mathlib.Data.List.Forall2
import Mathlib.Tactic.IntervalCases
import HtmlToLatex.Proofs.CharacterReferences

set_option autoImplicit false

/-! # Encoded texts

Markup that was encoded once more than needed holds a reference for every ampersand, and for any
other character that someone chose to write that way. Normalizing undoes just this one level:
`normalizeText_encoded`. -/

namespace HtmlToLatex

/-! ## Numbers -/

theorem numeral_concat (base : Nat) (digits : List Char) (c : Char) :
    numeral base (digits ++ [c]) = numeral base digits * base + digitValue c := by
  simp [numeral]

theorem numeral_zeros (base zeros : Nat) (digits : List Char) :
    numeral base (List.replicate zeros '0' ++ digits) = numeral base digits := by
  induction zeros with
  | zero => rfl
  | succ zeros ih =>
      rw [List.replicate_succ, List.cons_append, numeral, List.foldl_cons]
      simpa [numeral, digitValue] using ih

theorem digitValue_digitChar {k : Nat} (hk : k < 16) : digitValue k.digitChar = k := by
  interval_cases k <;> rfl

/-- Reading the digits of a number gives the number. -/
theorem numeral_toDigits {base : Nat} (hbase : 1 < base) (hsmall : base ≤ 16) (n : Nat) :
    numeral base (Nat.toDigits base n) = n := by
  induction n using Nat.strong_induction_on with
  | _ n ih =>
      rw [Nat.toDigits_eq_if hbase]
      split
      next hn => simpa [numeral] using digitValue_digitChar (by omega : n < 16)
      next hn =>
        have hlast : n % base < base := Nat.mod_lt _ (by omega)
        rw [numeral_concat, ih (n / base) (Nat.div_lt_self (by omega) hbase),
          digitValue_digitChar (by omega), Nat.div_add_mod']

theorem exists_of_mem_toDigits {base n : Nat} (hbase : 1 < base) {c : Char}
    (h : c ∈ Nat.toDigits base n) : ∃ k < base, c = k.digitChar := by
  induction n using Nat.strong_induction_on with
  | _ n ih =>
      rw [Nat.toDigits_eq_if hbase] at h
      split at h
      next hn => exact ⟨n, hn, List.mem_singleton.1 h⟩
      next hn =>
        rcases List.mem_append.1 h with h | h
        · exact ih (n / base) (Nat.div_lt_self (by omega) hbase) h
        · exact ⟨n % base, Nat.mod_lt _ (by omega), List.mem_singleton.1 h⟩

theorem exists_of_mem_zeros_toDigits {base zeros n : Nat} (hbase : 1 < base) {c : Char}
    (h : c ∈ List.replicate zeros '0' ++ Nat.toDigits base n) : ∃ k < base, c = k.digitChar := by
  rcases List.mem_append.1 h with h | h
  · exact ⟨0, by omega, List.eq_of_mem_replicate h⟩
  · exact exists_of_mem_toDigits hbase h

/-- A digit in either case. -/
def SpellsDigit (c d : Char) : Prop := c = d ∨ c = d.toUpper

theorem SpellsDigit.eq {c : Char} {k : Nat} (hk : k < 16) (h : SpellsDigit c k.digitChar) :
    isHexadecimal c = true ∧ digitValue c = k := by
  rcases h with rfl | rfl <;> interval_cases k <;> exact ⟨rfl, rfl⟩

theorem numeral_eq_foldl_map (base : Nat) (digits : List Char) :
    numeral base digits = (digits.map digitValue).foldl (fun n value => n * base + value) 0 := by
  rw [List.foldl_map]
  rfl

/-- Digits are read alike in either case. -/
theorem of_forall₂_spellsDigit (base : Nat) {digits canonical : List Char}
    (hcanonical : ∀ d ∈ canonical, ∃ k < 16, d = k.digitChar)
    (h : List.Forall₂ SpellsDigit digits canonical) :
    (∀ c ∈ digits, isHexadecimal c = true) ∧ numeral base digits = numeral base canonical := by
  rw [numeral_eq_foldl_map, numeral_eq_foldl_map]
  suffices hdigits : (∀ c ∈ digits, isHexadecimal c = true) ∧
      digits.map digitValue = canonical.map digitValue by
    exact ⟨hdigits.1, by rw [hdigits.2]⟩
  induction h with
  | nil => simp
  | cons hfirst _ ih =>
      rw [List.forall_mem_cons] at hcanonical
      obtain ⟨⟨k, hk, rfl⟩, hrest⟩ := hcanonical
      obtain ⟨hhex, hvalue⟩ := hfirst.eq hk
      obtain ⟨hall, hmap⟩ := ih hrest
      rw [List.forall_mem_cons, List.map_cons, List.map_cons, hvalue, hmap, digitValue_digitChar hk]
      exact ⟨⟨hhex, hall⟩, rfl⟩

/-! ## Encoded texts -/

/-- The references by name. -/
def namedReferences : List (String × Char) :=
  [("amp", '&'), ("lt", '<'), ("gt", '>'), ("quot", '"'), ("apos", '\''), ("nbsp", '\u00a0')]

/-- The ways to write a character in an encoded text: as itself, except for the ampersand, by name,
or by number in decimal or hexadecimal digits, with zeros in front. -/
inductive SpellsCharacter : Char → List Char → Prop where
  | itself {c} (hc : c ≠ '&') : SpellsCharacter c [c]
  | named {c name} (hname : (name, c) ∈ namedReferences) :
      SpellsCharacter c ('&' :: (name.toList ++ [';']))
  | decimal {c zeros digits}
      (hdigits : digits = List.replicate zeros '0' ++ Nat.toDigits 10 c.toNat)
      (hlength : digits.length ≤ 7) :
      SpellsCharacter c ('&' :: '#' :: (digits ++ [';']))
  | hexadecimal {c x zeros digits} (hx : x = 'x' ∨ x = 'X')
      (hdigits : List.Forall₂ SpellsDigit digits
        (List.replicate zeros '0' ++ Nat.toDigits 16 c.toNat))
      (hlength : digits.length ≤ 6) :
      SpellsCharacter c ('&' :: '#' :: x :: (digits ++ [';']))

/-- The second text encodes the first one: every character is written in one of its ways, and line
breaks and tabs as themselves. -/
inductive Spells : List Char → List Char → Prop where
  | nil : Spells [] []
  | cons {c w t e} (hc : SpellsCharacter c w) (hbreak : c ∈ ['\r', '\n', '\t'] → w = [c])
      (hrest : Spells t e) : Spells (c :: t) (w ++ e)

/-- A character is written as itself or as a reference to it. -/
theorem SpellsCharacter.cases_reference {c : Char} {w : List Char} (h : SpellsCharacter c w) :
    (w = [c] ∧ c ≠ '&') ∨ IsReference c w := by
  cases h with
  | itself hc => exact .inl ⟨rfl, hc⟩
  | named hname =>
      right
      simp only [namedReferences, List.mem_cons, List.not_mem_nil, or_false, Prod.mk.injEq]
        at hname
      rcases hname with ⟨rfl, rfl⟩ | ⟨rfl, rfl⟩ | ⟨rfl, rfl⟩ | ⟨rfl, rfl⟩ | ⟨rfl, rfl⟩ | ⟨rfl, rfl⟩
      all_goals exact .named rfl (List.all_eq_true.1 rfl)
  | @decimal zeros digits hdigits hlength =>
      subst hdigits
      refine .inr (.decimal ?_ ⟨?_, hlength⟩ ?_)
      · intro d hd
        rcases List.mem_append.1 hd with hd | hd
        · rw [List.eq_of_mem_replicate hd]
          rfl
        · exact Nat.isDigit_of_mem_toDigits (by decide) (by decide) hd
      · have hpos : 0 < (Nat.toDigits 10 c.toNat).length :=
          List.length_pos_of_ne_nil Nat.toDigits_ne_nil
        rw [List.length_append]
        omega
      · rw [numeral_zeros, numeral_toDigits (by decide) (by decide)]
  | @hexadecimal x zeros digits hx hdigits hlength =>
      obtain ⟨hhex, hvalue⟩ := of_forall₂_spellsDigit 16
        (fun d hd => exists_of_mem_zeros_toDigits (by decide) hd) hdigits
      refine .inr (.hexadecimal hx hhex ⟨?_, hlength⟩ ?_)
      · have hpos : 0 < (Nat.toDigits 16 c.toNat).length :=
          List.length_pos_of_ne_nil Nat.toDigits_ne_nil
        rw [hdigits.length_eq, List.length_append]
        omega
      · rw [hvalue, numeral_zeros, numeral_toDigits (by decide) (by decide)]

theorem Spells.resolves {t e : List Char} (h : Spells t e) : Resolves e t := by
  induction h with
  | nil => exact .nil
  | @cons c w t e hc _ _ ih =>
      rcases hc.cases_reference with ⟨rfl, hne⟩ | href
      · refine .keep ?_ ih
        rintro d w s' hw hsplit
        obtain ⟨r, rfl⟩ := hw.exists_cons
        exact hne (List.cons.inj hsplit).1
      · exact .reference href ih

/-! ## The first passes on encoded texts -/

theorem IsReference.cases_mem {d : Char} {w : List Char} (h : IsReference d w) {c : Char}
    (hc : c ∈ w) : c ∈ ['&', '#', ';'] ∨ c.isAlpha = true ∨ isHexadecimal c = true := by
  cases h with
  | named _ halpha =>
      simp only [List.mem_cons, List.mem_append, List.not_mem_nil, or_false] at hc
      rcases hc with rfl | hc | rfl
      · exact .inl (by decide)
      · exact .inr (.inl (halpha c hc))
      · exact .inl (by decide)
  | decimal hdigits _ _ =>
      simp only [List.mem_cons, List.mem_append, List.not_mem_nil, or_false] at hc
      rcases hc with rfl | rfl | hc | rfl
      · exact .inl (by decide)
      · exact .inl (by decide)
      · have hdigit : c.isDigit = true := hdigits c hc
        exact .inr (.inr (by simp [isHexadecimal, hdigit]))
      · exact .inl (by decide)
  | hexadecimal hx hdigits _ _ =>
      simp only [List.mem_cons, List.mem_append, List.not_mem_nil, or_false] at hc
      rcases hc with rfl | rfl | rfl | hc | rfl
      · exact .inl (by decide)
      · exact .inl (by decide)
      · rcases hx with rfl | rfl <;> exact .inr (.inl rfl)
      · exact .inr (.inr (hdigits c hc))
      · exact .inl (by decide)

/-- A reference is not taken apart by any pass. -/
theorem IsReference.not_mem {d : Char} {w : List Char} (h : IsReference d w) {c : Char}
    (hc : c ∈ '\\' :: breaksAndTab) : c ∉ w := by
  intro hmem
  have hcases := h.cases_mem hmem
  simp only [breaksAndTab, List.mem_cons, List.not_mem_nil, or_false] at hc
  rcases hc with rfl | rfl | rfl | rfl <;> exact absurd hcases (by decide)

/-- Where another character stands, there is no line break, tab or backslash in the encoding. -/
theorem SpellsCharacter.not_mem {c : Char} {w : List Char} (h : SpellsCharacter c w) {d : Char}
    (hd : d ∈ '\\' :: breaksAndTab) (hne : d ≠ c) : d ∉ w := by
  rcases h.cases_reference with ⟨rfl, -⟩ | href
  · simpa using hne
  · exact href.not_mem hd

theorem SpellsCharacter.ne_nil {c : Char} {w : List Char} (h : SpellsCharacter c w) : w ≠ [] := by
  cases h <;> simp

theorem Spells.of_self {s : List Char} (hs : '&' ∉ s) : Spells s s := by
  induction s with
  | nil => exact .nil
  | cons c s ih =>
      rw [List.mem_cons, not_or] at hs
      exact .cons (.itself (Ne.symm hs.1)) (fun _ => rfl) (ih hs.2)

theorem Spells.append {t e t' e' : List Char} (h : Spells t e) (h' : Spells t' e') :
    Spells (t ++ t') (e ++ e') := by
  induction h with
  | nil => exact h'
  | cons hc hbreak _ ih =>
      rw [List.cons_append, List.append_assoc]
      exact .cons hc hbreak ih

theorem Spells.not_mem_backslash {t e : List Char} (h : Spells t e) (ht : '\\' ∉ t) : '\\' ∉ e := by
  induction h with
  | nil => exact ht
  | cons hc _ _ ih =>
      rw [List.mem_cons, not_or] at ht
      rw [List.mem_append, not_or]
      exact ⟨hc.not_mem (by simp) ht.1, ih ht.2⟩

theorem Spells.dropTabs {t e : List Char} (h : Spells t e) :
    Spells (dropTabs t) (dropTabs e) := by
  induction h with
  | nil => exact .nil
  | @cons c w t e hc hbreak _ ih =>
      rw [HtmlToLatex.dropTabs, HtmlToLatex.dropTabs, List.filter_append]
      by_cases htab : c = '\t'
      · subst htab
        rw [hbreak (by simp)]
        simpa [HtmlToLatex.dropTabs] using ih
      · have hkept : w.filter (· ≠ '\t') = w := by
          rw [List.filter_eq_self]
          rintro d hd
          have hnot : '\t' ∉ w := hc.not_mem (by simp [breaksAndTab]) (Ne.symm htab)
          simpa using ne_of_mem_of_not_mem hd hnot
        rw [hkept, List.filter_cons_of_pos (by simpa using htab)]
        exact .cons hc hbreak ih

theorem replaceBreaksFrom_append {replacement w : List Char} (hw : w ≠ [])
    (hbreak : ∀ c ∈ w, isLineBreak c = false) (inRun : Bool) (s : List Char) :
    replaceBreaksFrom replacement inRun (w ++ s) =
      w ++ replaceBreaksFrom replacement false s := by
  induction w generalizing inRun with
  | nil => exact absurd rfl hw
  | cons c w ih =>
      rw [List.forall_mem_cons] at hbreak
      rw [List.cons_append, replaceBreaksFrom, if_neg (by simp [hbreak.1]), List.cons_append]
      cases w with
      | nil => rfl
      | cons d w => rw [ih (by simp) hbreak.2]

theorem Spells.replaceBreaksFrom {replacement : List Char} (hreplacement : '&' ∉ replacement)
    {t e : List Char} (h : Spells t e) (inRun : Bool) :
    Spells (replaceBreaksFrom replacement inRun t) (replaceBreaksFrom replacement inRun e) := by
  induction h generalizing inRun with
  | nil => exact .nil
  | @cons c w t e hc hbreak _ ih =>
      by_cases hline : isLineBreak c = true
      · have hself : w = [c] := by
          apply hbreak
          rcases isLineBreak_iff.1 hline with rfl | rfl <;> simp
        rw [hself, List.singleton_append, HtmlToLatex.replaceBreaksFrom,
          HtmlToLatex.replaceBreaksFrom, if_pos hline, if_pos hline]
        refine Spells.append ?_ (ih true)
        split
        · exact .nil
        · exact .of_self hreplacement
      · have hplain : ∀ d ∈ w, isLineBreak d = false := by
          intro d hd
          by_contra hbroken
          rw [Bool.not_eq_false] at hbroken
          refine hc.not_mem ?_ ?_ hd
          · rcases isLineBreak_iff.1 hbroken with rfl | rfl <;> simp [breaksAndTab]
          · rintro rfl
            exact hline hbroken
        rw [replaceBreaksFrom_append hc.ne_nil hplain, HtmlToLatex.replaceBreaksFrom,
          if_neg hline]
        exact .cons hc hbreak (ih false)

/-- **One level of encoding is undone.** A text that is encoded once more than needed, in whatever
way its characters are written, is normalized like the text that it encodes, with the decoding left
out. So nothing is decoded twice. -/
theorem normalizeText_encoded (options : Options) {t e : String} (ht : '\\' ∉ t.toList)
    (h : Spells t.toList e.toList) :
    normalizeText options e = String.ofList (chooseDelimiters options
      (escapeReservedChars (dropTabs (replaceBreaks (breakReplacement options) t.toList)))) := by
  have hreplacement : '&' ∉ breakReplacement options := by
    unfold breakReplacement
    split <;> decide
  have hpasses : Spells (dropTabs (replaceBreaks (breakReplacement options) t.toList))
      (dropTabs (replaceBreaks (breakReplacement options) e.toList)) :=
    (h.replaceBreaksFrom hreplacement false).dropTabs
  rw [normalizeText, normalizeChars_eq_protectChars (h.not_mem_backslash ht) hpasses.resolves,
    escapeReservedChars_passes ht]

/-- A reference to an apostrophe that was encoded itself stays a reference. -/
theorem normalizeText_encoded_apostrophe :
    let options : Options := { ignoreBreaks := false }
    let t := "&#39;%\té~<\n"
    let e := "&amp;#39;&#x25;\t&#X0E9;&#0126;&lt;\n"
    '\\' ∉ t.toList ∧ Spells t.toList e.toList ∧
      normalizeText options e = String.ofList (chooseDelimiters options
        (escapeReservedChars (dropTabs (replaceBreaks (breakReplacement options) t.toList)))) ∧
      normalizeText options e = "\\&\\#39;\\%é\\textasciitilde\x7b\x7d<\n\n" := by
  intro options t e
  have hampersand : SpellsCharacter '&' "&amp;".toList :=
    SpellsCharacter.named (c := '&') (by decide : ("amp", '&') ∈ namedReferences)
  have hpercentDigits : List.Forall₂ SpellsDigit ['2', '5']
      (List.replicate 0 '0' ++ Nat.toDigits 16 '%'.toNat) :=
    .cons (.inl rfl) (.cons (.inl rfl) .nil)
  have hpercent : SpellsCharacter '%' "&#x25;".toList :=
    .hexadecimal (.inl rfl) hpercentDigits (by decide)
  have haccentDigits : List.Forall₂ SpellsDigit ['0', 'E', '9']
      (List.replicate 1 '0' ++ Nat.toDigits 16 'é'.toNat) :=
    .cons (.inl rfl) (.cons (.inr rfl) (.cons (.inl rfl) .nil))
  have haccent : SpellsCharacter 'é' "&#X0E9;".toList :=
    .hexadecimal (.inr rfl) haccentDigits (by decide)
  have htildeDigits : ['0', '1', '2', '6'] =
      List.replicate 1 '0' ++ Nat.toDigits 10 '~'.toNat := rfl
  have htilde : SpellsCharacter '~' "&#0126;".toList := .decimal htildeDigits (by decide)
  have hless : SpellsCharacter '<' "&lt;".toList :=
    SpellsCharacter.named (c := '<') (by decide : ("lt", '<') ∈ namedReferences)
  have htail : Spells "<\n".toList "&lt;\n".toList :=
    .cons hless (fun h => absurd h (by decide)) (.of_self (by decide))
  have hback : Spells "\té~<\n".toList "\t&#X0E9;&#0126;&lt;\n".toList :=
    .cons (.itself (by decide)) (fun _ => rfl) (.cons haccent (fun h => absurd h (by decide))
      (.cons htilde (fun h => absurd h (by decide)) htail))
  have hrest : Spells "%\té~<\n".toList "&#x25;\t&#X0E9;&#0126;&lt;\n".toList :=
    .cons hpercent (fun h => absurd h (by decide)) hback
  have hnumber : Spells "#39;".toList "#39;".toList := .of_self (by decide)
  have hspells : Spells t.toList e.toList := by
    simpa [t, e] using Spells.cons hampersand (fun h => absurd h (by decide)) (hnumber.append hrest)
  have hbackslash : '\\' ∉ t.toList := by decide
  exact ⟨hbackslash, hspells, normalizeText_encoded options hbackslash hspells, by decide +kernel⟩

end HtmlToLatex
