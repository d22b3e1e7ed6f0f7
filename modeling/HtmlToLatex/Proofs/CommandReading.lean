import HtmlToLatex.Proofs.FlagPlacement

set_option autoImplicit false

/-! # What command lines ask for

Flags that both levels take, alone or behind an input, make a line that the program reads as one
expects, also with its output behind them: `SpellsFlags.ofArguments_flags`,
`SpellsFlags.ofArguments_input`, `SpellsFlags.ofArguments_output`. If an argument is none that can
be an input, one of the lines with it is misused or asks for help: `SpellsFlags.isInput`. -/

namespace HtmlToLatex

open Switch

/-! ## Reading arguments -/

namespace Arguments

variable {level : Level} {a : Arguments} {s : Switch}

/-- A switch that cannot be given is misused. -/
theorem give_error {value : String} {e : Stop} (h : a.give s value = .error e) : e = .misuse := by
  unfold give at h
  split at h <;> cases h
  rfl

theorem giveAll_error {given : List (Switch × String)} {e : Stop} (h : a.giveAll given = .error e) :
    e = .misuse := by
  induction given generalizing a with
  | nil => cases h
  | cons flag given ih =>
      rw [giveAll, List.foldlM_cons] at h
      cases hnext : a.give flag.1 flag.2 with
      | error e' =>
          rw [hnext] at h
          cases h
          exact give_error hnext
      | ok next =>
          rw [hnext] at h
          exact ih h

/-- There is room for one positional argument. -/
theorem foldlM_place_of_two (first second : String) (rest : List String) :
    (first :: second :: rest).foldlM place a = .error .misuse := by
  rw [List.foldlM_cons]
  unfold place
  split <;> rfl

/-- A switch is no value. -/
theorem readFrom_waiting_switch {arg : String} (harg : looksLikeSwitch arg = true)
    (rest : List String) : readFrom level a (some s) (arg :: rest) = .error .misuse := by
  unfold looksLikeSwitch at harg
  split at harg
  next heq =>
    unfold readFrom
    rw [heq]
    rfl
  · cases harg

/-- An argument with one hyphen is read by its letters. -/
theorem readFrom_letters {arg : String} {c : Char} {letters : List Char}
    (harg : arg.toList = '-' :: c :: letters) (hc : c ≠ '-') (rest : List String) :
    readFrom level a none (arg :: rest) = (do
      let (a, waiting) ← a.readLetters level (c :: letters)
      readFrom level a waiting rest) := by
  conv_lhs => unfold readFrom
  rw [harg]
  split
  · contradiction
  · contradiction
  next heq => simp_all
  next heq => simp_all
  next heq => cases heq; rfl
  next hnone => exact absurd rfl (hnone c letters)

/-- The program takes an argument that is no switch and no name of a subcommand for its input. -/
theorem readFrom_program_input {input : String} (hinput : looksLikeSwitch input = false)
    (hname : input ≠ subcommandName) (hhelp : input ≠ helpName) (rest : List String) :
    readFrom .program a none (input :: rest) = (do
      readFrom .program (← a.place input) none rest) := by
  have hno {c : Char} {text : List Char} (heq : input.toList = '-' :: c :: text) : False := by
    cases hinput.symm.trans (looksLikeSwitch_of_toList heq)
  conv_lhs => unfold readFrom
  split
  · contradiction
  · contradiction
  next heq => exact (hno heq).elim
  next heq => exact (hno heq).elim
  next heq => exact (hno heq).elim
  · rw [if_neg (by simp [hname]), if_neg (by simp [hhelp])]

/-! ## The output of the program -/

/-- Arguments with the output of the program. -/
def withOutput (given : List (Switch × String)) (output : String) : List (Switch × String) :=
  given ++ [(.output, output)]

/-- The output of the program comes behind the letter of its switch, unless this is misused. -/
theorem readFrom_output (a : Arguments) (output : String) :
    readFrom .program a none ["-o", output] = .error .misuse ∨
      readFrom .program a none ["-o", output] =
        .ok ({ a with given := withOutput a.given output }, .exhausted) := by
  rw [readFrom_letters (show "-o".toList = '-' :: 'o' :: [] by decide) (by decide)]
  change readFrom .program a (some .output) [output] = _ ∨
    readFrom .program a (some .output) [output] = _
  cases houtput : looksLikeSwitch output with
  | true => exact .inl (readFrom_waiting_switch houtput [])
  | false =>
      rw [readFrom_value houtput, give]
      split
      · exact .inl rfl
      · exact .inr rfl

section Output

variable (given : List (Switch × String)) (positional positional' : Option String) (output : String)

theorem has_withOutput (hs : s ≠ .output) :
    Arguments.has { given := withOutput given output, positional } s =
      Arguments.has { given, positional := positional' } s := by
  have hne : (Switch.output == s) = false := by revert hs; cases s <;> decide
  simp [has, withOutput, hne]

theorem value?_withOutput (hs : s ≠ .output) :
    Arguments.value? { given := withOutput given output, positional } s =
      Arguments.value? { given, positional := positional' } s := by
  have hne : (s == Switch.output) = false := by revert hs; cases s <;> decide
  simp [value?, withOutput, List.lookup_append, List.lookup_cons, hne]

theorem values_withOutput (hs : s ≠ .output) :
    Arguments.values { given := withOutput given output, positional } s =
      Arguments.values { given, positional := positional' } s := by
  have hne : (Switch.output == s) = false := by revert hs; cases s <;> decide
  simp [values, withOutput, hne]

/-- Where the output goes makes no difference to the options. -/
theorem resolve_withOutput :
    Arguments.resolve { given := withOutput given output, positional } =
      Arguments.resolve { given, positional := positional' } := by
  have hoverride : Arguments.override { given := withOutput given output, positional } =
      Arguments.override { given, positional := positional' } := by
    funext options
    simp (disch := decide) only [override, path?,
      has_withOutput given positional positional' output,
      value?_withOutput given positional positional' output,
      values_withOutput given positional positional' output]
  unfold resolve
  rw [path?, value?_withOutput given positional positional' output (by decide), hoverride]
  rfl

end Output

/-! ## Switches in the place of an input -/

/-- What comes of reading a switch of the subcommand: it fails or asks for help, and if it does
    neither, there is no input still. -/
inductive NoInput : Except Stop (Arguments × Option Switch) → Prop where
  | misuse : NoInput (.error .misuse)
  | help : NoInput (.error .help)
  | ok {a : Arguments} {waiting : Option Switch} (h : a.positional = none) :
      NoInput (.ok (a, waiting))

theorem noInput_give (h : a.positional = none) (s : Switch) (value : String) :
    NoInput ((a.give s value).map fun a => (a, none)) := by
  unfold give
  split
  · exact .misuse
  · exact .ok h

theorem noInput_readNamed (h : a.positional = none) (text : List Char) :
    NoInput (a.readNamed .convertFile text) := by
  unfold readNamed
  dsimp only
  split
  · split
    · exact .help
    · rw [if_neg (by simp)]
      exact .misuse
  · exact .misuse
  · split
    · exact .ok h
    · exact noInput_give h _ _
  · split
    · exact noInput_give h _ _
    · exact .misuse

/-- The subcommand has no switches with letters. -/
theorem noInput_readLetters (h : a.positional = none) (letters : List Char) :
    NoInput (a.readLetters .convertFile letters) := by
  unfold readLetters
  split
  · exact .ok h
  · exact .help
  · change NoInput (.error (if _ ∧ Level.convertFile = .program then _ else _))
    rw [if_neg (by simp)]
    exact .misuse

end Arguments

open Arguments

/-! ## Flags and an input -/

namespace SpellsFlags

variable {args : List String} {given : List (Switch × String)} (h : SpellsFlags args given)

/-- Flags start with a switch. -/
theorem looksLikeSwitch_head {first : String} {rest : List String}
    (h : SpellsFlags (first :: rest) given) : looksLikeSwitch first = true := by
  cases h <;>
  · unfold looksLikeSwitch
    simp

/-- The program takes no output among common flags. -/
theorem lookup_output (h : SpellsFlags args given) : given.lookup .output = none := by
  have hall : ∀ entry ∈ commonNames, (Switch.output == entry.2) = false := by decide
  induction h with
  | nil => rfl
  | bare hname _ _ ih => rw [List.lookup_cons, hall _ hname]; exact ih
  | separate hname _ _ _ ih => rw [List.lookup_cons, hall _ hname]; exact ih
  | attached hname _ _ ih => rw [List.lookup_cons, hall _ hname]; exact ih

/-- Flags that are accepted are read to the end on both levels. -/
theorem readFrom_eq (h : SpellsFlags args given)
    (haccepted : (readFrom .program {} none args).isOk = true) (level : Level)
    (positional : Option String) :
    readFrom level { positional } none args = .ok ({ given, positional }, .exhausted) := by
  rw [← List.append_nil args, readFrom_flags h, h.giveAll_eq haccepted]
  rfl

/-- Flags are accepted or misused. -/
theorem accepted (h : SpellsFlags args given)
    (hok : Command.ofArguments args ≠ .error .misuse) :
    (readFrom .program {} none args).isOk = true := by
  have hread := readFrom_flags h .program {} []
  rw [List.append_nil] at hread
  cases hgiven : giveAll {} given with
  | ok b =>
      rw [hread, hgiven]
      rfl
  | error e =>
      obtain rfl := giveAll_error hgiven
      refine absurd ?_ hok
      unfold Command.ofArguments
      rw [hread, hgiven]
      rfl

end SpellsFlags

/-- A line that is read to the end asks for the conversion of its input. -/
theorem ofArguments_of_exhausted {args : List String} {a : Arguments}
    (h : readFrom .program {} none args = .ok (a, .exhausted)) :
    Command.ofArguments args = .ok (.convert (a.positional.map Path.mk) (a.path? .output) a) := by
  unfold Command.ofArguments
  rw [h]
  rfl

namespace SpellsFlags

variable {args : List String} {given : List (Switch × String)} (h : SpellsFlags args given)
  (haccepted : (readFrom .program {} none args).isOk = true)

include h

theorem path?_output (positional : Option String) :
    Arguments.path? { given, positional } .output = none := by
  rw [Arguments.path?, Arguments.value?, h.lookup_output]
  rfl

include haccepted

theorem ofArguments_flags : Command.ofArguments args = .ok (.convert none none { given }) := by
  rw [ofArguments_of_exhausted (h.readFrom_eq haccepted .program none), h.path?_output]
  rfl

/-- The subcommand needs an input. -/
theorem ofArguments_subcommand :
    Command.ofArguments (subcommandName :: args) = .error .misuse := by
  rw [ofArguments_subcommandName]
  unfold Command.ofSubcommand
  rw [h.readFrom_eq haccepted .convertFile none]
  rfl

/-- A switch in the place of the input leaves the subcommand without one. -/
theorem ofSubcommand_noInput {input : String} {r : Except Stop (Arguments × Option Switch)}
    (hr : NoInput r)
    (hread : readFrom .convertFile {} none (input :: args) = (do
      let (a, waiting) ← r
      readFrom .convertFile a waiting args)) :
    Command.ofSubcommand (input :: args) = .error .misuse ∨
      Command.ofSubcommand (input :: args) = .error .help := by
  unfold Command.ofSubcommand
  rw [hread]
  cases hr with
  | misuse => exact .inl rfl
  | help => exact .inr rfl
  | @ok a waiting hnone =>
      obtain ⟨before, positional⟩ := a
      obtain rfl : positional = none := hnone
      left
      change (readFrom .convertFile { given := before } waiting args >>= _) = _
      cases waiting with
      | some s =>
          cases args with
          | nil =>
              unfold readFrom
              rfl
          | cons first rest =>
              rw [readFrom_waiting_switch h.looksLikeSwitch_head]
              rfl
      | none =>
          rw [← List.append_nil args, readFrom_flags h]
          cases hgiven : giveAll { given := before } given with
          | error e =>
              obtain rfl := giveAll_error hgiven
              rfl
          | ok b =>
              obtain rfl := giveAll_ok hgiven
              rfl

/-- A switch in the place of the input is misused, or asks for help. -/
theorem ofSubcommand_switch {input : String} (hinput : looksLikeSwitch input = true)
    (hdashes : input ≠ "--") :
    Command.ofSubcommand (input :: args) = .error .misuse ∨
      Command.ofSubcommand (input :: args) = .error .help := by
  unfold looksLikeSwitch at hinput
  split at hinput
  next c text harg =>
    by_cases hc : c = '-'
    · subst hc
      have htext : text ≠ [] := by
        rintro rfl
        exact hdashes (String.toList_inj.1 harg)
      exact h.ofSubcommand_noInput haccepted (noInput_readNamed rfl text)
        (readFrom_named harg htext args)
    · exact h.ofSubcommand_noInput haccepted (noInput_readLetters rfl (c :: text))
        (readFrom_letters harg hc args)
  · cases hinput

end SpellsFlags

/-! ## Inputs -/

/-- An argument that the program takes for its input. -/
structure IsInput (input : String) : Prop where
  ne_empty : input ≠ ""
  noSwitch : looksLikeSwitch input = false
  ne_subcommandName : input ≠ subcommandName
  ne_helpName : input ≠ helpName

theorem ofArguments_empty (rest : List String) :
    Command.ofArguments ("" :: rest) = .error .misuse := by
  unfold Command.ofArguments
  rw [readFrom_program_input (by decide) (by decide) (by decide)]
  rfl

/-- Behind two hyphens the switch of the output is taken for an input. -/
theorem ofArguments_dashes (args : List String) (output : String) :
    Command.ofArguments ("--" :: args ++ ["-o", output]) = .error .misuse := by
  have hread (rest : List String) : readFrom .program {} none ("--" :: rest) =
      (do return (← rest.foldlM place {}, .exhausted)) := by
    conv_lhs => unfold readFrom
    rfl
  have hplace : (args ++ ["-o", output]).foldlM place {} = .error .misuse := by
    rcases args with _ | ⟨first, _ | ⟨second, rest⟩⟩
    · exact foldlM_place_of_two "-o" output []
    · exact foldlM_place_of_two first "-o" [output]
    · exact foldlM_place_of_two first second _
  unfold Command.ofArguments
  rw [List.cons_append, hread, hplace]
  rfl

/-- Nothing is written when help is asked for. -/
theorem ofArguments_help (args : List String) (output : String) :
    Command.ofArguments (helpName :: args ++ ["-o", output]) = .error .misuse := by
  have hread (rest : List String) :
      readFrom .program {} none (helpName :: rest) = .error (readHelp rest) := by
    conv_lhs => unfold readFrom
    rfl
  unfold Command.ofArguments
  rw [List.cons_append, hread]
  rcases args with _ | ⟨first, _ | ⟨second, rest⟩⟩ <;> rfl

namespace SpellsFlags

variable {args : List String} {given : List (Switch × String)} (h : SpellsFlags args given)
  (haccepted : (readFrom .program {} none args).isOk = true) {input : String}

include h haccepted

/-- **What can be named, saved and converted beside itself is an input.** -/
theorem isInput (hnamed : Command.ofArguments (input :: args) ≠ .error .misuse) {output : String}
    (hsaved : Command.ofArguments (input :: args ++ ["-o", output]) ≠ .error .misuse)
    (hbeside : Command.ofArguments (subcommandName :: input :: args) ≠ .error .misuse)
    (hasks : Command.ofArguments (subcommandName :: input :: args) ≠ .error .help) :
    IsInput input where
  ne_empty := by
    rintro rfl
    exact hnamed (ofArguments_empty args)
  noSwitch := by
    by_contra hswitch
    rw [Bool.not_eq_false] at hswitch
    rw [ofArguments_subcommandName] at hbeside hasks
    by_cases hdashes : input = "--"
    · subst hdashes
      exact hsaved (ofArguments_dashes args output)
    · exact (h.ofSubcommand_switch haccepted hswitch hdashes).elim hbeside hasks
  ne_subcommandName := by
    rintro rfl
    exact hnamed (h.ofArguments_subcommand haccepted)
  ne_helpName := by
    rintro rfl
    exact hsaved (ofArguments_help args output)

variable (hinput : IsInput input)

include hinput

theorem readFrom_input_program (rest : List String) :
    readFrom .program {} none (input :: (args ++ rest)) =
      readFrom .program { given, positional := some input } none rest := by
  have hplace : Arguments.place {} input = .ok { positional := some input } := by
    simp [Arguments.place, hinput.ne_empty]
  rw [readFrom_program_input hinput.noSwitch hinput.ne_subcommandName hinput.ne_helpName, hplace]
  change readFrom .program _ none (args ++ rest) = _
  rw [readFrom_flags h, h.giveAll_eq haccepted]
  rfl

theorem ofArguments_input : Command.ofArguments (input :: args) =
    .ok (.convert (some ⟨input⟩) none { given, positional := some input }) := by
  have hread := h.readFrom_input_program haccepted hinput []
  rw [List.append_nil] at hread
  rw [ofArguments_of_exhausted (hread.trans rfl), h.path?_output]
  rfl

theorem ofArguments_output (output : String) :
    Command.ofArguments (input :: args ++ ["-o", output]) = .error .misuse ∨
      Command.ofArguments (input :: args ++ ["-o", output]) =
        .ok (.convert (some ⟨input⟩) (some ⟨output⟩)
          { given := withOutput given output, positional := some input }) := by
  have hread := h.readFrom_input_program haccepted hinput ["-o", output]
  rcases readFrom_output { given, positional := some input } output with hmisuse | hok
  · left
    unfold Command.ofArguments
    rw [List.cons_append, hread, hmisuse]
    rfl
  · right
    rw [List.cons_append, ofArguments_of_exhausted (hread.trans hok), Arguments.path?,
      Arguments.value?, withOutput, List.lookup_append, h.lookup_output]
    rfl

theorem ofArguments_beside : Command.ofArguments (subcommandName :: input :: args) =
    .ok (.convertFile ⟨input⟩ false none { given, positional := some input }) := by
  rw [ofArguments_subcommandName]
  exact (h.ofSubcommand_eq hinput.ne_empty hinput.noSwitch haccepted).1

end SpellsFlags

end HtmlToLatex
