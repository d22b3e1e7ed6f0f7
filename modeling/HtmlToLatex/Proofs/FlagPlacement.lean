import HtmlToLatex.CommandLine.Run
import HtmlToLatex.Proofs.Conversion

set_option autoImplicit false

/-! # Where flags are written

The program and its subcommand take the same switches, before and after the name of the subcommand.
Reading them comes to the same in both places, `SpellsFlags.readFrom`. But each level sees its own
ones only: `runCommandLine_flags` says that flags before the name of the subcommand are checked and
not used, and that all flags after it are used, wherever the input stands. -/

namespace HtmlToLatex

open Switch

/-! ## Writing flags -/

/-- Whether an argument is read as a switch, or as several. -/
def looksLikeSwitch (arg : String) : Bool :=
  match arg.toList with
  | '-' :: _ :: _ => true
  | _ => false

theorem looksLikeSwitch_of_toList {arg : String} {c : Char} {rest : List Char}
    (h : arg.toList = '-' :: c :: rest) : looksLikeSwitch arg = true := by
  unfold looksLikeSwitch
  rw [h]
  rfl

/-- Arguments that write switches of both levels with their values: by name alone if a switch takes
    no value, or else with the value as the next argument or after an equals sign. -/
inductive SpellsFlags : List String → List (Switch × String) → Prop where
  | nil : SpellsFlags [] []
  | bare {args given name s} (hname : (name, s) ∈ commonNames) (htakes : s.takesValue = false)
      (h : SpellsFlags args given) : SpellsFlags (("--" ++ name) :: args) ((s, "") :: given)
  | separate {args given name s value} (hname : (name, s) ∈ commonNames)
      (htakes : s.takesValue = true) (hvalue : looksLikeSwitch value = false)
      (h : SpellsFlags args given) :
      SpellsFlags (("--" ++ name) :: value :: args) ((s, value) :: given)
  | attached {args given name s value} (hname : (name, s) ∈ commonNames)
      (htakes : s.takesValue = true) (h : SpellsFlags args given) :
      SpellsFlags (("--" ++ name ++ "=" ++ value) :: args) ((s, value) :: given)

/-- What is to be known of the name of a common switch. -/
structure NamesSwitch (name : String) (s : Switch) : Prop where
  ne_nil : name.toList ≠ []
  noEquals : '=' ∉ name.toList
  ofName? : ∀ level, Switch.ofName? level name = some s

theorem namesSwitch_of_mem {name : String} {s : Switch} (h : (name, s) ∈ commonNames) :
    NamesSwitch name s := by
  have hall : ∀ entry ∈ commonNames, entry.1.toList ≠ [] ∧ '=' ∉ entry.1.toList ∧
      Switch.ofName? .program entry.1 = some entry.2 ∧
      Switch.ofName? .convertFile entry.1 = some entry.2 := by
    decide +kernel
  obtain ⟨hnil, hequals, hprogram, hsubcommand⟩ := hall _ h
  refine ⟨hnil, hequals, fun level => ?_⟩
  cases level
  · exact hprogram
  · exact hsubcommand

/-! ## Reading single arguments -/

namespace Arguments

/-- Adds switches with their values. -/
def giveAll (a : Arguments) (given : List (Switch × String)) : Except Stop Arguments :=
  given.foldlM (fun a flag => a.give flag.1 flag.2) a

variable {level : Level} {a : Arguments} {name : String} {s : Switch}

/-- A name ends at the first equals sign. -/
theorem takeWhile_name (hname : NamesSwitch name s) (rest : List Char) :
    (name.toList ++ rest).takeWhile (· ≠ '=') = name.toList ++ rest.takeWhile (· ≠ '=') ∧
      (name.toList ++ rest).dropWhile (· ≠ '=') = rest.dropWhile (· ≠ '=') := by
  have hall : ∀ c ∈ name.toList, (decide (c ≠ '=')) = true := by
    intro c hc
    simpa using fun heq : c = '=' => hname.noEquals (heq ▸ hc)
  exact ⟨List.takeWhile_append_of_pos hall, List.dropWhile_append_of_pos hall⟩

theorem readNamed_name (hname : NamesSwitch name s) :
    a.readNamed level name.toList =
      if s.takesValue then .ok (a, some s) else (a.give s "").map fun a => (a, none) := by
  obtain ⟨htake, hdrop⟩ := takeWhile_name hname []
  rw [List.append_nil, List.takeWhile_nil, List.append_nil] at htake
  rw [List.append_nil, List.dropWhile_nil] at hdrop
  unfold readNamed
  simp only [htake, hdrop, String.ofList_toList, hname.ofName? level, List.tail?_nil,
    Option.map_none]

theorem readNamed_attached (hname : NamesSwitch name s) (htakes : s.takesValue = true)
    (value : String) :
    a.readNamed level (name.toList ++ '=' :: value.toList) =
      (a.give s value).map fun a => (a, none) := by
  obtain ⟨htake, hdrop⟩ := takeWhile_name hname ('=' :: value.toList)
  rw [List.takeWhile_cons_of_neg (by decide), List.append_nil] at htake
  rw [List.dropWhile_cons_of_neg (by decide)] at hdrop
  unfold readNamed
  simp only [htake, hdrop, String.ofList_toList, hname.ofName? level, List.tail?_cons,
    Option.map_some, if_pos htakes]

/-- An argument with two hyphens is read by its name. -/
theorem readFrom_named {arg : String} {text : List Char} (harg : arg.toList = '-' :: '-' :: text)
    (htext : text ≠ []) (rest : List String) :
    readFrom level a none (arg :: rest) = (do
      let (a, waiting) ← a.readNamed level text
      readFrom level a waiting rest) := by
  obtain ⟨c, text, rfl⟩ := List.exists_cons_of_ne_nil htext
  conv_lhs => unfold readFrom
  rw [harg]
  rfl

theorem readFrom_value {value : String} (hvalue : looksLikeSwitch value = false)
    (rest : List String) :
    readFrom level a (some s) (value :: rest) = (do
      readFrom level (← a.give s value) none rest) := by
  conv_lhs => unfold readFrom
  split
  next heq => cases hvalue.symm.trans (looksLikeSwitch_of_toList heq)
  next heq _ =>
    cases heq
    rfl
  all_goals contradiction

/-- The subcommand takes an argument that is no switch for its input. -/
theorem readFrom_input {input : String} (hinput : looksLikeSwitch input = false)
    (rest : List String) :
    readFrom .convertFile a none (input :: rest) = (do
      readFrom .convertFile (← a.place input) none rest) := by
  have hno {c : Char} {text : List Char} (heq : input.toList = '-' :: c :: text) : False := by
    cases hinput.symm.trans (looksLikeSwitch_of_toList heq)
  conv_lhs => unfold readFrom
  split
  · contradiction
  · contradiction
  next heq => exact (hno heq).elim
  next heq => exact (hno heq).elim
  next heq => exact (hno heq).elim
  · rfl

/-- The program hands on what follows the name of the subcommand. -/
theorem readFrom_subcommandName (rest : List String) :
    readFrom .program a none (subcommandName :: rest) = .ok (a, .subcommand rest) := by
  conv_lhs => unfold readFrom
  rfl

/-! ## Reading flags -/

/-- Flags are given one after the other, on both levels alike, and the rest is read after them. -/
theorem readFrom_flags {args : List String} {given : List (Switch × String)}
    (h : SpellsFlags args given) (level : Level) (a : Arguments) (rest : List String) :
    readFrom level a none (args ++ rest) = (do readFrom level (← a.giveAll given) none rest) := by
  induction h generalizing a with
  | nil => rfl
  | @bare args given name s hname htakes _ ih =>
      have hname := namesSwitch_of_mem hname
      have harg : ("--" ++ name).toList = '-' :: '-' :: name.toList := by simp
      rw [List.cons_append, readFrom_named harg hname.ne_nil, readNamed_name hname, giveAll,
        List.foldlM_cons, htakes]
      cases a.give s "" with
      | error e => rfl
      | ok b => exact ih b
  | @separate args given name s value hname htakes hvalue _ ih =>
      have hname := namesSwitch_of_mem hname
      have harg : ("--" ++ name).toList = '-' :: '-' :: name.toList := by simp
      rw [List.cons_append, readFrom_named harg hname.ne_nil, readNamed_name hname, giveAll,
        List.foldlM_cons, if_pos htakes]
      change readFrom level a (some s) (value :: (args ++ rest)) = _
      rw [readFrom_value hvalue]
      cases a.give s value with
      | error e => rfl
      | ok b => exact ih b
  | @attached args given name s value hname htakes _ ih =>
      have hname := namesSwitch_of_mem hname
      have harg : ("--" ++ name ++ "=" ++ value).toList =
          '-' :: '-' :: (name.toList ++ '=' :: value.toList) := by simp
      rw [List.cons_append, readFrom_named harg (by simp), readNamed_attached hname htakes, giveAll,
        List.foldlM_cons]
      cases a.give s value with
      | error e => rfl
      | ok b => exact ih b

/-- Switches that can be given are put behind those given already. -/
theorem giveAll_ok {a b : Arguments} {given : List (Switch × String)}
    (h : a.giveAll given = .ok b) : b = { a with given := a.given ++ given } := by
  induction given generalizing a with
  | nil =>
      cases h
      simp
  | cons flag given ih =>
      rw [giveAll, List.foldlM_cons] at h
      obtain ⟨next, hnext, h⟩ := exists_of_bind_eq_ok h
      unfold give at hnext
      split at hnext
      · cases hnext
      · cases hnext
        simpa using ih h

/-- Giving a switch does not look at the positional argument. -/
theorem give_positional (a : Arguments) (positional : Option String) (s : Switch) (value : String) :
    { a with positional }.give s value = (a.give s value).map ({ · with positional }) := by
  have hhas : Arguments.has { a with positional } s = a.has s := rfl
  unfold give
  rw [hhas]
  split <;> rfl

theorem giveAll_positional (a : Arguments) (positional : Option String)
    (given : List (Switch × String)) :
    { a with positional }.giveAll given = (a.giveAll given).map ({ · with positional }) := by
  induction given generalizing a with
  | nil => rfl
  | cons flag given ih =>
      rw [giveAll, giveAll, List.foldlM_cons, List.foldlM_cons, give_positional]
      cases a.give flag.1 flag.2 with
      | error e => rfl
      | ok next => exact ih next

end Arguments

open Arguments

/-- Flags of both levels are none of the subcommand's own. -/
theorem SpellsFlags.not_own {args : List String} {given : List (Switch × String)}
    (h : SpellsFlags args given) :
    ∀ flag ∈ given, (flag.1 == .overwrite) = false ∧ (.outputPath == flag.1) = false := by
  have hall : ∀ entry ∈ commonNames,
      (entry.2 == .overwrite) = false ∧ (.outputPath == entry.2) = false := by decide
  induction h with
  | nil => exact fun _ h => nomatch h
  | bare hname _ _ ih => exact List.forall_mem_cons.2 ⟨hall _ hname, ih⟩
  | separate hname _ _ _ ih => exact List.forall_mem_cons.2 ⟨hall _ hname, ih⟩
  | attached hname _ _ ih => exact List.forall_mem_cons.2 ⟨hall _ hname, ih⟩

/-! ## Before and after the name of the subcommand -/

section Placement

variable {args : List String} {given : List (Switch × String)}

/-- Flags that the program takes can be given, whatever the input is. -/
theorem SpellsFlags.giveAll_eq (h : SpellsFlags args given)
    (haccepted : (readFrom .program {} none args).isOk = true) (positional : Option String) :
    ({ positional } : Arguments).giveAll given = .ok { given, positional } := by
  have hread := readFrom_flags h .program {} []
  rw [List.append_nil] at hread
  rw [hread, isOk_bind_iff] at haccepted
  obtain ⟨b, hgiven, -⟩ := haccepted
  obtain rfl := giveAll_ok hgiven
  rw [giveAll_positional {} positional given, hgiven]
  rfl

/-- The program reads flags in front of the name of the subcommand and drops them. -/
theorem SpellsFlags.ofArguments_before (h : SpellsFlags args given)
    (haccepted : (readFrom .program {} none args).isOk = true) (rest : List String) :
    Command.ofArguments (args ++ subcommandName :: rest) = Command.ofSubcommand rest := by
  unfold Command.ofArguments
  rw [readFrom_flags h]
  rw [h.giveAll_eq haccepted]
  change (readFrom .program _ none (subcommandName :: rest) >>= _) = _
  rw [readFrom_subcommandName]
  rfl

theorem ofArguments_subcommandName (rest : List String) :
    Command.ofArguments (subcommandName :: rest) = Command.ofSubcommand rest :=
  SpellsFlags.nil.ofArguments_before rfl rest

variable {input : String} (hempty : input ≠ "") (hinput : looksLikeSwitch input = false)

include hempty hinput

/-- The subcommand takes an input and flags, in this order or with the input last. -/
theorem SpellsFlags.readFrom_input (h : SpellsFlags args given)
    (haccepted : (readFrom .program {} none args).isOk = true) :
    readFrom .convertFile {} none (input :: args) =
        .ok ({ given, positional := some input }, .exhausted) ∧
      readFrom .convertFile {} none (args ++ [input]) =
        .ok ({ given, positional := some input }, .exhausted) := by
  have hplace (given : List (Switch × String)) :
      Arguments.place { given } input = .ok { given, positional := some input } := by
    simp [Arguments.place, hempty]
  constructor
  · rw [Arguments.readFrom_input hinput, hplace]
    change readFrom .convertFile _ none args = _
    rw [← List.append_nil args, readFrom_flags h, h.giveAll_eq haccepted]
    rfl
  · rw [readFrom_flags h]
    rw [h.giveAll_eq haccepted]
    change readFrom .convertFile _ none [input] = _
    rw [Arguments.readFrom_input hinput, hplace]
    rfl

/-- The subcommand runs with all flags behind its name. -/
theorem SpellsFlags.ofSubcommand_eq (h : SpellsFlags args given)
    (haccepted : (readFrom .program {} none args).isOk = true) :
    Command.ofSubcommand (input :: args) =
        .ok (.convertFile ⟨input⟩ false none { given, positional := some input }) ∧
      Command.ofSubcommand (args ++ [input]) = Command.ofSubcommand (input :: args) := by
  obtain ⟨hfirst, hlast⟩ := h.readFrom_input hempty hinput haccepted
  have hoverwrite : Arguments.has { given, positional := some input } .overwrite = false := by
    simpa [Arguments.has] using fun s value hmem => (h.not_own (s, value) hmem).1
  have hpath : Arguments.path? { given, positional := some input } .outputPath = none := by
    have hlookup : given.lookup Switch.outputPath = none :=
      List.lookup_eq_none_iff.2 fun flag hflag => by simp [bne, (h.not_own flag hflag).2]
    simp [Arguments.path?, Arguments.value?, hlookup]
  unfold Command.ofSubcommand
  rw [hfirst, hlast]
  refine ⟨?_, rfl⟩
  change Except.ok (Command.convertFile ⟨input⟩ _ _ _) = _
  rw [hoverwrite, hpath]

omit hempty hinput in
/-- **Flags count for the level they are written for.** Flags that both levels take are read in
front of the name of the subcommand and not used by it, whatever follows. Behind the name all of
them are used, and it does not matter whether the input stands before or after them. -/
theorem runCommandLine_flags (s : Surroundings) (h : SpellsFlags args given)
    (haccepted : (readFrom .program {} none args).isOk = true) :
    (∀ rest, runCommandLine s (args ++ subcommandName :: rest) =
      runCommandLine s (subcommandName :: rest)) ∧
    ∀ input, input ≠ "" → looksLikeSwitch input = false →
      let command : Command := .convertFile ⟨input⟩ false none { given, positional := some input }
      runCommandLine s (subcommandName :: input :: args) = command.run s ∧
        runCommandLine s (subcommandName :: (args ++ [input])) = command.run s := by
  refine ⟨fun rest => ?_, fun input hempty hinput => ?_⟩
  · unfold runCommandLine
    rw [h.ofArguments_before haccepted, ofArguments_subcommandName]
  · obtain ⟨hfirst, hlast⟩ := h.ofSubcommand_eq hempty hinput haccepted
    unfold runCommandLine
    rw [ofArguments_subcommandName, ofArguments_subcommandName, hlast, hfirst]
    exact ⟨rfl, rfl⟩

end Placement

/-- Three flags, written in three ways. -/
theorem runCommandLine_flags_title :
    let s : Surroundings := { transfer := .offline, ids := fun _ => "id" }
    let args := ["--document", "--title", "T", "--images-dir=d"]
    let given : List (Switch × String) := [(.document, ""), (.title, "T"), (.imagesDir, "d")]
    let command : Command :=
      .convertFile ⟨"p.html"⟩ false none { given, positional := some "p.html" }
    runCommandLine s (args ++ [subcommandName, "p.html"]) =
        runCommandLine s [subcommandName, "p.html"] ∧
      runCommandLine s (subcommandName :: "p.html" :: args) = command.run s := by
  intro s args given command
  have hdocument : ("document", Switch.document) ∈ commonNames := by simp [commonNames]
  have htitle : ("title", Switch.title) ∈ commonNames := by simp [commonNames]
  have himages : ("images-dir", Switch.imagesDir) ∈ commonNames := by simp [commonNames]
  have himagesDir : SpellsFlags ["--" ++ "images-dir" ++ "=" ++ "d"] [(.imagesDir, "d")] :=
    .attached himages rfl .nil
  have hspells : SpellsFlags args given :=
    .bare hdocument rfl (.separate htitle rfl (by decide) himagesDir)
  have haccepted : (readFrom .program {} none args).isOk = true := by decide +kernel
  obtain ⟨hbefore, hbehind⟩ := runCommandLine_flags s hspells haccepted
  exact ⟨hbefore ["p.html"], (hbehind "p.html" (by decide) (by decide)).1⟩

/-- A flag in front of the name of the subcommand is dropped. -/
theorem runCommandLine_drops_flag :
    let s : Surroundings := { transfer := .offline, ids := fun _ => "id" }
    let files : FileSystem := { items := [(["p.html"], .file "x".toUTF8)] }
    let written (args : List String) : Except FileError String :=
      ((runCommandLine s args).run { files }).2.files.readText ⟨"processed-p.tex"⟩
    SpellsFlags ["--document"] [(.document, "")] ∧
      (readFrom .program {} none ["--document"]).isOk = true ∧
      (readFrom .convertFile {} none ["--document"]).isOk = true ∧
      written (["--document"] ++ [subcommandName, "p.html"]) ≠
        written ([subcommandName, "p.html"] ++ ["--document"]) := by
  intro s files written
  have hdocument : ("document", Switch.document) ∈ commonNames := by simp [commonNames]
  exact ⟨.bare hdocument rfl .nil, by decide +kernel, by decide +kernel, by decide +kernel⟩

end HtmlToLatex
