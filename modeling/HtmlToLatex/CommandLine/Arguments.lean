import HtmlToLatex.CommandLine.Switch
import HtmlToLatex.Options

set_option autoImplicit false

/-! # Reading the command line

Arguments are read from left to right: switches, their values, one positional argument, and the
name of a subcommand, which reads the arguments after it. After two hyphens all arguments are
positional. -/

namespace HtmlToLatex

/-- The reasons why a command line is no command. -/
inductive Stop where
  /-- It is not written as it should be. -/
  | misuse
  /-- It asks for the version. -/
  | version
  /-- It asks for help. -/
  | help
  deriving Repr, BEq, DecidableEq, Inhabited

/-- The arguments of one level. -/
structure Arguments where
  /-- The switches given, in order, with their values. -/
  given : List (Switch × String) := []
  positional : Option String := none
  deriving Repr, BEq, DecidableEq, Inhabited

namespace Arguments

/-- Whether a switch is given. -/
def has (a : Arguments) (s : Switch) : Bool :=
  a.given.any (·.1 == s)

/-- The value of a switch. -/
def value? (a : Arguments) (s : Switch) : Option String :=
  a.given.lookup s

/-- The path that a switch gives. -/
def path? (a : Arguments) (s : Switch) : Option Path :=
  (a.value? s).map Path.mk

/-- The values of a switch that may be repeated. -/
def values (a : Arguments) (s : Switch) : List String :=
  (a.given.filter (·.1 == s)).map (·.2)

/-- Adds a switch with its value. -/
def give (a : Arguments) (s : Switch) (value : String) : Except Stop Arguments :=
  if (a.has s && !s.mayRepeat) || (s.takesPath && value == "") then .error .misuse
  else .ok { a with given := a.given ++ [(s, value)] }

/-- Adds a positional argument, which is a path. -/
def place (a : Arguments) (value : String) : Except Stop Arguments :=
  if a.positional.isSome || value == "" then .error .misuse
  else .ok { a with positional := some value }

/-! ## Single arguments -/

/-- Reads a switch by its name, with the value after an equals sign. Returns the switch that waits
    for its value, if it does. -/
def readNamed (level : Level) (a : Arguments) (text : List Char) :
    Except Stop (Arguments × Option Switch) :=
  let name := String.ofList (text.takeWhile (· ≠ '='))
  let attached := ((text.dropWhile (· ≠ '=')).tail?).map String.ofList
  match Switch.ofName? level name, attached with
  | none, none =>
    if name = "help" then .error .help
    else if name = "version" ∧ level = .program then .error .version
    else .error .misuse
  | none, some _ => .error .misuse
  | some s, none =>
    if s.takesValue then .ok (a, some s) else (a.give s "").map fun a => (a, none)
  | some s, some value =>
    if s.takesValue then (a.give s value).map fun a => (a, none) else .error .misuse

/-- Reads switches by their letters. The rest of the argument after a letter that takes a value is
    that value, without an equals sign in front. -/
def readLetters (level : Level) (a : Arguments) : List Char →
    Except Stop (Arguments × Option Switch)
  | [] => .ok (a, none)
  | 'h' :: _ => .error .help
  | c :: rest =>
    match Switch.ofLetter? level c with
    | none => .error (if c = 'V' ∧ level = .program then .version else .misuse)
    | some s =>
      if s.takesValue then
        match rest with
        | [] => .ok (a, some s)
        | '=' :: value => (a.give s (String.ofList value)).map fun a => (a, none)
        | value => (a.give s (String.ofList value)).map fun a => (a, none)
      else
        match a.give s "" with
        | .ok a => readLetters level a rest
        | .error e => .error e

/-! ## All arguments -/

/-- The name of the subcommand. -/
def subcommandName : String := "convert-file"

/-- The name of the subcommand that asks for help. -/
def helpName : String := "help"

/-- What ended the reading of a level. -/
inductive Ending where
  | exhausted
  /-- The subcommand is named, and these arguments follow it. -/
  | subcommand (arguments : List String)

/-- Reads a request for help about a subcommand. -/
def readHelp : List String → Stop
  | [] => .help
  | [name] => if name = subcommandName ∨ name = helpName then .help else .misuse
  | _ => .misuse

/-- Reads the arguments of a level. `waiting` is a switch whose value comes next. -/
def readFrom (level : Level) (a : Arguments) (waiting : Option Switch) :
    List String → Except Stop (Arguments × Ending)
  | [] => if waiting.isSome then .error .misuse else .ok (a, .exhausted)
  | arg :: rest =>
    match waiting, arg.toList with
    | some _, '-' :: _ :: _ => .error .misuse
    | some s, _ => do readFrom level (← a.give s arg) none rest
    | none, ['-', '-'] => do return (← rest.foldlM place a, .exhausted)
    | none, '-' :: '-' :: text => do
      let (a, waiting) ← a.readNamed level text
      readFrom level a waiting rest
    | none, '-' :: c :: letters => do
      let (a, waiting) ← a.readLetters level (c :: letters)
      readFrom level a waiting rest
    | none, _ =>
      if level = .program ∧ arg = subcommandName then .ok (a, .subcommand rest)
      else if level = .program ∧ arg = helpName then .error (readHelp rest)
      else do readFrom level (← a.place arg) none rest

end Arguments

/-! ## Commands -/

/-- What a command line asks for. The arguments are those of the level that was invoked. -/
inductive Command where
  /-- Converts a file or the standard input. -/
  | convert (input output : Option Path) (arguments : Arguments)
  /-- Converts a file and writes the result beside it, or to a path. -/
  | convertFile (input : Path) (overwrite : Bool) (output : Option Path) (arguments : Arguments)
  deriving Repr, BEq, DecidableEq, Inhabited

namespace Command

/-- The arguments that say how to convert. -/
def arguments : Command → Arguments
  | .convert _ _ arguments => arguments
  | .convertFile _ _ _ arguments => arguments

/-- Reads the arguments of the subcommand. -/
def ofSubcommand (args : List String) : Except Stop Command := do
  let (a, _) ← Arguments.readFrom .convertFile {} none args
  match a.positional with
  | some input => return .convertFile ⟨input⟩ (a.has .overwrite) (a.path? .outputPath) a
  | none => throw .misuse

/-- Reads a command line. -/
def ofArguments (args : List String) : Except Stop Command := do
  match ← Arguments.readFrom .program {} none args with
  | (_, .subcommand rest) => ofSubcommand rest
  | (a, .exhausted) => return .convert (a.positional.map Path.mk) (a.path? .output) a

end Command
end HtmlToLatex
