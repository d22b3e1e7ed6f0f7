import HtmlToLatex.CommandLine.Run
import HtmlToLatex.GeneratedId

set_option autoImplicit false

/-! # The program

Runs a command line on the files of the machine: observes the files that the command may look at,
runs the command on what was observed, and carries out the changes. -/

namespace HtmlToLatex

/-! ## Observing and changing files -/

/-- The absolute path of a location. -/
def absolutePath (place : Location) : String :=
  "/" ++ "/".intercalate place

/-- Adds to the observed files what is on the way along names from a location. The content of a
    file is read if it is wanted. -/
def observeFrom (wanted : Bool) (fs : FileSystem) (place : Location) :
    List String → IO FileSystem
  | [] => pure fs
  | name :: names => do
    let next :=
      if name = "." then place else if name = ".." then place.dropLast else place ++ [name]
    let path := (← IO.currentDir) / absolutePath next
    if ← path.isDir then
      observeFrom wanted (if next = [] then fs else fs.setItem next .directory) next names
    else if ← path.pathExists then
      let content ← if wanted then IO.FS.readBinFile path else pure ⟨#[]⟩
      return fs.setItem next (.file content)
    else return fs

/-- Adds to the observed files what is on the way along a path. -/
def observe (wanted : Bool) (fs : FileSystem) (p : Path) : IO FileSystem :=
  observeFrom wanted fs (fs.start p) (FileSystem.namesOf p)

/-- Adds to the observed files what a directory holds. -/
def observeEntries (fs : FileSystem) (p : Path) : IO FileSystem := do
  let fs ← observe false fs p
  match fs.resolve p with
  | .ok (place, .directory) => do
    let entries ← ((← IO.currentDir) / absolutePath place).readDir
    entries.foldlM (fun fs entry => observeFrom false fs place [entry.fileName]) fs
  | _ => return fs

/-- The working directory and those above it. -/
def observeWorkingDirectory : IO FileSystem := do
  let names := FileSystem.namesOf ⟨(← IO.currentDir).toString⟩
  observeFrom false { workingDirectory := names } [] names

/-- Makes the files of the machine be as they are after a run. -/
def carryOut (before after : FileSystem) : IO Unit := do
  let here ← IO.currentDir
  for (place, item) in after.items.reverse do
    if before.item? place != some item then
      match item with
      | .directory => IO.FS.createDirAll (here / absolutePath place)
      | .file content => IO.FS.writeBinFile (here / absolutePath place) content

/-- Observes the files that a command may look at. -/
def observeFor (command : Command) : IO FileSystem := do
  let fs ← observeWorkingDirectory
  let fs ← (command.arguments.path? .config).toList.foldlM (observe true) fs
  let fs ← command.input?.toList.foldlM (observe true) fs
  let fs ← command.target?.toList.foldlM (observe true) fs
  match (command.arguments.resolve.run).run { files := fs } with
  | (.ok options, _) => observeEntries fs (imageDirectory (command.settledOptions options))
  | (.error _, _) => return fs

/-! ## Running -/

/-- Why nothing is retrieved from the web. -/
def noTransfer : String := "transfers over HTTP are not supported"

/-- A number that can hardly be guessed. -/
def randomSeed : IO Nat := do
  return (← IO.getRandomBytes 8).toList.foldl (fun n b => n * 256 + b.toNat) 0

/-- Runs a command line. -/
def runOnMachine (args : List String) : IO Report := do
  let seed ← randomSeed
  match Command.ofArguments args with
  | .error _ =>
    let s : Surroundings := { transfer := Fetcher.failing noTransfer, ids := generatedId seed }
    return ((runCommandLine s args).run {}).1
  | .ok command =>
    let input ← if command.input?.isSome then pure ⟨#[]⟩ else (← IO.getStdin).readBinToEnd
    let s : Surroundings :=
      { input, transfer := Fetcher.failing noTransfer, ids := generatedId seed }
    let files ← observeFor command
    let (report, w) := (command.run s).run { files }
    carryOut files w.files
    return report

end HtmlToLatex

/-- Runs the command line and shows its report. -/
def main (args : List String) : IO UInt32 := do
  let report ← HtmlToLatex.runOnMachine args
  report.notes.forM IO.eprintln
  IO.print report.output
  return report.exitCode.toUInt32
