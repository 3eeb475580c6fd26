import MutantHunt.Sandbox.Terminal

/-!
# The program

A search is run in a sandbox, so that nothing a generated program does can reach the outside. The sandbox
starts with copies of the working directory and of whatever else the command line names by a path from
the root; links are left out. Scripts in it stand for the compiler, the generator and the reducer. When
the program ends, files that are new or have changed are written back.
-/

namespace MutantHunt.Main

/-- The variables of the environment that are passed on. -/
def passedVariables : List String :=
  ["CLICOLOR_FORCE", "HOME", "PATH", "TMPDIR", enabledVariable]
    ++ CommandLine.positionalVariables

/-- Whether a file is a script by its first two characters. Scripts may be executed. -/
def isScript (content : List UInt8) : Bool :=
  Text.encode "#!" == content.take 2

/-- Puts something into a sandbox. -/
def plant (path : String) (item : Sandbox.Item) (s : Sandbox) : Sandbox :=
  let place := Sandbox.Files.namesOf (Sandbox.pathOf path)
  { s with machine := { s.machine with files := s.machine.files.plant place item } }

/-- Copies a file, or a directory with all inside it, into a sandbox. -/
partial def gather (path : String) (s : Sandbox) : IO Sandbox := do
  let real ← IO.FS.realPath path
  if real.toString != path then return s
  if ← real.isDir then
    let s := plant path (.directory Sandbox.openMode) s
    (← real.readDir).foldlM (fun s entry => gather (Path.join path entry.fileName) s) s
  else
    let content := (← IO.FS.readBinFile path).toList
    let mode := if isScript content then Sandbox.openMode else Sandbox.plainMode
    return plant path (.file content mode) s

/-- The paths from the root that words of a command line name, with or without an option in front. -/
def namedPaths (words : List String) : List String :=
  (words.flatMap fun word => [word, "=".intercalate ((word.splitOn "=").drop 1)]).filter
    Path.isAbsolute

/-- Writes what is at a place outside, if it was not there before. -/
def writeBack (before : Sandbox.Files) (place : Sandbox.Place) (item : Sandbox.Item) : IO Unit := do
  let path := Sandbox.ByteText.toText place.path
  if before.get? place != some item then
    match item with
    | .directory _ => IO.FS.createDirAll path
    | .file content _ => IO.FS.writeBinFile path ⟨content.toArray⟩
    | _ => pure ()

end MutantHunt.Main

open MutantHunt MutantHunt.Main in
/-- Carries out a command line. -/
def main (words : List String) : IO UInt32 := do
  let directory := (← IO.currentDir).toString
  let bindings ← passedVariables.filterMapM fun name =>
    return (← IO.getEnv name).map fun value => (name, Sandbox.pathOf value)
  let started : Sandbox :=
    { environment := bindings
      directory := ((Sandbox.pathOf directory).splitOn "/").filter (!·.isEmpty) }
  let s ← (directory :: namedPaths words).foldlM
    (fun s path => do
      try gather path s
      catch _ => return s)
    started
  let (session, ended) := s.runMain words
  for (place, item) in ended.machine.files.items do
    writeBack s.machine.files place item
  let output ← IO.getStdout
  output.write ⟨session.output.toArray⟩
  output.flush
  let errors ← IO.getStderr
  errors.write ⟨session.errors.toArray⟩
  return UInt32.ofNat session.status.code
