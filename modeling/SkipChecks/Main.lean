import SkipChecks.CommandLine.Arguments
import SkipChecks.CommandLine.Execution
import SkipChecks.Program.Standard
import SkipChecks.Time

/-!
# The program

Reads the working directory and the environment, carries out the command line, and writes back what
changed.
-/

namespace SkipChecks.Main

/-- What lies below a directory, in any order. -/
partial def entriesBelow (l : Location) (directory : IO.FS.DirEntry) :
    IO (List (Location × Entry)) := do
  let mut entries := []
  for entry in ← directory.path.readDir do
    let m := l ++ [entry.fileName.toList]
    if ← entry.path.isDir then
      entries := (m, .directory) :: (← entriesBelow m entry) ++ entries
    else
      entries := (m, .file (← IO.FS.readBinFile entry.path)) :: entries
  return entries

/-- The tree of the working directory, with nothing around it but the directories above. -/
def readTree : IO Tree := do
  let home := (← IO.currentDir).components.filter (· ≠ "") |>.map String.toList
  let above := (List.range home.length).map fun n => (home.take (n + 1), Entry.directory)
  let below ← entriesBelow home ⟨".", "."⟩
  return ⟨(above ++ below).mergeSort fun a b => !decide (b.1 < a.1), home⟩

/-- Writes what one tree has and another one has not. -/
def writeChanges (before after : Tree) : IO Unit := do
  for (p, content) in (Tree.changes before after).1 do
    match content with
    | none => IO.FS.createDirAll (String.ofList p)
    | some content => IO.FS.writeBinFile (String.ofList p) content

/-- The variables that have a meaning here. -/
def readEnvironment : IO Environment := do
  let names := ["NO_COLOR", "FORCE_COLOR", "CI", "GITHUB_ACTIONS", "GITLAB_CI"] ++
    Settings.names.map fun name =>
      String.ofList (SkipChecks.Environment.beginning ++ name.map Char.toUpper)
  let mut environment := []
  for name in names do
    if let some s ← IO.getEnv name then environment := environment ++ [(name.toList, s.toList)]
  return environment

/-- The time that a new file gets. -/
def readTime : IO Text := do
  let (_, p) ← IO.FS.createTempFile
  let seconds := (← p.metadata).modified.sec
  IO.FS.removeFile p
  return Time.ofSeconds seconds.toNat

/-- Carries out what a command line asks for. -/
def run (invocation : Invocation) : IO UInt32 := do
  let tree ← readTree
  let environment ← readEnvironment
  let execution := Execution.ofInvocation (Program.standard environment) .obliging (← readTime)
    environment (← (← IO.getStderr).isTty) tree invocation
  writeChanges tree execution.tree
  IO.print (String.ofList execution.output)
  IO.eprint (String.ofList execution.messages)
  if let .error failure := execution.result then
    IO.eprintln ("Error: " ++ String.ofList (failure.report fun _ => "no list of routes".toList))
  return execution.exitCode.toUInt32

end SkipChecks.Main

def main (arguments : List String) : IO UInt32 := do
  match SkipChecks.Invocation.ofArguments (arguments.map String.toList) with
  | .ok invocation => SkipChecks.Main.run invocation
  | .error usage =>
    IO.eprintln "usage: skipguard [-v | -q] [--no-color] [-c FILE] manifest|inject|append-helpers|check"
    return usage.exitCode.toUInt32
