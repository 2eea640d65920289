import SkipChecks.Shell.Builtin.Process
import SkipChecks.Shell.Builtin.Variables
import SkipChecks.Shell.Condition
import SkipChecks.Shell.Tool

/-!
# What commands of the shell do

The commands that run no other ones, by their names.
-/

namespace SkipChecks.Shell.Builtin

open Action

/-- Tells by its status whether a condition holds. -/
def test (arguments : List Octets) : Action Nat := do
  return if ← Condition.holdsIn false arguments then 0 else 1

/-- Tells whether a condition in brackets holds. -/
def bracket (arguments : List Octets) : Action Nat :=
  if (arguments.getLast?.bind (·.head?)) = some ']' then test arguments.dropLast
  else fail "missing ]".toList

/-- Leaves loops, or goes on with their next turn. -/
def leaveLoops (goesOn : Bool) (arguments : List Octets) : Action Nat := do
  let n ← match arguments with
    | [] => pure 1
    | argument :: _ => do
      let n ← natural argument
      if n = 0 then fail ("Illegal number: ".toList ++ argument) else pure n
  let n := min n (← get).loops
  if 0 < n then
    setProcess fun p => { p with leaving := if goesOn then .turns n else .loops n }
  return 0

/-- Leaves a function or a script, with a status or the one at hand. -/
def leaveFunction (arguments : List Octets) : Action Nat := do
  let status ← match arguments with
    | [] => do pure (← get).status
    | argument :: _ => natural argument
  setProcess fun p => { p with leaving := .function !arguments.isEmpty }
  return status

/-- Ends the shell, with a status or the one at hand, which is the one before it in a trap. -/
def leaveShell (arguments : List Octets) : Action Nat := do
  match arguments with
  | [] => setProcess fun p => { p with status := p.trapped.getD p.status }
  | argument :: _ => setStatus (← natural argument)
  throw .finish

/-- Tells what names stand for. -/
def tellTypes (arguments : List Octets) : Action Nat := do
  let mut status := 0
  for name in arguments do
    if (← describe true none name) ≠ 0 then status := 127
  return status

/-- Tells what a name stands for, if that is asked for. -/
def tellCommand (arguments : List Octets) : Action Nat := do
  let (found, rest) ← flags "pvV" arguments
  let asked := found.filter (· != 'p')
  let directories := if found.any (· == 'p') then some standardPath else none
  match rest with
  | name :: _ =>
    if asked.isEmpty then return 0
    describe (asked.any (· == 'V')) directories name
  | [] => return 0

/-- Tells the time that has been taken, as if it were none. -/
def tellTimes : Action Nat := do
  sayText "0m0.000000s 0m0.000000s\n0m0.000000s 0m0.000000s\n".toList
  return 0

/-- Tells a limit of the system. -/
def tellLimit (arguments : List Octets) : Action Nat := do
  let (_, rest) ← flags "HSatfdsmcnpvlwr" arguments
  if rest.isEmpty then sayText "unlimited\n".toList
  return 0

/-- What a command does that runs no other ones. -/
def action (name : String) (arguments : List Octets) : Action Nat :=
  match name with
  | "false" => return 1
  | "[" => bracket arguments
  | "test" => test arguments
  | "echo" => do
    say ⟨(echo .builtin arguments).toArray⟩
    return 0
  | "printf" => shellPrintf arguments
  | "break" => leaveLoops false arguments
  | "continue" => leaveLoops true arguments
  | "return" => leaveFunction arguments
  | "exit" => leaveShell arguments
  | "cd" | "chdir" => changeDirectory arguments
  | "pwd" => tellDirectory arguments
  | "export" =>
    mark "export".toList (fun v => { v with exported := true }) (·.exported) arguments
  | "readonly" =>
    mark "readonly".toList (fun v => { v with readOnly := true }) (·.readOnly) arguments
  | "unset" => unset arguments
  | "local" => localize arguments
  | "set" => setCommand arguments
  | "shift" => shift arguments
  | "read" => read arguments
  | "getopts" => getOptions arguments
  | "trap" => trap arguments
  | "kill" => kill arguments
  | "umask" => mask arguments
  | "alias" => otherName arguments
  | "unalias" => dropOtherName arguments
  | "hash" => lookFor arguments
  | "type" => tellTypes arguments
  | "command" => tellCommand arguments
  | "times" => tellTimes
  | "ulimit" => tellLimit arguments
  | "jobs" => showJobs arguments
  | "bg" | "fg" => resume arguments
  | _ => return 0

end SkipChecks.Shell.Builtin
