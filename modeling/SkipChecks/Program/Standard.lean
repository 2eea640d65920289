import SkipChecks.Environment.Basic
import SkipChecks.Shell.Run

/-!
# Standard programs

What a program does is a parameter everywhere else, and the theory is about all programs. To be run, the
project takes these: the shell and a few small programs, which every system has. A program is named by
its path, or by a name that is looked for in the directories of the environment. No file of a tree can be
run.
-/

namespace SkipChecks.Program

open Shell

/-- The bound on the number of steps that a program may take. -/
def steps : Nat := 10000000

/-- Where the program of a name lies. -/
def find (directories name : Octets) : Action (Except Fault Octets) := do
  if name = [] then return .error .notFound
  else if name.any (· == '/') then
    match ← spot name with
    | .error fault => return .error fault
    | .ok l =>
      match System.kind? (← get).tree l with
      | some .program => return .ok name
      | some _ => return .error .denied
      | none => return .error .notFound
  else if Tree.longestName < name.length then return .error .nameTooLong
  else findProgram .notFound (candidates directories name)

/-- A process in a tree, in which nothing runs yet. It has no input, and what it writes is kept. -/
def machine (environment : Environment) (t : Tree) : Machine :=
  let standing := [("PATH".toList, standardPath), ("HOME".toList, "/root".toList)]
  let given := environment.map fun (name, value) => (Octets.ofText name, Octets.ofText value)
  let bindings := given ++ standing.filter fun v => !given.any (·.1 == v.1)
  { tree := t
    buffers := #[⟨.empty, none, false⟩, ⟨.empty, none, false⟩]
    channels :=
      #[⟨.nothing, 0, false, true, false⟩, ⟨.buffer 0, 0, true, false, true⟩,
        ⟨.buffer 1, 0, true, false, true⟩]
    nextNumber := 1001
    signals := []
    idle := []
    endless := []
    ended := []
    patience := steps
    number := 1000
    shell := 1000
    waiting := []
    name := []
    command := none
    line := 0
    status := 0
    options := []
    parameters := []
    bindings := bindings.map fun (name, value) => (name, ⟨some value, true, false⟩)
    scopes := []
    functions := []
    aliases := []
    streams := [(0, 0), (1, 1), (2, 2)]
    directory := Octets.ofText t.homePath.text
    traps := []
    deaf := []
    loops := 0
    leaving := .no
    background := none
    jobs := []
    tracked := []
    substituted := 0
    documents := []
    nextDocument := 0
    mask := 0o22
    optionIndex := 1
    optionPlace := none
    trapped := none
    unwritten := none
    depth := 0
    nesting := 0
    isShowing := false }

/-- Runs a program, if it can be found. -/
def launch (name : Octets) (arguments : List Octets) : Action (Except Fault Ending) := do
  let directories ← searchPath
  match ← find directories name with
  | .error fault => return .error fault
  | .ok path =>
    if (name :: arguments).any Run.isTooLong then return .error .argumentsTooLong
    let result ← Action.attempt (Run.become steps [path] name arguments)
    let status := (← get).status
    Run.runIdle steps
    match result with
    | .error (.killed signal) => return .ok (.killed signal)
    | _ => return .ok (.exited (UInt8.ofNat status))

/-- The standard programs, in an environment. -/
def standard (environment : Environment) : Programs := fun line t =>
  match line with
  | [] => (.error .notFound, t)
  | name :: arguments =>
    if line.any (·.any (· == '\x00')) then (.error .endInArgument, t)
    else
      let run := launch (Octets.ofText name) (arguments.map Octets.ofText)
      match run (machine environment t) with
      | (result, m) =>
        let output (n : Nat) : Bytes := (m.buffers[n]?.map (·.bytes)).getD .empty
        match result with
        | .ok (.ok ending) => (.ok ⟨ending, output 0, output 1⟩, m.tree)
        | .ok (.error fault) => (.error fault, m.tree)
        | .error _ => (.ok ⟨.exited 2, output 0, output 1⟩, m.tree)

end SkipChecks.Program
