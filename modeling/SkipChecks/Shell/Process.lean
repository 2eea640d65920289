import SkipChecks.Shell.Builtin.Table

/-!
# Processes

How a process begins: as a part of a shell that goes on by itself, or as a new shell. A process in the
background begins to run when its shell waits for something.
-/

namespace SkipChecks.Shell.Run

open Action

/-- Traps that a new process keeps: signals that are not heard. -/
def silent (traps : List (Nat × Octets)) : List (Nat × Octets) :=
  traps.filter fun (signal, action) => signal != 0 && action.isEmpty

/-- Whether anything is done at signals or at the end. -/
def hasTraps : Action Bool := return (← get).traps.any fun (_, action) => !action.isEmpty

/-- Takes note that a process has ended that the shell has started, if anything is to be done then. -/
def noteChild : Action Unit := do
  let m ← get
  if (m.action? 17).any (!·.isEmpty) then Builtin.addSignal m.number 17

/-- Does something in a process of its own, and tells how it ended. Processes in the background begin to
run before that, and again before the shell goes on. -/
def fork (runIdle : Action Unit) (close : Except Stop Nat → Action Ending) (body : Action Nat) :
    Action Ending := do
  runIdle
  let m ← get
  let before : Process := { m.toProcess with jobs := Job.makeRoom m.jobs }
  let number := m.nextNumber
  set { m with
    nextNumber := number + 1, number, waiting := m.number :: m.waiting, traps := silent m.traps
    jobs := [] }
  let ending ← attempt do
    let ending ← close (← attempt body)
    runIdle
    return ending
  modify fun m => { m with toProcess := before }
  let ending ← MonadExcept.ofExcept ending
  noteChild
  Builtin.reap none
  return ending

/-- Puts a command aside that will be run in the background, which gives it a job. -/
def putAside (command : Command) : Action Unit := do
  let input ← addChannel ⟨.nothing, 0, false, true, false⟩
  let m ← get
  let others := match command with
    | .pipe commands => commands.length - 1
    | _ => 0
  let number := m.nextNumber + others
  let process : Process := { m.toProcess with
    number, waiting := m.number :: m.waiting, traps := silent m.traps, deaf := 2 :: 3 :: m.deaf
    streams := (0, input) :: m.streams.filter (·.1 != 0), jobs := [] }
  set { m with
    nextNumber := number + 1, idle := m.idle ++ [Idle.mk process command], background := some number
    jobs := Job.start m.jobs number others }

/-- Whether an argument of a program is longer than the system allows. -/
def isTooLong (argument : Octets) : Bool := 131071 < argument.length

/-- A shell that starts in place of a process: it keeps exported variables and what is open. -/
def fresh (p : Process) (name : Octets) : Process :=
  let inherited := p.bindings.filter fun (name, v) => v.exported && v.value.isSome && isName name
  let own : List (Octets × Variable) :=
    [("IFS".toList, ⟨some standardSeparators, false, false⟩),
      ("OPTIND".toList, ⟨some ['1'], false, false⟩),
      ("PPID".toList, ⟨some (Text.ofNat (p.waiting.headD 1)), false, false⟩),
      ("PWD".toList, ⟨some p.directory, true, false⟩)]
  let standing : List (Octets × Variable) :=
    [("PATH".toList, ⟨some standardPath, false, false⟩), ("PS1".toList, ⟨some ['#', ' '], false, false⟩),
      ("PS2".toList, ⟨some ['>', ' '], false, false⟩), ("PS4".toList, ⟨some ['+', ' '], false, false⟩)]
  let isNew (others : List (Octets × Variable)) (v : Octets × Variable) : Bool :=
    !others.any (·.1 == v.1)
  let inherited := inherited.filter (isNew own)
  { p with
    shell := p.number, name, command := none, line := 0, status := 0, options := [], parameters := []
    bindings := own ++ inherited ++ standing.filter (isNew inherited)
    scopes := [], functions := [], aliases := [], traps := []
    deaf := (silent p.traps).map (·.1) ++ p.deaf, loops := 0, leaving := .no, background := none
    jobs := [], tracked := [], substituted := 0, documents := [], nextDocument := 0, optionIndex := 1
    optionPlace := none, trapped := none, unwritten := none, depth := 0, nesting := 0
    isShowing := false }

/-- Reads the options of a shell, and tells whether a script stands in an argument, with the arguments
that are left. The bound is one on their number. -/
def shellOptions : Nat → Bool → List Octets → Action (Bool × List Octets)
  | 0, script, arguments => return (script, arguments)
  | bound + 1, script, arguments => do
    match arguments with
    | ['-'] :: rest | ['-', '-'] :: rest => return (script, rest)
    | ('-' :: letters) :: rest => cluster bound script true letters rest
    | ('+' :: letters) :: rest => cluster bound script false letters rest
    | rest => return (script, rest)
where
  /-- Reads the letters of one argument. -/
  cluster (bound : Nat) (script on : Bool) (letters : Octets) (rest : List Octets) :
      Action (Bool × List Octets) := do
    let rest ← Builtin.setCluster on (letters.filter fun c => c != 'c' && c != 'l') rest
    shellOptions bound (script || letters.any (· == 'c')) rest

end SkipChecks.Shell.Run
