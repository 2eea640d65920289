import SkipChecks.Shell.Mode
import SkipChecks.Shell.Search
import SkipChecks.Shell.Signal

/-!
# Commands on processes

Commands on the working directory, on signals, and on processes in the background.
-/

namespace SkipChecks.Shell.Builtin

open Action

/-! ## The working directory -/

/-- The path that a path from a directory comes to when it is read step by step: two dots take a step
back, whatever lies there. -/
def stepwise (directory path : Octets) : Octets :=
  let rooted := path.head? == some '/'
  let whole := if rooted then path else directory ++ '/' :: path
  let front : Octets :=
    match whole with
    | '/' :: '/' :: '/' :: _ => ['/']
    | '/' :: '/' :: _ => ['/', '/']
    | _ => ['/']
  let steps := (Text.split '/' whole).foldl
    (fun steps piece =>
      if piece = [] ∨ piece = ['.'] then steps
      else if piece = ['.', '.'] then steps.drop 1
      else piece :: steps) ([] : List Octets)
  front ++ Text.join ['/'] steps.reverse

example :
    stepwise "/a/b".toList "../c/./d/".toList = "/a/c/d".toList ∧
      stepwise "/a".toList "../..".toList = ['/'] := by
  decide +kernel

/-- Goes to a directory, and tells whether that was possible. -/
def enter (path : Octets) : Action Bool := do
  let before := (← get).directory
  let target := stepwise before path
  if (← kind? target) ≠ some .directory then return false
  let put (name : String) (value : Octets) : Action Unit :=
    changeVariable name.toList fun v => { v with value := some value, exported := true }
  setProcess fun p =>
    { p with directory := target, tracked := p.tracked.map fun t => { t with stale := true } }
  put "OLDPWD" before
  put "PWD" target
  return true

/-- Whether a path says where it starts. -/
def startsSomewhere (path : Octets) : Bool :=
  match Text.split '/' path with
  | [] :: _ :: _ | ['.'] :: _ | ['.', '.'] :: _ => true
  | _ => false

def changeDirectory (arguments : List Octets) : Action Nat := do
  let (_, rest) ← flags "LP" arguments
  let (target, tells) ←
    match rest with
    | [] => do pure ((← value? "HOME".toList).getD [], false)
    | ['-'] :: _ => do pure ((← value? "OLDPWD".toList).getD [], true)
    | target :: _ => pure (target, false)
  let searched ← if startsSomewhere target then pure none else value? "CDPATH".toList
  let name := if target = [] ∧ !startsSomewhere target then ['.'] else target
  let choices := match searched with
    | some directories => candidates directories name
    | none => []
  let (path, tells) ← choose tells name choices
  if !(← enter path) then fail ("can't cd to ".toList ++ target)
  if tells then sayText ((← get).directory ++ ['\n'])
  return 0
where
  /-- The first directory of some, or else the path itself. -/
  choose (tells : Bool) (path : Octets) : List Octets → Action (Octets × Bool)
    | [] => return (path, tells)
    | candidate :: candidates => do
      if (← kind? candidate) = some .directory then return (candidate, tells || candidate != path)
      choose tells path candidates

def tellDirectory (arguments : List Octets) : Action Nat := do
  let _ ← flags "LP" arguments
  sayText ((← get).directory ++ ['\n'])
  return 0

/-! ## Signals -/

/-- Shows what is done at signals, or sets it. -/
def trap (arguments : List Octets) : Action Nat := do
  let (_, arguments) ← flags "" arguments
  match arguments with
  | [] =>
    for signal in List.range (Signal.greatest + 1) do
      match (← get).traps.lookup signal with
      | some action =>
        sayText ("trap -- ".toList ++ inQuotes action ++ ' ' :: Signal.name signal ++ ['\n'])
      | none => pure ()
    return 0
  | action :: signals =>
    if signals.isEmpty || (Signal.ofDigits? action).isSome then setAll none (action :: signals)
    else setAll (if action = ['-'] then none else some action) signals
where
  /-- Sets what is done at signals. -/
  setAll (action : Option Octets) : List Octets → Action Nat
    | [] => return 0
    | name :: names => do
      match Signal.ofText? 0 name with
      | none =>
        print 2 ("trap: ".toList ++ name ++ ": bad trap\n".toList)
        return 1
      | some signal =>
        setProcess fun p =>
          let others := p.traps.filter (·.1 != signal)
          { p with traps := (action.map fun action => (signal, action)).toList ++ others }
        setAll action names

/-- Adds a signal to those that have been sent to a process. -/
def addSignal (target signal : Nat) : Action Unit :=
  modify fun m =>
    if m.signals.any (· == (target, signal)) then m
    else { m with signals := m.signals ++ [(target, signal)] }

/-- Sends a signal to a process in the background, which may end it. -/
def sendAway (signal : Nat) (p : Process) : Action Unit := do
  match p.action? signal with
  | some [] => return
  | some _ => addSignal p.number signal
  | none =>
    if Signal.isHarmless signal then return
    modify fun m =>
      { m with
        idle := m.idle.filter (·.process.number != p.number)
        endless := m.endless.filter (·.number != p.number)
        ended := (p.number, .killed signal) :: m.ended }

/-- Sends a signal to a process, and tells whether there is one. -/
def send (signal target : Nat) : Action Bool := do
  let m ← get
  if target = m.number then
    match m.action? signal with
    | some [] => return true
    | some _ => addSignal target signal
    | none => if !Signal.isHarmless signal then throw (.killed signal)
    return true
  else if m.waiting.any (· == target) then
    if signal ≠ 0 then addSignal target signal
    return true
  else
    match (m.idle.map (·.process) ++ m.endless).find? (·.number == target) with
    | some p =>
      sendAway signal p
      return true
    | none => return m.ended.any (·.1 == target)

/-- The job of a name, which must be known. -/
def job (name : Option Octets) : Action Job := do
  match Job.named (← get).jobs name with
  | .ok job => return job
  | .error fault => fail (fault.words (name.getD []))

/-- Sends signals, or shows their names. -/
def kill (arguments : List Octets) : Action Nat := do
  match arguments with
  | [] => usage
  | ('-' :: name) :: rest =>
    match Signal.ofText? 1 name with
    | some signal => sendAll signal rest
    | none =>
      let (found, rest) ← options ['l', 's'] ['s'] check arguments []
      let signal := (found.filterMap fun (_, name) => Signal.ofText? 1 name).getLast?
      if found.any (·.1 == 'l') then
        if signal.isSome then usage else list rest
      else sendAll (signal.getD 15) rest
  | targets => sendAll 15 targets
where
  /-- Checks the name of a signal. -/
  check (letter : Char) (name : Octets) : Action Unit := do
    if letter = 's' && (Signal.ofText? 1 name).isNone then
      fail ("invalid signal number or name: ".toList ++ name)
  /-- Tells how to use the command. -/
  usage : Action Nat :=
    fail ("Usage: kill [-s sigspec | -signum | -sigspec] [pid | job]... or\n".toList ++
      "kill -l [exitstatus]".toList)
  /-- Shows the names of signals. -/
  list (arguments : List Octets) : Action Nat := do
    match arguments with
    | [] =>
      let names := (List.range Signal.greatest).map fun n => Signal.name (n + 1) ++ ['\n']
      sayText (['0', '\n'] ++ names.flatten)
      return 0
    | argument :: _ =>
      let n ← natural argument
      let n := if 128 < n then n - 128 else n
      if 0 < n ∧ n ≤ Signal.greatest then
        sayText (Signal.name n ++ ['\n'])
        return 0
      else fail ("invalid signal number or exit status: ".toList ++ argument)
  sendAll (signal : Nat) (targets : List Octets) : Action Nat := do
    if targets.isEmpty then usage
    else
      let mut status := 0
      for target in targets do
        let found ←
          match target with
          | '%' :: _ => do
            let _ ← job (some target)
            pure false
          | '-' :: group => do
            let _ ← natural group
            pure false
          | target => do send signal (← natural target)
        if !found then
          warn "No such process\n".toList
          status := 1
      return status

/-! ## Processes in the background -/

/-- Says how a process ended, if a signal did it. -/
def tellEnding (ending : Ending) : Action Unit :=
  match ending with
  | .killed signal =>
    if Signal.isTold signal then print 2 (Signal.words signal ++ ['\n']) else return
  | .exited _ => return

/-- Takes note of processes in the background that have ended, up to one of them if that is told. -/
def reap (last : Option Nat) : Action Unit := do
  let m ← get
  let isMeant (job : Job) : Bool := job.ending.isNone && last.all (job.process ≤ ·)
  let jobs := m.jobs.map fun job =>
    if isMeant job then { job with ending := m.ended.lookup job.process } else job
  set { m with
    jobs
    ended := m.ended.filter fun (n, _) => !m.jobs.any fun job => job.process == n && isMeant job }

/-- The signal by which the shell may be called away from waiting. -/
def calling? : Action (Option Nat) := do
  let m ← get
  return (m.signals.find? fun (target, signal) =>
    target == m.number && signal != 17 && (m.action? signal).any (!·.isEmpty)).map (·.2)

/-- Waits for a process, and gives the status that it ended with. What can run is run by the first
argument. -/
def waitFor (runIdle : Action Unit) (job : Job) : Action (Except Nat Nat) := do
  let ending ← match job.ending with
    | some ending => pure ending
    | none =>
      runIdle
      match ← calling? with
      | some signal => return .error (128 + signal)
      | none => pure ()
      reap (some job.process)
      match (Job.ofProcess? (← get).jobs job.process).bind (·.ending) with
      | none => throw .exhausted
      | some ending =>
        tellEnding ending
        pure ending
  setProcess fun p => { p with jobs := Job.wait p.jobs job.process }
  return .ok ending.status

/-- Waits for processes, each of which may be named by its number or as a job. -/
def waitForAll (runIdle : Action Unit) (status : Nat) : List Octets → Action Nat
  | [] => return status
  | argument :: arguments => do
    let found ← match argument with
      | '%' :: _ => do pure (some (← job (some argument)))
      | digits => do
        let number ← natural digits
        pure (Job.ofProcess? (← get).jobs number)
    match found with
    | none => waitForAll runIdle status arguments
    | some job =>
      match ← waitFor runIdle job with
      | .error status => return status
      | .ok status => waitForAll runIdle status arguments

/-- Waits for processes, or for all of them. What can run is run by the first argument. -/
def wait (runIdle : Action Unit) (arguments : List Octets) : Action Nat := do
  let (_, arguments) ← flags "" arguments
  if !arguments.isEmpty then return ← waitForAll runIdle 127 arguments
  if (← get).jobs.any (·.ending.isNone) then
    runIdle
    match ← calling? with
    | some signal => return 128 + signal
    | none => pure ()
    reap none
    if (← get).jobs.any (·.ending.isNone) then throw .exhausted
  setProcess fun p => { p with jobs := p.jobs.map fun job => { job with waited := true } }
  return 0

/-- Shows jobs, of which those that are over are shown only once. -/
def showJobs (arguments : List Octets) : Action Nat := do
  let (found, names) ← flags "lp" arguments
  let mode := found.getLast?
  let showOne (job : Job) : Action Unit := do
    if mode = some 'p' then sayText (Text.ofNat (job.process - job.others) ++ ['\n'])
    else
      sayText (Job.line (← get).jobs mode.isSome job)
      if job.ending.isSome then
        setProcess fun p => { p with jobs := p.jobs.filter (·.number != job.number) }
  if names.isEmpty then
    reap none
    for job in (← get).jobs do showOne job
  else
    for name in names do showOne (← job (some name))
  return 0

/-- Would let a job go on, if there were a terminal to do that from. -/
def resume (arguments : List Octets) : Action Nat := do
  let (_, names) ← flags "" arguments
  let _ ← job names.head?
  fail ("job ".toList ++ (names.head?.getD "(null)".toList) ++
    " not created under job control".toList)

/-! ## Other things -/

/-- Shows the mask of new files, or sets it. -/
def mask (arguments : List Octets) : Action Nat := do
  let (found, rest) ← flags "S" arguments
  let mask := (← get).mask
  match rest with
  | [] =>
    if found.isEmpty then sayText ('0' :: padded 8 3 mask ++ ['\n'])
    else
      let rights (shift : Nat) : Octets :=
        let bits := 7 - mask / Nat.pow 8 shift % 8
        (if bits / 4 % 2 = 1 then ['r'] else []) ++ (if bits / 2 % 2 = 1 then ['w'] else []) ++
          (if bits % 2 = 1 then ['x'] else [])
      sayText ("u=".toList ++ rights 2 ++ ",g=".toList ++ rights 1 ++ ",o=".toList ++ rights 0 ++
        ['\n'])
    return 0
  | argument :: _ =>
    if !argument.head?.any Char.isDigit then
      match Mode.changeMask? mask argument with
      | none => fail ("Illegal mode: ".toList ++ argument)
      | some mask =>
        setProcess fun p => { p with mask }
        return 0
    else if argument.all isOctal then
      setProcess fun p => { p with mask := numeral 8 argument % 0o1000 }
      return 0
    else fail ("Illegal number: ".toList ++ argument)

/-- The place in which another name is shown among others. -/
def placeOf (name : Octets) : Nat :=
  name.foldl (fun n c => n + c.toNat) ((name.head?.map Char.toNat).getD 0 * 16) % 39

/-- Other names with one of them changed, or with a new one behind the others. -/
def putOtherName (name value : Octets) (aliases : List (Octets × Octets)) : List (Octets × Octets) :=
  if aliases.any (·.1 == name) then
    aliases.map fun (other, text) => if other = name then (name, value) else (other, text)
  else aliases ++ [(name, value)]

/-- Shows other names of commands, or sets them. A name may begin with an equals sign. -/
def otherName (arguments : List Octets) : Action Nat := do
  let line (name value : Octets) : Octets := name ++ '=' :: inQuotes value ++ ['\n']
  if arguments.isEmpty then
    for (name, value) in (← get).aliases.mergeSort fun a b => placeOf a.1 ≤ placeOf b.1 do
      sayText (line name value)
    return 0
  let mut status := 0
  for argument in arguments do
    let name := argument.take 1 ++ (argument.drop 1).takeWhile (· != '=')
    match argument.drop name.length with
    | _ :: value => setProcess fun p => { p with aliases := putOtherName name value p.aliases }
    | [] =>
      match (← get).aliases.lookup name with
      | some value => sayText (line name value)
      | none =>
        print 2 ("alias: ".toList ++ name ++ " not found\n".toList)
        status := 1
  return status

/-- Takes away other names of commands. -/
def dropOtherName (arguments : List Octets) : Action Nat := do
  let (all, names) ← flag 'a' arguments
  if all then
    setProcess fun p => { p with aliases := [] }
    return 0
  let mut status := 0
  for name in names do
    if ((← get).aliases.lookup name).isNone then
      print 2 ("unalias: ".toList ++ name ++ " not found\n".toList)
      status := 1
    setProcess fun p => { p with aliases := p.aliases.filter (·.1 != name) }
  return status

/-- Looks for programs and remembers where they lie, or shows those that were found. -/
def lookFor (arguments : List Octets) : Action Nat := do
  let (forgets, names) ← flag 'r' arguments
  if forgets then
    setProcess fun p => { p with tracked := [] }
    return 0
  if names.isEmpty then
    for t in (← get).tracked.mergeSort fun a b => a.place ≤ b.place do
      sayText (t.path ++ (if t.stale then ['*'] else []) ++ ['\n'])
  let mut status := 0
  for name in names do
    setProcess fun p => { p with tracked := p.tracked.filter (·.name != name) }
    match ← findTracked true name with
    | .missing fault =>
      warn (runFaultWords name fault)
      status := 1
    | _ => pure ()
  return status

end SkipChecks.Shell.Builtin
