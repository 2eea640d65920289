import SkipChecks.Shell.Command
import SkipChecks.Shell.Job
import SkipChecks.Shell.Number

/-!
# The machine that scripts run in

A machine holds what all processes share, which is the tree, what has been written, and what is open,
and the process that is running. A process that another one waits for runs to its end before the other
one goes on; one in the background runs when the others wait for something. What it has changed in the
shared part stays, and the rest is given back.
-/

namespace SkipChecks.Shell

/-- What can be read or written. -/
inductive Target
  | file (l : Location)
  | directory
  /-- Bytes that are kept by the machine: an output, or what goes through a pipe. -/
  | buffer (number : Nat)
  /-- Nothing to be read, and all that is written is lost. -/
  | nothing
  /-- Something that nothing can be written to, since it is full. -/
  | full
  deriving DecidableEq

/-- Bytes that were written and may be read. -/
structure Buffer where
  bytes : Bytes
  /-- How many bytes there may be before the one who writes has to wait. -/
  room : Option Nat
  /-- Whether more would come, if the one who writes had not to wait. -/
  isOpen : Bool

/-- A target that was opened, and the place in it. -/
structure Channel where
  target : Target
  place : Nat
  /-- Whether everything is written behind the end. -/
  atEnd : Bool
  reads : Bool
  writes : Bool

/-- A variable. One without a value may still be exported. -/
structure Variable where
  value : Option Octets
  exported : Bool
  readOnly : Bool

/-- Where a process goes on, if not with the next command. -/
inductive Leaving
  | no
  /-- Behind so many loops. -/
  | loops (count : Nat)
  /-- With the next turn of the loop so many loops around. -/
  | turns (count : Nat)
  /-- Behind the function or the script, maybe with a status that was given. -/
  | function (given : Bool)
  deriving DecidableEq, Repr

/-- What a function keeps for itself: variables and options as they were before it changed them. -/
structure Scope where
  bindings : List (Octets × Option Variable)
  options : Option (List Char)

/-- A program that was found under a name. -/
structure Tracked where
  name : Octets
  path : Octets
  /-- Whether the working directory has changed since. -/
  stale : Bool
  deriving DecidableEq, Repr

/-- A running shell. -/
structure Process where
  number : Nat
  /-- The number of the shell that the script was started in. -/
  shell : Nat
  /-- The numbers of the processes that wait for this one. -/
  waiting : List Nat
  name : Octets
  /-- The command that is named in complaints. -/
  command : Option Octets
  line : Nat
  status : Nat
  /-- The letters of the options that are set. -/
  options : List Char
  parameters : List Octets
  bindings : List (Octets × Variable)
  /-- What running functions keep for themselves, innermost function first. -/
  scopes : List Scope
  functions : List (Octets × Command)
  /-- Other names of commands. -/
  aliases : List (Octets × Octets)
  /-- The channels of streams. -/
  streams : List (Nat × Nat)
  directory : Octets
  /-- What is done at signals, and at the end under the number 0. -/
  traps : List (Nat × Octets)
  /-- Signals that are not heard, whatever is to be done at them. -/
  deaf : List Nat
  loops : Nat
  leaving : Leaving
  /-- The last process in the background, and the jobs of all. -/
  background : Option Nat
  jobs : List Job
  /-- The programs that were found before. -/
  tracked : List Tracked
  /-- How the last substitution of a command ended. -/
  substituted : Nat
  documents : List (Nat × Word)
  nextDocument : Nat
  mask : Nat
  /-- The argument in which the next option is looked for, and the place behind the last one in the
  argument before it, if there may be more of them. -/
  optionIndex : Nat
  optionPlace : Option Nat
  /-- The status that a trap was entered with. -/
  trapped : Option Nat
  /-- Why something that a command printed could not be written. -/
  unwritten : Option Octets
  /-- How many functions are running that have called each other. -/
  depth : Nat
  /-- How many texts are being run as scripts, each of them by a command in the one before it. -/
  nesting : Nat
  /-- Whether what stands in front of a command that is shown is being put together, which shows no
  commands itself. -/
  isShowing : Bool

/-- What is done at a signal, if anything is said about that. Some cannot be changed. -/
def Process.action? (p : Process) (signal : Nat) : Option Octets :=
  if signal = 9 ∨ signal = 19 then none
  else if p.deaf.any (· == signal) then some []
  else p.traps.lookup signal

/-- A process in the background that has not begun to run, with what it is to do. -/
structure Idle where
  process : Process
  command : Command

/-- What all processes share. -/
structure Shared where
  tree : Tree
  buffers : Array Buffer
  channels : Array Channel
  /-- The number of the next process. -/
  nextNumber : Nat
  /-- Signals that were sent to processes. -/
  signals : List (Nat × Nat)
  /-- Processes in the background: those that have not begun to run, those that go on for ever, and those
  that have ended without anyone knowing. -/
  idle : List Idle
  endless : List Process
  ended : List (Nat × Ending)
  /-- How many commands may still be run. -/
  patience : Nat

/-- The machine. -/
structure Machine extends Shared, Process

/-- Why a process stops in the middle of a command. -/
inductive Stop
  /-- Something failed and was complained about. -/
  | failure
  /-- It ends with its status. -/
  | finish
  | killed (signal : Nat)
  /-- It waits for a buffer to be read or written by another process. -/
  | stuck (buffer : Nat)
  /-- It took too many steps. -/
  | exhausted
  deriving DecidableEq, Repr

/-- What a process does. The machine stays even if the process stops. -/
abbrev Action := ExceptT Stop (StateM Machine)

namespace Action

def setProcess (f : Process → Process) : Action Unit :=
  modify fun m => { m with toProcess := f m.toProcess }

def setStatus (status : Nat) : Action Unit := modify fun m => { m with status }

/-- Does something and goes on in any case, with what stopped it. -/
def attempt {α : Type} (action : Action α) : Action (Except Stop α) := fun m =>
  match action m with
  | (result, m) => (.ok result, m)

def hasOption (letter : Char) : Action Bool := return (← get).options.any (· == letter)

/-! ## Streams -/

def addChannel (channel : Channel) : Action Nat := do
  let m ← get
  set { m with channels := m.channels.push channel }
  return m.channels.size

def addBuffer (bytes : Bytes) (room : Option Nat) : Action Nat := do
  let m ← get
  set { m with buffers := m.buffers.push ⟨bytes, room, false⟩ }
  return m.buffers.size

/-- The channel of a stream, with its number. -/
def channel? (stream : Nat) : Action (Option (Nat × Channel)) := do
  let m ← get
  return (m.streams.lookup stream).bind fun n => m.channels[n]?.map fun channel => (n, channel)

/-- Lets a stream be a channel, or closes it. -/
def setStream (stream : Nat) (channel : Option Nat) : Action Unit :=
  setProcess fun p =>
    let others := p.streams.filter (·.1 != stream)
    { p with
      streams := match channel with
        | some n => (stream, n) :: others
        | none => others }

def setChannel (number : Nat) (channel : Channel) : Action Unit :=
  modify fun m => { m with channels := m.channels.setIfInBounds number channel }

/-- The bytes of a target. -/
def contents (m : Machine) : Target → Bytes
  | .file l =>
    match m.tree.find? l with
    | some (.file content) => content
    | _ => .empty
  | .buffer n => (m.buffers[n]?.map (·.bytes)).getD .empty
  | .directory | .nothing | .full => .empty

/-- Bytes with others put in at a place. -/
def overwrite (bytes : Bytes) (place : Nat) (new : Bytes) : Bytes :=
  let front := bytes.extract 0 place
  let filling := ⟨Array.replicate (place - bytes.size) 0⟩
  front ++ filling ++ new ++ bytes.extract (place + new.size) bytes.size

/-- What is said where a stream cannot be read or written. -/
def badStream : Octets := "Bad file descriptor".toList

/-- Writes bytes to a stream, or tells why it cannot be written to. Nobody reads a buffer while a process
writes it, so that the process is stuck when there is no more room. -/
def write (stream : Nat) (bytes : Bytes) : Action (Option Octets) := do
  match ← channel? stream with
  | none => return some badStream
  | some (number, channel) =>
    if !channel.writes then return some badStream
    match channel.target with
    | .buffer n =>
      modify fun m =>
        { m with buffers := m.buffers.modify n fun b => { b with bytes := b.bytes ++ bytes } }
      let m ← get
      match m.buffers[n]? with
      | some ⟨bytes, some room, _⟩ => if room < bytes.size then throw (.stuck n)
      | _ => pure ()
      return none
    | .file l =>
      if bytes.isEmpty then return none
      let content := contents (← get) (.file l)
      let place := if channel.atEnd then content.size else channel.place
      modify fun m => { m with tree := m.tree.put l (.file (overwrite content place bytes)) }
      setChannel number { channel with place := place + bytes.size }
      return none
    | .directory => return some badStream
    | .full => return if bytes.isEmpty then none else some "No space left on device".toList
    | .nothing => return none

/-- Writes a text to a stream. -/
def print (stream : Nat) (s : Octets) : Action Unit := do
  let _ ← write stream (Octets.toBytes s)

/-- Writes bytes to the standard output, and takes note if they cannot be written. -/
def say (bytes : Bytes) : Action Unit := do
  if !bytes.isEmpty then
    match ← write 1 bytes with
    | none => return
    | unwritten => setProcess fun p => { p with unwritten }

/-- Writes a text to the standard output, and takes note if it cannot be written. -/
def sayText (s : Octets) : Action Unit := say (Octets.toBytes s)

/-- Waits at the end of what a channel leads to, if more would come. -/
def awaitMore (channel : Channel) : Action Unit := do
  match channel.target with
  | .buffer n => if (← get).buffers[n]?.any (·.isOpen) then throw (.stuck n)
  | _ => return

/-- Reads the next byte of a stream. -/
def readByte (stream : Nat) : Action (Option Char) := do
  match ← channel? stream with
  | none => return none
  | some (number, channel) =>
    if !channel.reads then return none
    match (contents (← get) channel.target)[channel.place]? with
    | none =>
      awaitMore channel
      return none
    | some b =>
      setChannel number { channel with place := channel.place + 1 }
      return some (Octets.ofByte b)

/-! ## Complaints -/

/-- What complaints begin with. -/
def complaintFront (p : Process) : Octets :=
  p.name ++ ": ".toList ++ Text.ofNat p.line ++ ": ".toList ++
    match p.command with
    | some command => command ++ ": ".toList
    | none => []

def warn (words : Octets) : Action Unit := do
  print 2 (complaintFront (← get).toProcess ++ words ++ ['\n'])

/-- Complains and stops. -/
def fail {α : Type} (words : Octets) : Action α := do
  warn words
  setStatus 2
  throw .failure

/-- The number that a text is, which must not be negative. -/
def natural (s : Octets) : Action Nat :=
  match Number.value? (some 10) s with
  | some n => if 0 ≤ n ∧ n < Int.pow 2 31 then return n.toNat else fail ("Illegal number: ".toList ++ s)
  | none => fail ("Illegal number: ".toList ++ s)

/-! ## Variables -/

def value? (name : Octets) : Action (Option Octets) :=
  return ((← get).bindings.lookup name).bind (·.value)

/-- The name of a variable in an argument, behind which an equals sign and anything else may stand. -/
def nameIn (argument : Octets) : Action Octets :=
  let name := argument.takeWhile (· != '=')
  if isName name then return name else fail (name ++ ": bad variable name".toList)

/-- Puts a variable in place of the one of its name. -/
def putVariable (name : Octets) (v : Option Variable) : Action Unit :=
  setProcess fun p =>
    let others := p.bindings.filter (·.1 != name)
    { p with
      bindings := match v with
        | some v => (name, v) :: others
        | none => others }

/-- Changes a variable, which must not be read-only. -/
def changeVariable (name : Octets) (f : Variable → Variable) : Action Unit := do
  let v := ((← get).bindings.lookup name).getD ⟨none, false, false⟩
  if v.readOnly then fail (name ++ ": is read only".toList)
  putVariable name (some (f v))

/-- Forgets where programs were found if the variable that says where they lie has changed. -/
def forgetPrograms (name : Octets) : Action Unit :=
  if name = "PATH".toList then setProcess fun p => { p with tracked := [] } else return

/-- Checks that a variable can be changed, and does what follows from its new value. -/
def prepare (name value : Octets) : Action Unit := do
  if ((← get).bindings.lookup name).any (·.readOnly) then fail (name ++ ": is read only".toList)
  if name = "OPTIND".toList then
    let n ← natural value
    setProcess fun p => { p with optionIndex := max n 1, optionPlace := none }
  forgetPrograms name

def setVariable (name value : Octets) : Action Unit := do
  let all ← hasOption 'a'
  prepare name value
  changeVariable name fun v => { v with value := some value, exported := v.exported || all }

def removeVariable (name : Octets) : Action Unit := do
  prepare name []
  putVariable name none

/-- Keeps a variable so that it can be given back at the end of the innermost scope. -/
def saveVariable (name : Octets) : Action Unit := do
  let m ← get
  match m.scopes with
  | [] => return
  | scope :: scopes =>
    if !scope.bindings.any (·.1 == name) then
      let bindings := (name, m.bindings.lookup name) :: scope.bindings
      set { m with scopes := { scope with bindings } :: scopes }

/-- Keeps the options so that they can be given back at the end of the innermost scope. -/
def saveOptions : Action Unit :=
  setProcess fun p =>
    match p.scopes with
    | [] => p
    | scope :: scopes =>
      { p with scopes := { scope with options := scope.options <|> some p.options } :: scopes }

/-- Gives back what the innermost scopes keep, so that so many are left. The first argument bounds the
number of scopes. -/
def leaveScopes (left : Nat) : Nat → Action Unit
  | 0 => return
  | bound + 1 => do
    let m ← get
    match m.scopes with
    | [] => return
    | scope :: scopes =>
      if m.scopes.length ≤ left then return
      set { m with scopes, options := scope.options.getD m.options }
      for (name, v) in scope.bindings do
        putVariable name v
        if v.isNone then let _ ← nameIn name
        forgetPrograms name
      leaveScopes left bound

/-- Does something in a scope of its own. A process that ends in it ends with the variables and options
of the scope. -/
def inScope {α : Type} (action : Action α) : Action α := do
  let depth := (← get).scopes.length
  setProcess fun p => { p with scopes := ⟨[], none⟩ :: p.scopes }
  let result ← action
  leaveScopes depth (← get).scopes.length
  return result

/-- Does something and gives some streams back in any case. -/
def withStreams {α : Type} (changed : List Nat) (action : Action α) : Action α := do
  let before := (← get).streams
  let result ← attempt action
  for stream in changed do setStream stream (before.lookup stream)
  MonadExcept.ofExcept result

end Action

end SkipChecks.Shell
