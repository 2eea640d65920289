import SkipChecks.Shell.Choice
import SkipChecks.Shell.Process

/-!
# Running scripts

How commands are run. A process runs commands one after the other until it ends, is killed, or fails in a
way that it does not outlive. Programs and parts of scripts that keep everything to themselves run in
processes of their own. The first argument of what runs a command bounds the number of steps.
-/

namespace SkipChecks.Shell.Run

open Action

/-- How a command stands among others. -/
structure Course where
  /-- Whether its status is looked at, so that a failure ends nothing. -/
  tested : Bool
  /-- Whether the process ends behind it. -/
  isLast : Bool

/-- What may be done behind a turn of a loop. -/
inductive Turn
  | next
  /-- On with the next turn, without the rest of this one. -/
  | again
  | over
  | left (given : Bool)
  deriving DecidableEq

/-- Finds out what is to be done behind a turn of a loop. -/
def afterTurn : Action Turn := do
  match (← get).leaving with
  | .no => return .next
  | .loops n =>
    setProcess fun p => { p with leaving := if n ≤ 1 then .no else .loops (n - 1) }
    return .over
  | .turns n =>
    setProcess fun p => { p with leaving := if n ≤ 1 then .no else .turns (n - 1) }
    return if n ≤ 1 then .again else .over
  | .function given => return .left given

def scriptText (channel : Channel) : Action Octets := do
  let m ← get
  let bytes := contents m channel.target
  return (Octets.ofBytes (bytes.extract channel.place bytes.size)).filter (· != '\x00')

/-- Opens a script, or says why it cannot. -/
def openScript (path : Octets) : Action Channel := do
  match ← openInput path with
  | .ok channel => return channel
  | .error fault => fail ("cannot open ".toList ++ path ++ ": ".toList ++ faultWords "No such file" fault)

/-- The path of a script that is run in the shell itself. -/
def findScript : List Octets → Action (Option Octets)
  | [] => return none
  | path :: paths => do
    match ← kind? path with
    | some .file | some .program => return some path
    | _ => findScript paths

/-- How many texts may be run as scripts, each of them by a command in the one before it. There is no room
for more of them. -/
def deepestText : Nat := 4000

/-- Does something with a text that is run as a script, unless that goes too deep. -/
def inText (action : Action Nat) : Action Nat := do
  let nesting := (← get).nesting
  if deepestText ≤ nesting then throw (.killed 11)
  setProcess fun p => { p with nesting := nesting + 1 }
  let result ← attempt action
  setProcess fun p => { p with nesting }
  MonadExcept.ofExcept result

/-- How many functions may be running that have called each other. -/
def deepest : Nat := 1000

/-- How many bytes there may be in a pipe before the one who writes has to wait. -/
def pipeRoom : Nat := 65536

/-- How many commands a process in the background may run before others go on without it. -/
def backgroundPatience : Nat := 20000

mutual

/-- Does what is to be done at signals that have come. -/
def deliver : Nat → Action Unit
  | 0 => throw .exhausted
  | fuel + 1 => do
    let m ← get
    match m.signals.find? (·.1 == m.number) with
    | none => return
    | some (number, signal) =>
      let caught := { m with signals := m.signals.erase (number, signal) }
      match m.action? signal with
      | some [] =>
        set caught
        deliver fuel
      | some action =>
        if m.leaving ≠ .no then return
        set { caught with trapped := some (m.trapped.getD m.status) }
        let _ ← inText <| lines fuel false ⟨false, false⟩ (.ofText action m.nextDocument) 0
        setProcess fun p =>
          { p with
            trapped := m.trapped
            status := if p.leaving = .function true then p.status else m.trapped.getD m.status }
        deliver fuel
      | none =>
        set caught
        if Signal.isHarmless signal then deliver fuel else throw (.killed signal)

/-- Ends a process: does what is to be done at the end, and tells how it ended. -/
def close : Nat → Except Stop Nat → Action Ending
  | _, .error (.killed signal) => return .killed signal
  | 0, _ => throw .exhausted
  | _, .error .exhausted => throw .exhausted
  | _, .error (.stuck buffer) => throw (.stuck buffer)
  | fuel + 1, _ => do
    let m ← get
    match m.traps.lookup 0 with
    | some (c :: action) =>
      set { m with
        traps := m.traps.filter (·.1 != 0), leaving := .no, trapped := some m.status
        command := none }
      match ← attempt (lines fuel false ⟨false, false⟩ (.ofText (c :: action) m.nextDocument) 0) with
      | .ok _ => return .exited (UInt8.ofNat m.status)
      | .error (.killed signal) => return .killed signal
      | .error .exhausted => throw .exhausted
      | .error (.stuck buffer) => throw (.stuck buffer)
      | .error _ => return .exited (UInt8.ofNat (← get).status)
    | _ => return .exited (UInt8.ofNat m.status)

/-- Lets a process in the background run until it ends. If that takes too long, or if it waits for
something, then it is kept among those that go on for ever. -/
def goOn : Nat → Process → Action Nat → Action Unit
  | 0, _, _ => throw .exhausted
  | fuel + 1, process, body => do
    let m ← get
    let patience := min m.patience backgroundPatience
    set { m with toProcess := process, patience }
    let result ← attempt do close fuel (← attempt body)
    modify fun after =>
      let left := m.patience - (patience - after.patience)
      match result with
      | .ok ending =>
        { after with
          toProcess := m.toProcess, patience := left
          ended := (process.number, ending) :: after.ended }
      | .error _ =>
        { after with
          toProcess := m.toProcess, patience := left
          endless := { after.toProcess with leaving := .no } :: after.endless }
    if result.isOk && process.waiting.head? == some m.number then noteChild

/-- Lets processes in the background run, first those that have not begun to, and then those that have
been sent a signal. -/
def runIdle : Nat → Action Unit
  | 0 => throw .exhausted
  | fuel + 1 => do
    let m ← get
    match m.idle with
    | idle :: others =>
      set { m with idle := others }
      goOn fuel idle.process (evaluate fuel ⟨false, true⟩ idle.command)
      runIdle fuel
    | [] =>
      match m.endless.find? fun p => m.signals.any (·.1 == p.number) with
      | none => return
      | some p =>
        set { m with endless := m.endless.filter (·.number != p.number) }
        goOn fuel p do
          deliver fuel
          throw .exhausted
        runIdle fuel

/-- Ends a command with a status, and maybe the process. -/
def settle : Nat → Course → Bool → Nat → Action Nat
  | 0, _, _, _ => throw .exhausted
  | fuel + 1, course, isChecked, status => do
    setStatus status
    if isChecked && !course.tested && status != 0 && (← hasOption 'e') then throw .finish
    leave fuel course

/-- Leaves a command, and maybe the process. -/
def leave : Nat → Course → Action Nat
  | 0, _ => throw .exhausted
  | fuel + 1, course => do
    if !(← get).signals.isEmpty then deliver fuel
    if course.isLast then throw .finish
    return (← get).status

/-- Runs the lines of a script. Between lines of a file, functions may be left; the text of a command
leaves that to what is around it. -/
def lines : Nat → Bool → Course → Script → Nat → Action Nat
  | 0, _, _, _, _ => throw .exhausted
  | fuel + 1, isFile, course, script, status => do
    let m ← get
    let script := { script with
      next := max script.next m.nextDocument, documents := [], aliases := m.aliases }
    match script.nextLine with
    | .error fault =>
      setProcess fun p => { p with line := fault.line }
      fail fault.words
    | .ok (line, rest) =>
      setProcess fun p =>
        { p with documents := rest.documents ++ p.documents, nextDocument := rest.next }
      if isFile && (← hasOption 'v') then
        print 2 (script.own.take (script.own.length - rest.own.length))
      match line with
      | .ended => return status
      | .commands none _ => lines fuel isFile course rest status
      | .commands (some command) isLast =>
        let status ← evaluate fuel ⟨course.tested, course.isLast && isLast⟩ command
        if (← get).leaving = .no then lines fuel isFile course rest status
        else
          if isFile then
            setProcess fun p =>
              { p with
                leaving := match p.leaving with
                  | .function _ => .no
                  | leaving => leaving }
          return status

/-- Runs a command, and gives its status. -/
def evaluate : Nat → Course → Command → Action Nat
  | 0, _, _ => throw .exhausted
  | fuel + 1, course, command => do
    let patience := (← get).patience
    if patience = 0 then throw .exhausted
    modify fun m => { m with patience := patience - 1 }
    if ← hasOption 'n' then
      if course.isLast then throw .finish
      return (← get).status
    if !(← get).signals.isEmpty then deliver fuel
    let within : Course := ⟨course.tested, false⟩
    let looked : Course := ⟨true, false⟩
    match command with
    | .simple line assignments words redirections =>
      let status ← simple fuel course line assignments words redirections
      settle fuel course true status
    | .sequence first second =>
      let _ ← evaluate fuel within first
      if (← get).leaving ≠ .no then leave fuel course
      else evaluate fuel course second
    | .both first second =>
      let status ← evaluate fuel looked first
      if status ≠ 0 ∨ (← get).leaving ≠ .no then leave fuel course
      else evaluate fuel course second
    | .either first second =>
      let status ← evaluate fuel looked first
      if status = 0 ∨ (← get).leaving ≠ .no then leave fuel course
      else evaluate fuel course second
    | .negation command =>
      let status ← evaluate fuel looked command
      let status := if (← get).leaving ≠ .no then status else if status = 0 then 1 else 0
      settle fuel course false status
    | .pipe commands => settle fuel course true (← pipe fuel course pipeRoom commands)
    | .background line command =>
      setProcess fun p => { p with line }
      putAside command
      settle fuel course true 0
    | .redirected line body redirections =>
      setProcess fun p => { p with line }
      let pointings ← redirections.mapM (Pointing.ofRedirection (substitute fuel))
      let (failed, status) ← withStreams (redirections.map (·.stream)) do
        match ← attempt (Pointing.applyAll (substitute fuel) true pointings) with
        | .ok () => do return (false, ← evaluate fuel within body)
        | .error .failure => return (true, 2)
        | .error stop => throw stop
      settle fuel course failed status
    | .apart line body redirections =>
      setProcess fun p => { p with line }
      let pointings ← redirections.mapM (Pointing.ofRedirection (substitute fuel))
      let inside : Action Nat := do
        Pointing.applyAll (substitute fuel) false pointings
        evaluate fuel ⟨course.tested, true⟩ body
      if course.isLast && !(← hasTraps) then inside
      else
        let ending ← fork (runIdle fuel) (close fuel) inside
        Builtin.tellEnding ending
        settle fuel course true ending.status
    | .condition test yes no =>
      let status ← evaluate fuel looked test
      if (← get).leaving ≠ .no then leave fuel course
      else if status = 0 then evaluate fuel course yes
      else
        match no with
        | some no => evaluate fuel course no
        | none => settle fuel course false 0
    | .loop goesOn test body =>
      setProcess fun p => { p with loops := p.loops + 1 }
      let status ← turns fuel within goesOn test body 0
      setProcess fun p => { p with loops := p.loops - 1 }
      settle fuel course false status
    | .each line name words body =>
      setProcess fun p => { p with line }
      let fields ← words.mapM (Expansion.fields (substitute fuel))
      setProcess fun p => { p with loops := p.loops + 1 }
      let status ← turnsOver fuel within name body 0 fields.flatten
      setProcess fun p => { p with loops := p.loops - 1 }
      settle fuel course false status
    | .choice line subject cases =>
      setProcess fun p => { p with line }
      let subject ← Expansion.text (substitute fuel) .here subject
      match ← firstCase fuel subject cases with
      | some body => evaluate fuel course body
      | none => settle fuel course false 0
    | .define name body =>
      setProcess fun p =>
        { p with
          functions := (name, body) :: p.functions.filter (·.1 != name)
          tracked := p.tracked.filter (·.name != name) }
      settle fuel course false 0

/-- What is done in the first of the cases that fits a text. -/
def firstCase : Nat → Octets → List Case → Action (Option Command)
  | 0, _, _ => throw .exhausted
  | _, _, [] => return none
  | fuel + 1, subject, .mk patterns body :: cases => do
    if ← anyPattern fuel subject patterns then return body
    firstCase fuel subject cases

/-- Whether one of some patterns fits a text. -/
def anyPattern : Nat → Octets → List Word → Action Bool
  | 0, _, _ => throw .exhausted
  | _, _, [] => return false
  | fuel + 1, subject, word :: words => do
    if Glob.matchesText (← Expansion.pattern (substitute fuel) word) subject then return true
    anyPattern fuel subject words

/-- Runs the turns of a loop. -/
def turns : Nat → Course → Bool → Command → Command → Nat → Action Nat
  | 0, _, _, _, _, _ => throw .exhausted
  | fuel + 1, course, goesOn, test, body, status => do
    let tested ← evaluate fuel ⟨true, false⟩ test
    match ← afterTurn with
    | .over | .left false => return status
    | .left true => return tested
    | .again => turns fuel course goesOn test body status
    | .next =>
      if (tested == 0) != goesOn then return status
      let status ← evaluate fuel course body
      let turn ← afterTurn
      if turn = .next ∨ turn = .again then turns fuel course goesOn test body status
      else return status

/-- Runs the turns of a loop over fields. -/
def turnsOver : Nat → Course → Octets → Command → Nat → List Octets → Action Nat
  | 0, _, _, _, _, _ => throw .exhausted
  | _, _, _, _, status, [] => return status
  | fuel + 1, course, name, body, _, field :: fields => do
    setVariable name field
    let status ← evaluate fuel course body
    let turn ← afterTurn
    if turn = .next ∨ turn = .again then turnsOver fuel course name body status fields
    else return status

/-- Runs the commands of a pipe, with so much room in the buffers between them. If the last one waits for
more than there is room for, then all is done again with more room. -/
def pipe : Nat → Course → Nat → List Command → Action Nat
  | 0, _, _, _ => throw .exhausted
  | fuel + 1, course, room, commands => do
    let before ← get
    match ← stages fuel course room commands none with
    | some status => return status
    | none =>
      set before
      pipe fuel course (4 * room) commands

/-- Runs commands that read what the one before them has written, of which the first one reads from a buffer
if there is one. A command that has to wait is left, but not the last one, so that there is no
status. -/
def stages : Nat → Course → Nat → List Command → Option Nat → Action (Option Nat)
  | 0, _, _, _, _ => throw .exhausted
  | _, _, _, [], _ => return some 0
  | fuel + 1, course, room, command :: commands, input => do
    foresee command
    let buffer ← addBuffer .empty (some room)
    let ending ← attempt <| fork (runIdle fuel) (close fuel) do
      match input with
      | some n => setStream 0 (some (← addChannel ⟨.buffer n, 0, false, true, false⟩))
      | none => pure ()
      if !commands.isEmpty then
        setStream 1 (some (← addChannel ⟨.buffer buffer, 0, true, false, true⟩))
      evaluate fuel ⟨course.tested, true⟩ command
    match ending with
    | .ok ending =>
      Builtin.tellEnding ending
      if commands.isEmpty then return some ending.status
    | .error (.stuck n) =>
      if n ≠ buffer ∧ input ≠ some n then throw (.stuck n)
      if commands.isEmpty then return none
      modify fun m =>
        { m with buffers := m.buffers.modify buffer fun b => { b with isOpen := true } }
    | .error stop => throw stop
    stages fuel course room commands (some buffer)

/-- The output of a command that is put into a word. -/
def substitute : Nat → Option Command → Action Octets
  | 0, _ => throw .exhausted
  | _, none => return []
  | fuel + 1, some command => do
    let buffer ← addBuffer .empty none
    let output ← addChannel ⟨.buffer buffer, 0, true, false, true⟩
    let ending ← fork (runIdle fuel) (close fuel) do
      setStream 1 (some output)
      evaluate fuel ⟨false, true⟩ command
    Builtin.tellEnding ending
    setProcess fun p => { p with substituted := ending.status }
    let bytes := contents (← get) (.buffer buffer)
    modify fun m => { m with buffers := m.buffers.setIfInBounds buffer ⟨.empty, none, false⟩ }
    return (Octets.ofBytes bytes).filter (· != '\x00')

/-- Runs a simple command, and gives its status. -/
def simple : Nat → Course → Nat → List Word → List Word → List Redirection → Action Nat
  | 0, _, _, _, _, _ => throw .exhausted
  | fuel + 1, course, line, assignments, words, redirections => do
    setProcess fun p => { p with line, substituted := 0 }
    let run := substitute fuel
    let (fields, words) ← firstFields run words
    let choice ← Choice.settle run (words.length + fields.length + 1)
      ⟨[], fields, words, none, none, false, true, none⟩
    let fields ← choice.allFields run
    let failed : Action Nat :=
      if choice.special = some true then throw .failure else return 2
    let body : Action Nat := do
      let diagnostics := (← get).streams.lookup 2
      let pointings ← redirections.mapM (Pointing.ofRedirection run)
      match ← attempt (Pointing.applyAll run true pointings) with
      | .error .failure => failed
      | .error stop => throw stop
      | .ok () =>
        let exported := choice.isScoped || (choice.replaces && 1 < fields.length)
        let set ← assignments.mapM (assign run choice.isScoped exported)
        trace run diagnostics (set ++ choice.front ++ fields)
        match choice.found, fields with
        | none, _ | _, [] => return (← get).substituted
        | some (.builtin builtin), name :: arguments =>
          runBuiltin fuel course choice builtin name arguments
        | some _, name :: arguments =>
          let found ← match choice.directories with
            | some directories => findCommand choice.withFunctions directories name
            | none => findTracked choice.withFunctions name
          match found with
          | .function body => call fuel course body arguments
          | .builtin builtin => runBuiltin fuel course choice builtin name arguments
          | .path => program fuel course [name] name arguments
          | .program path => program fuel course [path] name arguments
          | .missing fault =>
            warn (runFaultWords name fault)
            return 127
    let redirected : Action Nat := 
      if choice.replaces then body else withStreams (redirections.map (·.stream)) body
    if choice.isScoped then inScope redirected else redirected

/-- Runs a program in a process of its own, unless the process ends behind it. -/
def program : Nat → Course → List Octets → Octets → List Octets → Action Nat
  | 0, _, _, _, _ => throw .exhausted
  | fuel + 1, course, paths, name, arguments => do
    if course.isLast && !(← hasTraps) then become fuel paths name arguments
    else
      let ending ← fork (runIdle fuel) (close fuel) (become fuel paths name arguments)
      Builtin.tellEnding ending
      return ending.status

def call : Nat → Course → Command → List Octets → Action Nat
  | 0, _, _, _ => throw .exhausted
  | fuel + 1, course, body, arguments => do
    let m ← get
    if deepest ≤ m.depth then
      fail ("Maximum function recursion depth (".toList ++ Text.ofNat deepest ++ ") reached".toList)
    setProcess fun p =>
      { p with
        parameters := arguments, loops := 0, optionIndex := 1, optionPlace := none
        depth := m.depth + 1 }
    let result ← attempt (evaluate fuel ⟨course.tested, false⟩ body)
    setProcess fun p =>
      { p with
        parameters := m.parameters, loops := m.loops, optionIndex := m.optionIndex
        optionPlace := m.optionPlace, depth := m.depth }
    let _ ← MonadExcept.ofExcept result
    setProcess fun p =>
      { p with
        leaving := match p.leaving with
          | .function _ => .no
          | leaving => leaving }
    return (← get).status

/-- Runs a command of the shell. A fault ends the shell only if the command is a special one. -/
def runBuiltin : Nat → Course → Choice → Builtin → Octets → List Octets → Action Nat
  | 0, _, _, _, _, _ => throw .exhausted
  | fuel + 1, course, choice, builtin, name, arguments => do
    let before := (← get).command
    setProcess fun p => { p with command := some name, unwritten := none }
    let action : Action Nat :=
      match builtin.name with
      | "eval" => do
        if arguments.isEmpty then return 0
        let s := Text.join [' '] arguments
        inText do lines fuel false ⟨course.tested, false⟩ (.ofText s (← get).nextDocument) 0
      | "exec" => do
        if arguments.isEmpty then return 0
        let target := arguments.headD []
        let directories ← searchPath
        let paths := if target.any (· == '/') then [target] else candidates directories target
        become fuel paths target (arguments.drop 1)
      | "." => source fuel arguments
      | "wait" => Builtin.wait (runIdle fuel) arguments
      | other => Builtin.action other arguments
    let result ← attempt do
      let status ← action
      if (← get).unwritten.isSome then
        warn (name ++ ": I/O error".toList)
        return status ||| 1
      return status
    setProcess fun p => { p with command := before, unwritten := none }
    match result with
    | .ok status =>
      setStatus status
      return status
    | .error .failure =>
      if choice.special = some true then throw .failure else return (← get).status
    | .error stop => throw stop

/-- Runs a script in the shell itself. -/
def source : Nat → List Octets → Action Nat
  | 0, _ => throw .exhausted
  | fuel + 1, arguments => do
    let (_, arguments) ← Builtin.flags "" arguments
    match arguments with
    | [] => return 0
    | name :: _ =>
      let found ←
        if name.any (· == '/') then pure (some name)
        else findScript (candidates (← searchPath) name)
      match found with
      | none => fail (name ++ ": not found".toList)
      | some path =>
        let s ← scriptText (← openScript path)
        setProcess fun p => { p with command := some path }
        inText do lines fuel true ⟨false, false⟩ (.ofText s (← get).nextDocument) 0

/-- Goes on as a program that lies at one of some paths, which ends the process. -/
def become : Nat → List Octets → Octets → List Octets → Action Nat
  | 0, _, _, _ => throw .exhausted
  | fuel + 1, paths, name, arguments => do
    let found ← findProgram .notFound paths
    match if arguments.any isTooLong then found.bind fun _ => .error .argumentsTooLong else found with
    | .error fault =>
      setStatus (if fault = .notFound ∨ fault = .nameTooLong then 127 else 126)
      warn (runFaultWords name fault)
      throw .finish
    | .ok path =>
      let last := ((← spot path).toOption.bind List.getLast?).getD []
      let own := String.ofList last
      match tool? own with
      | some tool =>
        setProcess fun p => { p with traps := silent p.traps, unwritten := none }
        setStatus (← tool name arguments)
        throw .finish
      | none =>
        setProcess fun p => fresh p name
        let result ← attempt (start fuel arguments)
        match ← close fuel result with
        | .killed signal => throw (.killed signal)
        | .exited status =>
          setProcess fun p => { p with traps := silent p.traps, status := status.toNat }
          throw .finish

/-- Starts a shell with arguments. -/
def start : Nat → List Octets → Action Nat
  | 0, _ => throw .exhausted
  | fuel + 1, arguments => do
    let (hasScript, rest) ← shellOptions (arguments.length + 1) false arguments
    if rest.isEmpty then
      if hasScript then fail "-c requires an argument".toList
      Builtin.setOption 's' true
    let readsInput ← hasOption 's'
    if hasScript then
      match rest.drop 1 with
      | name :: parameters => setProcess fun p => { p with name, parameters }
      | [] => pure ()
      let _ ← lines fuel false ⟨false, false⟩ (.ofText (rest.headD []) 0) 0
    else if !readsInput then
      let s ← scriptText (← openScript (rest.headD []))
      setProcess fun p => { p with name := rest.headD [], parameters := rest.drop 1 }
      let _ ← lines fuel true ⟨false, false⟩ (.ofText s 0) 0
    else setProcess fun p => { p with parameters := rest }
    if readsInput then
      match ← channel? 0 with
      | some (number, channel) =>
        if channel.reads then
          let s ← scriptText channel
          let size := (contents (← get) channel.target).size
          setChannel number { channel with place := max channel.place size }
          let _ ← lines fuel true ⟨false, false⟩ (.ofText s (← get).nextDocument) 0
      | none => pure ()
    return (← get).status

end

end SkipChecks.Shell.Run
