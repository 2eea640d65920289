import SkipChecks.Shell.Builtin.Basic

/-!
# Where commands are found

A name that is not a path is looked for in the directories of a list, in their order. What is found first
counts, unless it cannot be run.
-/

namespace SkipChecks.Shell

open Action

/-- The paths that a name may have in the directories of a list. An empty one stands for the working
directory. -/
def candidates (directories name : Octets) : List Octets :=
  (Text.split ':' directories).map fun directory =>
    if directory = [] then name else directory ++ '/' :: name

/-- The directories in which programs are looked for. -/
def searchPath : Action Octets := return (← value? "PATH".toList).getD []

/-- Looks for a program in paths. Of the faults that are met, the last one counts that is not just that
there is nothing. -/
def findProgram (fault : Fault) : List Octets → Action (Except Fault Octets)
  | [] => return .error fault
  | path :: paths => do
    match ← spot path with
    | .error .notFound | .error .notDirectory => findProgram fault paths
    | .error other => findProgram other paths
    | .ok l =>
      match System.kind? (← get).tree l with
      | some .program => return .ok path
      | some _ => findProgram .denied paths
      | none => findProgram fault paths

/-- What the name of a command stands for. -/
inductive Found
  | function (body : Command)
  | builtin (builtin : Builtin)
  /-- A path, which may lead to a program. -/
  | path
  /-- A program that lies at a path. -/
  | program (path : Octets)
  | missing (fault : Fault)

/-- Looks for what a name stands for. Functions may be left out. -/
def findCommand (withFunctions : Bool) (directories name : Octets) : Action Found := do
  if name.any (· == '/') then return .path
  let functions := (← get).functions
  match if withFunctions then functions.lookup name else none with
  | some body => return .function body
  | none =>
    match Builtin.find? name with
    | some builtin => return .builtin builtin
    | none =>
      match ← findProgram .notFound (candidates directories name) with
      | .ok path => return .program path
      | .error fault => return .missing fault

def track (name path : Octets) : Action Unit :=
  setProcess fun p =>
    let known := ⟨name, path, false⟩
    { p with
      tracked :=
        if p.tracked.any (·.name == name) then
          p.tracked.map fun t => if t.name = name then known else t
        else p.tracked ++ [known] }

/-- Looks for what a name stands for as far as the variables say where, and remembers where a program was
found. -/
def findTracked (withFunctions : Bool) (name : Octets) : Action Found := do
  let found ← findCommand withFunctions (← searchPath) name
  match found with
  | .program path => track name path
  | _ => pure ()
  return found

/-- The place in which a program that was found is shown among others. -/
def Tracked.place (t : Tracked) : Nat :=
  let first := (t.name.head?.map Char.toNat).getD 0
  (t.name.foldl (fun n c => n + c.toNat) (first * 16) % Nat.pow 2 15) % 31

/-- The directories in which programs are looked for where nothing else is said. -/
def standardPath : Octets := Text.join [':'] System.searched

/-- What is said about a command that cannot be run. -/
def runFaultWords (name : Octets) (fault : Fault) : Octets :=
  name ++ ": ".toList ++ faultWords "not found" fault

/-- Describes what a name stands for, in a sentence or in one word. Directories may be given to look for it,
and if they are not, then where a program was found before is known. -/
def describe (sentence : Bool) (directories : Option Octets) (name : Octets) : Action Nat := do
  let tell (words short : Octets) : Action Nat := do
    sayText ((if sentence then name ++ words else short) ++ ['\n'])
    return 0
  if keywords.any (·.toList == name) then return ← tell " is a shell keyword".toList name
  match (← get).aliases.lookup name with
  | some value =>
    return ← tell (" is an alias for ".toList ++ value)
      ("alias ".toList ++ name ++ '=' :: Builtin.inQuotes value)
  | none => pure ()
  let m ← get
  let known := if directories.isSome then [] else m.tracked
  match known.find? (·.name == name) with
  | some t => return ← tell (" is a tracked alias for ".toList ++ t.path) t.path
  | none => pure ()
  let found ← match directories with
    | some directories => findCommand true directories name
    | none => findTracked true name
  match found with
  | .function _ => tell " is a shell function".toList name
  | .builtin builtin =>
    let kind := if builtin.special then " is a special shell builtin" else " is a shell builtin"
    tell kind.toList name
  | .program path => tell (" is ".toList ++ path) path
  | .path =>
    if (← kind? name).isSome then tell (" is ".toList ++ name) name else missing
  | .missing _ => missing
where
  /-- Tells that nothing is found. -/
  missing : Action Nat := do
    if sentence then sayText (name ++ ": not found\n".toList)
    return 127

end SkipChecks.Shell
