import SkipChecks.CommandLine.Basic

/-!
# Arguments

A command line is read level by level: the program, a command, and for checks what is checked. Each
level takes its own arguments until the name of a level below it comes. Flags and options that may
stand anywhere are taken by the level they stand in; a level does not see those of the others.

A value is settled when the next flag, option or value of its level comes, or at the end of the
level. Only then is it looked at.
-/

namespace SkipChecks.Arguments

/-- The levels of a command line. -/
inductive Level
  | program
  | manifest
  | inject
  | appendHelpers
  | check
  | route
  | method
  | starterKit
  deriving DecidableEq, Repr

inductive Flag
  | verbose
  | quiet
  | noColor
  | help
  | version
  deriving DecidableEq, Repr

/-- Options, which take a value. -/
inductive ValueOption
  | config
  | output
  deriving DecidableEq, Repr

/-- What a name after dashes stands for. -/
inductive Dashed
  | flag (flag : Flag)
  | valueOption (option : ValueOption)
  deriving DecidableEq, Repr

namespace Level

/-- The levels below a level, by name. -/
def below : Level → List (Text × Level)
  | program =>
    [("manifest".toList, manifest), ("inject".toList, inject),
      ("append-helpers".toList, appendHelpers), ("check".toList, check)]
  | check =>
    [("route".toList, route), ("method".toList, method), ("starter-kit".toList, starterKit)]
  | _ => []

/-- The name under which levels that have others below them give help. -/
def helpName : Text := "help".toList

/-- Whether a level needs one below it. -/
def isGroup (level : Level) : Bool := !level.below.isEmpty

/-- The level of a name below a level. -/
def find? (level : Level) (name : Text) : Option Level := level.below.lookup name

/-- Whether a name leads from a level to help or to another level. -/
def knows (level : Level) (name : Text) : Bool :=
  level.isGroup && (name == helpName || (level.find? name).isSome)

/-- The values that a level takes: for each whether it must not be empty. -/
def values : Level → List Bool
  | inject | appendHelpers => [true]
  | route => [false]
  | method => [false, false]
  | _ => []

/-- What a name after two dashes stands for. -/
def long? (level : Level) (name : Text) : Option Dashed :=
  match String.ofList name with
  | "verbose" => some (.flag .verbose)
  | "quiet" => some (.flag .quiet)
  | "no-color" => some (.flag .noColor)
  | "config" => some (.valueOption .config)
  | "help" => some (.flag .help)
  | "version" => if level = program then some (.flag .version) else none
  | "output" => if level = manifest then some (.valueOption .output) else none
  | _ => none

/-- What a letter after one dash stands for. -/
def short? (level : Level) : Char → Option Dashed
  | 'v' => some (.flag .verbose)
  | 'q' => some (.flag .quiet)
  | 'c' => some (.valueOption .config)
  | 'h' => some (.flag .help)
  | 'V' => if level = program then some (.flag .version) else none
  | 'o' => if level = manifest then some (.valueOption .output) else none
  | _ => none

/-- The answer to a request for help with names of levels. -/
def help (level : Level) : List Text → Usage
  | [] => .displayHelp
  | [name] => if level.knows name then .displayHelp else .invalidSubcommand
  | name :: names =>
    match level.find? name with
    | some inner => help inner names
    | none => .invalidSubcommand

end Level

/-- A value that is not settled yet. -/
inductive Pending
  /-- An option that still waits for its value, or has it. -/
  | ofOption (option : ValueOption) (value : Option Text)
  | ofLevel (value : Text)
  deriving DecidableEq, Repr

/-- What a level has taken. -/
structure Taken where
  flags : List Flag
  options : List (ValueOption × Path)
  values : List Text
  pending : Option Pending
  deriving DecidableEq, Repr

namespace Taken

def none : Taken := ⟨[], [], [], .none⟩

def isWaiting (taken : Taken) : Bool :=
  match taken.pending with
  | some (.ofOption _ .none) => true
  | _ => false

/-- Sets an option. It may be set once in a level, and not to an empty value. -/
def setOption (taken : Taken) (option : ValueOption) (value : Text) : Except Usage Taken :=
  if (taken.options.lookup option).isSome then .error .argumentConflict
  else if value = [] then .error .invalidValue
  else .ok { taken with options := (option, ⟨value⟩) :: taken.options }

def settle (level : Level) (taken : Taken) : Except Usage Taken :=
  let settled := { taken with pending := .none }
  match taken.pending with
  | .none => .ok taken
  | some (.ofOption _ .none) => .error .invalidValue
  | some (.ofOption option (some value)) => settled.setOption option value
  | some (.ofLevel value) =>
    if value = [] && level.values[taken.values.length]?.getD false then .error .invalidValue
    else .ok { settled with values := taken.values ++ [value] }

def takeFlag (level : Level) (taken : Taken) (flag : Flag) : Except Usage Taken := do
  let taken ← taken.settle level
  match flag with
  | .help => throw .displayHelp
  | .version => throw .displayVersion
  | flag =>
    if taken.flags.contains flag then throw .argumentConflict
    else return { taken with flags := flag :: taken.flags }

/-- Takes an option, with its value if that is attached. -/
def takeOption (level : Level) (taken : Taken) (option : ValueOption) (attached : Option Text) :
    Except Usage Taken := do
  let taken ← taken.settle level
  match attached with
  | some value => taken.setOption option value
  | .none => return { taken with pending := some (.ofOption option .none) }

/-- Takes an argument with two dashes. -/
def takeLong (level : Level) (taken : Taken) (argument : Text) : Except Usage Taken :=
  let attached := match argument.dropWhile (· != '=') with
    | _ :: value => some value
    | [] => .none
  match level.long? (argument.takeWhile (· != '=')), attached with
  | .none, _ => .error .unknownArgument
  | some (.flag _), some _ => .error .tooManyValues
  | some (.flag flag), .none => taken.takeFlag level flag
  | some (.valueOption option), attached => taken.takeOption level option attached

/-- Takes the letters of an argument with one dash. Behind an option stands its value, perhaps with
an equals sign between. -/
def takeShort (level : Level) (taken : Taken) : Text → Except Usage Taken
  | [] => .ok taken
  | c :: letters =>
    match level.short? c with
    | .none => .error .unknownArgument
    | some (.flag flag) =>
      match taken.takeFlag level flag with
      | .ok taken => takeShort level taken letters
      | .error usage => .error usage
    | some (.valueOption option) =>
      match letters with
      | [] => taken.takeOption level option .none
      | '=' :: value => taken.takeOption level option (some value)
      | value => taken.takeOption level option (some value)

/-- Takes an argument that is no flag and no option. -/
def takeValue (level : Level) (taken : Taken) (closed : Bool) (argument : Text) :
    Except Usage Taken :=
  let count := taken.values.length + match taken.pending with
    | some (.ofLevel _) => 1
    | _ => 0
  if count < level.values.length then do
    let taken ← taken.settle level
    return { taken with pending := some (.ofLevel argument) }
  else if level.isGroup && !(closed && level.knows argument) then .error .invalidSubcommand
  else .error .unknownArgument

/-- Takes an argument in front of two lone dashes. -/
def take (level : Level) (taken : Taken) (argument : Text) : Except Usage Taken :=
  match argument with
  | '-' :: '-' :: c :: name => taken.takeLong level (c :: name)
  | '-' :: c :: letters => taken.takeShort level (c :: letters)
  | argument =>
    match taken.pending with
    | some (.ofOption option .none) =>
      .ok { taken with pending := some (.ofOption option (some argument)) }
    | _ => taken.takeValue level false argument

def isEmpty (taken : Taken) : Bool :=
  taken.flags.isEmpty && taken.options.isEmpty && taken.values.isEmpty

/-- The options that may stand anywhere. -/
def globals (taken : Taken) : GlobalOptions :=
  ⟨taken.flags.contains .verbose, taken.flags.contains .quiet, taken.flags.contains .noColor,
    taken.options.lookup .config⟩

/-- Settles everything at the end of a level that goes on below, and looks for flags that exclude
each other. -/
def close (level : Level) (taken : Taken) : Except Usage Taken := do
  let taken ← taken.settle level
  if taken.globals.verbose && taken.globals.quiet then throw .argumentConflict
  return taken

/-- The command at the end of a level that has none below it. -/
def finish (level : Level) (taken : Taken) : Except Usage (GlobalOptions × Command) := do
  let settled ← taken.settle level
  if level.isGroup then
    throw (if settled.isEmpty then .displayHelpOnMissing else .missingSubcommand)
  let taken ← settled.close level
  match level, taken.values with
  | .manifest, _ => return (taken.globals, .manifest (taken.options.lookup .output))
  | .inject, values => return (taken.globals, .inject (values.head?.map Path.mk))
  | .appendHelpers, values => return (taken.globals, .appendHelpers (values.head?.map Path.mk))
  | .route, [name] => return (taken.globals, .check (.route name))
  | .method, [className, name] => return (taken.globals, .check (.method ⟨className, name⟩))
  | .starterKit, _ => return (taken.globals, .check .starterKit)
  | _, _ => throw .missingRequiredArgument

end Taken

/-- Reads the arguments from a level on. Behind two lone dashes everything is a value. -/
def read (level : Level) (taken : Taken) (closed : Bool) :
    List Text → Except Usage (GlobalOptions × Command)
  | [] => taken.finish level
  | argument :: arguments =>
    if closed then
      match taken.takeValue level true argument with
      | .ok taken => read level taken true arguments
      | .error usage => .error usage
    else if level.knows argument && !taken.isWaiting then
      match level.find? argument with
      | none => .error (level.help arguments)
      | some inner => do
        let (options, command) ← read inner .none false arguments
        let taken ← taken.close level
        return (taken.globals.under options, command)
    else if argument = ['-', '-'] then read level taken true arguments
    else
      match taken.take level argument with
      | .ok taken => read level taken false arguments
      | .error usage => .error usage

end Arguments

namespace Invocation

/-- What the arguments of the program ask for. -/
def ofArguments (arguments : List Text) : Except Usage Invocation :=
  (Arguments.read .program .none false arguments).map fun (options, command) => ⟨options, command⟩

end Invocation

end SkipChecks
