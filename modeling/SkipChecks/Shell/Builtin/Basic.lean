import SkipChecks.Shell.Expansion
import SkipChecks.Shell.Script.Grammar

/-!
# Commands of the shell itself

Which commands a shell carries out itself, and what they have in common: options in front of their
arguments, numbers, and texts that are shown in quotes.
-/

namespace SkipChecks.Shell

open Action

/-- A command of the shell itself. -/
structure Builtin where
  name : String
  /-- Whether its faults end the shell, and whether variables that are set for it stay. -/
  special : Bool
  /-- Whether its arguments may give values to variables. -/
  assigns : Bool

namespace Builtin

/-- Commands whose arguments may give values to variables. -/
def assigning : List String := ["alias", "export", "local", "readonly"]

/-- Commands that nothing special is known of. -/
def ordinary : List String :=
  ["[", "alias", "bg", "cd", "chdir", "command", "echo", "false", "fg", "getopts", "hash", "jobs",
    "kill", "printf", "pwd", "read", "test", "true", "type", "ulimit", "umask", "unalias", "wait"]

def find? (name : Octets) : Option Builtin :=
  let assigns (name : String) : Bool := assigning.any (· == name)
  match ("local" :: specialCommands).find? (·.toList == name) with
  | some name => some ⟨name, true, assigns name⟩
  | none => (ordinary.find? (·.toList == name)).map fun name => ⟨name, false, assigns name⟩

/-- Reads the letters of options in one argument. The last one may take what is left of the argument, or
the next one. Each option is checked as soon as it is read. The answer is turned around, and the flag says
whether the next argument was taken. -/
def letters (known taking : List Char) (check : Char → Octets → Action Unit) (next : Option Octets) :
    Octets → List (Char × Octets) → Action (List (Char × Octets) × Bool)
  | [], found => return (found, false)
  | c :: cluster, found => do
    if !known.any (· == c) then fail ("Illegal option -".toList ++ [c])
    else if !taking.any (· == c) then
      check c []
      letters known taking check next cluster ((c, []) :: found)
    else
      match cluster, next with
      | [], some value =>
        check c value
        return ((c, value) :: found, true)
      | [], none => fail ("No arg for -".toList ++ c :: " option".toList)
      | value, _ =>
        check c value
        return ((c, value) :: found, false)

/-- Reads options: letters behind a dash, some of them with an argument. What is known is given by the
letters, and by those of them that take an argument. -/
def options (known taking : List Char) (check : Char → Octets → Action Unit) :
    List Octets → List (Char × Octets) → Action (List (Char × Octets) × List Octets)
  | ['-', '-'] :: arguments, found => return (found.reverse, arguments)
  | ('-' :: c :: cluster) :: arguments, found => do
    let (found, taken) ← letters known taking check arguments.head? (c :: cluster) found
    match taken, arguments with
    | true, _ :: arguments => options known taking check arguments found
    | _, arguments => options known taking check arguments found
  | arguments, found => return (found.reverse, arguments)

/-- Reads options of which none takes an argument. -/
def flags (known : String) (arguments : List Octets) : Action (List Char × List Octets) := do
  let (found, rest) ← options known.toList [] (fun _ _ => return) arguments []
  return (found.map (·.1), rest)

/-- Reads an option that stands alone, and tells whether it was there. What is behind it is not looked at
then. -/
def flag (known : Char) : List Octets → Action (Bool × List Octets)
  | ['-', '-'] :: arguments => return (false, arguments)
  | ('-' :: c :: _) :: arguments =>
    if c = known then return (true, arguments) else fail ("Illegal option -".toList ++ [c])
  | arguments => return (false, arguments)

/-- A text in single quotes, where runs of single quotes stand in double quotes. -/
def inQuotes (s : Octets) : Octets := '\'' :: go false s
where
  /-- Goes on in double quotes or in single ones. -/
  go : Bool → Octets → Octets
    | false, [] => ['\'']
    | true, [] => ['"']
    | false, c :: s => if c = '\'' then "'\"'".toList ++ go true s else c :: go false s
    | true, c :: s => if c = '\'' then c :: go true s else "\"'".toList ++ c :: go false s

example : inQuotes "it's".toList = "'it'\"'\"'s'".toList ∧ inQuotes [] = ['\'', '\''] := by
  decide +kernel

end Builtin

end SkipChecks.Shell
