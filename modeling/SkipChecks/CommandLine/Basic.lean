import SkipChecks.Dependencies
import SkipChecks.Path

/-!
# Command lines

What a command line asks for, and what can be wrong with one.
-/

namespace SkipChecks

/-- What is checked from the command line. -/
inductive CheckTarget
  | route (name : Text)
  | method (method : Method)
  | starterKit
  deriving DecidableEq, Repr

/-- What is to be done. Where a file or directory is left out, the settings give it. -/
inductive Command
  | manifest (output : Option Path)
  | inject (directory : Option Path)
  | appendHelpers (file : Option Path)
  | check (target : CheckTarget)
  deriving DecidableEq, Repr

/-- Options that may stand anywhere. -/
structure GlobalOptions where
  verbose : Bool
  quiet : Bool
  noColor : Bool
  config : Option Path
  deriving DecidableEq, Repr

/-- What a command line asks for. -/
structure Invocation where
  options : GlobalOptions
  command : Command
  deriving DecidableEq, Repr

/-- Why a command line is answered without doing anything. -/
inductive Usage
  | unknownArgument
  | invalidSubcommand
  | missingRequiredArgument
  | missingSubcommand
  | argumentConflict
  | invalidValue
  | tooManyValues
  | displayHelp
  | displayVersion
  | displayHelpOnMissing
  deriving DecidableEq, Repr

/-- The exit code: asking for help or the version is no mistake. -/
def Usage.exitCode : Usage → UInt8
  | displayHelp | displayVersion => 0
  | _ => 2

namespace GlobalOptions

def none : GlobalOptions := ⟨false, false, false, .none⟩

/-- Options together with those that stand further in. A flag counts wherever it stands; of two
files the one further in counts. -/
def under (outer inner : GlobalOptions) : GlobalOptions :=
  ⟨outer.verbose || inner.verbose, outer.quiet || inner.quiet, outer.noColor || inner.noColor,
    inner.config.or outer.config⟩

end GlobalOptions

end SkipChecks
