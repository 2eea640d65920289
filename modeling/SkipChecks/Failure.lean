import SkipChecks.Path
import SkipChecks.Program.Outcome

/-!
# Failures

What stops a batch job. A manifest that is missing or unreadable is not among them: it counts as
one without routes.
-/

namespace SkipChecks

/-- Why a program gave no list of routes. -/
inductive ListingFault
  | notStarted (fault : Fault)
  /-- It ended badly, with this on its standard error. -/
  | failed (ending : Ending) (diagnostics : Text)
  /-- It printed this, which is no listing. -/
  | noListing (output : Bytes)
  /-- Anything else, in words. -/
  | other (words : Text)
  deriving DecidableEq

/-- Why there is no list of routes, in words. What is wrong with an output that is no listing is said
by whoever reads it. -/
def ListingFault.message (complaint : Bytes → Text) : ListingFault → Text
  | notStarted fault => fault.message
  | failed ending diagnostics => ending.message ++ ": ".toList ++ diagnostics
  | noListing output => "invalid JSON: ".toList ++ complaint output
  | other words => words

/-- What was done to a file or directory. -/
inductive FileAction
  | read
  | createTemporary
  | write
  | setPermissions
  | replace
  | createDirectory
  deriving DecidableEq, Repr

def FileAction.message : FileAction → Text
  | read => "read".toList
  | createTemporary => "create temp file in".toList
  | write => "write".toList
  | setPermissions => "set permissions on".toList
  | replace => "replace".toList
  | createDirectory => "create directory".toList

/-- What stops a batch job. -/
inductive Failure
  | directoryNotFound (path : Path)
  | bootstrapNotFound (path : Path)
  | file (action : FileAction) (path : Path) (fault : Fault)
  /-- The walk through a directory came to one that it could not open. -/
  | walk (root path : Path) (fault : Fault)
  | routeCommand (command : List Text) (fault : ListingFault)
  deriving DecidableEq

/-- A command line as it is shown. -/
def showCommand (command : List Text) : Text := Text.join [' '] command

def Failure.message (complaint : Bytes → Text) : Failure → Text
  | directoryNotFound path => "Directory ".toList ++ path.text ++ " does not exist".toList
  | bootstrapNotFound path => path.text ++ " does not exist".toList
  | file action path fault =>
    "failed to ".toList ++ action.message ++ [' '] ++ path.text ++ ": ".toList ++ fault.message
  | walk root path fault =>
    "failed to walk ".toList ++ root.text ++ ": IO error for operation on ".toList ++ path.text ++
      ": ".toList ++ fault.message
  | routeCommand command fault =>
    "route registry command `".toList ++ showCommand command ++ "` failed: ".toList ++
      fault.message complaint

end SkipChecks
