import SkipChecks.Text.Basic

/-!
# Environments

The variables that a command finds set.
-/

namespace SkipChecks

/-- The variables of an environment. -/
abbrev Environment := List (Text × Text)

namespace Environment

def isSet (environment : Environment) (name : String) : Bool :=
  environment.any fun (other, _) => other == name.toList

def isBuildServer (environment : Environment) : Bool :=
  ["CI", "GITHUB_ACTIONS", "GITLAB_CI"].any environment.isSet

/-- Whether the environment wants colours, on a terminal or elsewhere. -/
def wantsColor (environment : Environment) (terminal : Bool) : Bool :=
  if environment.isSet "NO_COLOR" then false
  else environment.isSet "FORCE_COLOR" || (terminal && !environment.isBuildServer)

end Environment

end SkipChecks
