import SkipChecks.Environment.Basic

/-!
# Status lines

Lines that tell how a command went, for people. Whether they are coloured or shown at all is decided
once, from flags and the environment.
-/

namespace SkipChecks

/-- How status lines are shown. -/
structure Status where
  colored : Bool
  quiet : Bool
  deriving DecidableEq, Repr

namespace Status

/-- The decision from flags and the environment. The flag against colours always counts. -/
def decide (noColor quiet : Bool) (environment : Environment) (terminal : Bool) : Status :=
  ⟨!noColor && environment.wantsColor terminal, quiet⟩

/-- A text in a colour, given by its number. -/
def paint (color : String) (s : Text) : Text :=
  "\x1b[".toList ++ color.toList ++ ['m'] ++ s ++ "\x1b[39m".toList

/-- A symbol in bold and in a colour. -/
def bold (color : String) (symbol : Text) : Text :=
  "\x1b[1m".toList ++ paint color symbol ++ "\x1b[0m".toList

/-- A line with its end, unless lines are not shown. -/
def line (status : Status) (plain colored : Text) : Text :=
  if status.quiet then [] else (if status.colored then colored else plain) ++ ['\n']

def success (status : Status) (message : Text) : Text :=
  status.line ('✓' :: ' ' :: message) (bold "32" ['✓'] ++ ' ' :: message)

def warning (status : Status) (message : Text) : Text :=
  status.line ('⚠' :: ' ' :: message) (bold "33" ['⚠'] ++ ' ' :: paint "33" message)

end Status

end SkipChecks
