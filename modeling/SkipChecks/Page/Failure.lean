import SkipChecks.Text.Basic

/-!
# Page failures

What a check of a page can say. A check that ran and did not hold is kept apart from a page that
could not be asked at all.
-/

namespace SkipChecks

/-- Why a check of a page failed. -/
inductive PageFailure
  /-- The check ran and did not hold. -/
  | assertion (message : Text)
  /-- The page could not be asked. -/
  | other (words : Text)
  deriving DecidableEq, Repr

namespace PageFailure

def message : PageFailure → Text
  | assertion message => message
  | other words => "page operation failed: ".toList ++ words

/-- The message of a check that did not hold. -/
def assertion? : PageFailure → Option Text
  | assertion message => some message
  | other _ => none

end PageFailure

end SkipChecks
