import SkipChecks.Page.Failure
import SkipChecks.Text.Blank
import SkipChecks.Text.Phrase

/-!
# Noise of the content-security-policy parser

A browser harness may report errors of its own parser on pages that are fine. Such reports are
noise. A failed check stands if it lists any other error, and then lists only those.
-/

namespace SkipChecks.Noise

/-- What an error text is. -/
inductive Kind
  | noise
  | genuine
  deriving DecidableEq, Repr

/-- The literal text of a parser error. -/
def marker : Text := "CSP Parser Error".toList

/-- The words of a parser error, which may stand apart in a line. -/
def phrase : List Text := ["CSP".toList, "Parser".toList, "Error".toList]

/-- What a text is: noise with the literal marker or with its words in one line, whatever their
case. -/
def classify (s : Text) : Kind :=
  if Text.contains marker s ∨ Text.mentions phrase s then .noise else .genuine

/-- The entry on a line of a list: what follows the dash and its space, without blanks behind. -/
def item? (line : Text) : Option Text :=
  match ['-', ' '].isPrefixOf? (line.dropWhile fun c => c == ' ' || c == '\t') with
  | some (c :: s) => some (Text.trimEnd (c :: s))
  | _ => none

/-- The entries that a message lists, one a line. -/
def entries (message : Text) : List Text := (Text.lines message).filterMap item?

/-- A header and below it one entry a line. -/
def list (header : Text) (entries : List Text) : Text :=
  header ++ entries.flatMap fun entry => "\n- ".toList ++ entry

/-- The header over the errors that are no noise. -/
def header : Text := "Expected no JavaScript errors on the page, but found:".toList

/-- The message that stands when a check failed with this one, if any does. A message that never
speaks of the parser stands as it is. -/
def standing? (message : Text) : Option Text :=
  if classify message = .genuine then some message
  else
    let genuine := (entries message).filter fun entry => classify entry = .genuine
    if genuine = [] then none else some (list header genuine)

/-- The answer of a check, noise left aside. -/
def exceptNoise : Except PageFailure Unit → Except PageFailure Unit
  | .error (.assertion message) =>
    match standing? message with
    | some message => .error (.assertion message)
    | none => .ok ()
  | answer => answer

example :
    standing? "found 2:\n- CSP Parser Error: x\n \t- gone ".toList =
      some "Expected no JavaScript errors on the page, but found:\n- gone".toList := by
  decide +kernel

end SkipChecks.Noise
