import SkipChecks.Text.Basic

/-!
# Scanning

A recogniser looks at the start of a text only. `findAll` runs one over a whole text, left to
right: after a find it goes on behind it, so that finds never overlap.
-/

namespace SkipChecks.Text

/-- Recognises something at the start of a text and gives it with the text behind it. -/
abbrev Recogniser (α : Type) := Text → Option (α × Text)

variable {α : Type}

/-- Skips `skip` characters and gives every find behind them, each with the text that follows. -/
def findAllFrom (recognise : Recogniser α) : Nat → Text → List (α × Text)
  | _, [] => []
  | skip + 1, _ :: cs => findAllFrom recognise skip cs
  | 0, c :: cs =>
    match recognise (c :: cs) with
    | some (found, rest) => (found, rest) :: findAllFrom recognise (cs.length - rest.length) cs
    | none => findAllFrom recognise 0 cs

/-- Every find in a text, from left to right and without overlap. -/
def findAll (recognise : Recogniser α) (s : Text) : List (α × Text) := findAllFrom recognise 0 s

/-- Either quote. -/
def isQuote (c : Char) : Bool := c == '\'' || c == '"'

/-- A name between quotes: a quote of either kind, one or more characters that are no quotes, and
again a quote of either kind. -/
def quotedName? : Recogniser Text
  | [] => none
  | q :: s =>
    if isQuote q then
      match s.takeWhile (!isQuote ·), s.dropWhile (!isQuote ·) with
      | name@(_ :: _), _ :: rest => some (name, rest)
      | _, _ => none
    else
      none

end SkipChecks.Text
