import SkipChecks.Text.Basic

/-!
# Phrases

A phrase is a list of pieces that must stand in one line, in order and without overlap, ignoring
case. Anything may stand between two pieces, so finding each piece at its first place after the
one before decides the question.
-/

namespace SkipChecks.Text

/-- The lower-case letter that stands for a character when case is ignored. Besides the upper-case
letters of ASCII, the long s and the Kelvin sign stand for ASCII letters. -/
def foldCase (c : Char) : Char :=
  if c = '\u017f' then 's' else if c = '\u212a' then 'k' else c.toLower

/-- Whether the pieces occur in a text in order and without overlap. -/
def inOrder : List Text → Text → Bool
  | [], _ => true
  | piece :: pieces, s =>
    match after? piece s with
    | some rest => inOrder pieces rest
    | none => false

/-- Whether one line holds the pieces in order, ignoring case. -/
def lineHas (phrase : List Text) (line : Text) : Bool :=
  inOrder (phrase.map (·.map foldCase)) (line.map foldCase)

/-- Whether some line of a text holds the phrase. -/
def mentions (phrase : List Text) (s : Text) : Bool := (lines s).any (lineHas phrase)

example :
    mentions ["csp".toList, "error".toList] "a\nC\u017fP, then ERROR".toList ∧
      ¬ mentions ["csp".toList, "error".toList] "csp\nerror".toList := by
  decide +kernel

end SkipChecks.Text
