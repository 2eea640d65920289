import SkipChecks.Text.Basic

/-!
# Blank characters

The characters of Unicode's White_Space property, and trimming by them. The set is larger than
core's `Char.isWhitespace`, which it contains.
-/

namespace SkipChecks.Text

/-- White_Space: the controls from tab to carriage return, space, next line, and the space and line
separators. -/
def isBlank (c : Char) : Bool :=
  ('\t' ≤ c && c ≤ '\r') || c == ' ' || c == '\x85' || c == '\xa0' || c == '\u1680' ||
    ('\u2000' ≤ c && c ≤ '\u200a') || c == '\u2028' || c == '\u2029' || c == '\u202f' ||
    c == '\u205f' || c == '\u3000'

/-- The text from its first character that is not blank. -/
def trimStart (s : Text) : Text := s.dropWhile isBlank

/-- The text up to its last character that is not blank. -/
def trimEnd (s : Text) : Text := (s.reverse.dropWhile isBlank).reverse

/-- The text without blanks at either end. -/
def trim (s : Text) : Text := trimEnd (trimStart s)

end SkipChecks.Text
