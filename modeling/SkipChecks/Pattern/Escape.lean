import SkipChecks.Text.Alphanumeric
import SkipChecks.Text.Blank

/-!
# Escapes of patterns

A pattern is a regular expression that may have to hold of some text. Here is what a backslash and
the characters behind it stand for. Where blanks are free, they may also stand inside of an escape.
-/

namespace SkipChecks.Pattern

/-- How a part of a pattern is read. -/
structure Mode where
  /-- Blanks stand between the parts and mean nothing, nor do comments. -/
  spaced : Bool
  /-- Classes are classes of all characters, not of bytes. -/
  unicode : Bool
  deriving DecidableEq, Repr

/-- What an escape stands for. -/
inductive Escape
  | character (c : Char)
  /-- A character by its number in two digits, which may also be meant as a byte. -/
  | byte (c : Char)
  /-- Digits, blanks or parts of words, or all but them. -/
  | class (negated : Bool)
  /-- Characters with a property. -/
  | property
  /-- An end of the text. -/
  | edge
  /-- An edge of a word, or a place that is none. -/
  | wordEdge
  deriving DecidableEq, Repr

namespace Mode

/-- The text behind a comment, which ends with its line. -/
def skipComment : Text → Text
  | [] => []
  | '\n' :: s => s
  | _ :: s => skipComment s

/-- The text behind the blanks and comments that it begins with, of at most so many parts. -/
def skipParts : Nat → Text → Text
  | 0, s => s
  | fuel + 1, s =>
    match Text.trimStart s with
    | '#' :: s => skipParts fuel (skipComment s)
    | s => s

/-- The text behind blanks that mean nothing. -/
def skip (mode : Mode) (s : Text) : Text := if mode.spaced then skipParts (s.length + 1) s else s

end Mode

/-- Characters that mean something in a pattern. -/
def isMeta (c : Char) : Bool := "\\.+*?()|[]\x7b\x7d^$#&-~".toList.any (· == c)

/-- Characters that stand for themselves behind a backslash. -/
def isPlain (c : Char) : Bool := isMeta c || (c ≤ '\x7f' && !c.isAlphanum && c != '<' && c != '>')

def hexDigit? (c : Char) : Option Nat :=
  if c.isDigit then some (c.toNat - '0'.toNat)
  else if 'a' ≤ c && c ≤ 'f' then some (c.toNat - 'a'.toNat + 10)
  else if 'A' ≤ c && c ≤ 'F' then some (c.toNat - 'A'.toNat + 10)
  else none

/-- Reads so many hexadecimal digits. -/
def number? (mode : Mode) : Nat → Nat → Text → Option (Nat × Text)
  | 0, n, s => some (n, s)
  | _ + 1, _, [] => none
  | missing + 1, n, c :: s => do
    let d ← hexDigit? c
    number? mode missing (n * 16 + d) (mode.skip s)

def charOf? (n : Nat) : Option Char :=
  if n < 0xd800 ∨ (0xe000 ≤ n ∧ n < 0x110000) then some (Char.ofNat n) else none

/-- Reads what stands behind a backslash. Numbers in braces are not read, nor are properties with
more than a letter: no pattern holds a closing brace. -/
def escape? (mode : Mode) (s : Text) : Option (Escape × Text) :=
  match s with
  | [] => none
  | c :: s =>
    match c with
    | 'x' => do
      let (n, s) ← number? mode 2 0 (mode.skip s)
      return (.byte (← charOf? n), s)
    | 'u' => do
      let (n, s) ← number? mode 4 0 (mode.skip s)
      return (.character (← charOf? n), s)
    | 'U' => do
      let (n, s) ← number? mode 8 0 (mode.skip s)
      return (.character (← charOf? n), s)
    | 'p' | 'P' =>
      match mode.skip s with
      | letter :: s =>
        if "clmnpsz".toList.any (· == letter.toLower) then some (.property, mode.skip s) else none
      | [] => none
    | 'd' | 's' | 'w' => some (.class false, s)
    | 'D' | 'S' | 'W' => some (.class true, s)
    | 'a' => some (.character '\x07', s)
    | 'f' => some (.character '\x0c', s)
    | 't' => some (.character '\t', s)
    | 'n' => some (.character '\n', s)
    | 'r' => some (.character '\r', s)
    | 'v' => some (.character '\x0b', s)
    | 'A' | 'z' => some (.edge, s)
    | 'b' | 'B' | '<' | '>' => some (.wordEdge, s)
    | c => if isPlain c then some (.character c, s) else none

end SkipChecks.Pattern
