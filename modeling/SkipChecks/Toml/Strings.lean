import SkipChecks.Json.Token
import SkipChecks.Text.Scan

/-!
# Strings and keys of TOML

A string stands between double quotes, with escapes, or between single quotes, as it is. Three
quotes open a string that may go over several lines; one or two quotes may stand right before the
three that close it. A key is a word of letters, digits, underscores and dashes, or a string on one
line, or several of these with dots between them.
-/

namespace SkipChecks.Toml

open Text (Recogniser)

/-- Characters that may stand in strings and comments. -/
def isPrintable (c : Char) : Bool := c == '\t' || (' ' ≤ c && c ≠ '\x7f')

/-- A blank within a line. -/
def isSpace (c : Char) : Bool := c == ' ' || c == '\t'

/-- The text behind the blanks that it begins with. -/
def skipSpaces (s : Text) : Text := s.dropWhile isSpace

/-- The character with a number in hexadecimal digits. -/
def charOf? (digits : List Char) : Option Char := do
  let values ← digits.mapM Json.Token.hexDigit?
  let n := values.foldl (fun n d => n * 16 + d) 0
  if n < 0xd800 ∨ (0xe000 ≤ n ∧ n < 0x110000) then some (Char.ofNat n) else none

/-- The character that an escape of one character stands for. -/
def shortEscape? : Char → Option Char
  | 'b' => some '\x08'
  | 't' => some '\t'
  | 'n' => some '\n'
  | 'f' => some '\x0c'
  | 'r' => some '\r'
  | '"' => some '"'
  | '\\' => some '\\'
  | _ => none

/-- Puts a character in front of what is read. -/
def before (c : Char) (read : Option (Text × Text)) : Option (Text × Text) :=
  read.map fun (s, rest) => (c :: s, rest)

/-- Puts a character in front of what is read, if there is one. -/
def before? (c : Option Char) (read : Option (Text × Text)) : Option (Text × Text) :=
  c.bind fun c => before c read

/-- Reads from behind a double quote up to the next one. -/
def basic? : Recogniser Text
  | [] => none
  | '"' :: s => some ([], s)
  | '\\' :: 'u' :: a :: b :: c :: d :: s => before? (charOf? [a, b, c, d]) (basic? s)
  | '\\' :: 'U' :: a :: b :: c :: d :: e :: f :: g :: h :: s =>
    before? (charOf? [a, b, c, d, e, f, g, h]) (basic? s)
  | '\\' :: c :: s => before? (shortEscape? c) (basic? s)
  | c :: s => if isPrintable c then before c (basic? s) else none

/-- Reads from behind a single quote up to the next one. -/
def literal? : Recogniser Text
  | [] => none
  | '\'' :: s => some ([], s)
  | c :: s => if isPrintable c then before c (literal? s) else none

/-- What stands behind the three quotes that may close a string: up to two more of these quotes
belong to the string. -/
def close (quote : Char) : Text → Text × Text
  | a :: b :: s =>
    if a = quote ∧ b = quote then ([a, b], s)
    else if a = quote then ([a], b :: s)
    else ([], a :: b :: s)
  | [a] => if a = quote then ([a], []) else ([], [a])
  | [] => ([], [])

/-- Whether a text goes on in the next line, blanks aside. -/
def lineEnds (s : Text) : Bool :=
  match skipSpaces s with
  | '\n' :: _ | '\r' :: '\n' :: _ => true
  | _ => false

/-- Reads from behind three double quotes up to three more. A backslash at the end of a line
swallows all blanks and line breaks up to the next character. -/
def multiBasic? (swallowing : Bool) : Recogniser Text
  | [] => none
  | '\r' :: '\n' :: s =>
    if swallowing then multiBasic? true s else before '\n' (multiBasic? false s)
  | '\n' :: s => if swallowing then multiBasic? true s else before '\n' (multiBasic? false s)
  | '"' :: '"' :: '"' :: s => some (close '"' s)
  | '\\' :: 'u' :: a :: b :: c :: d :: s =>
    before? (charOf? [a, b, c, d]) (multiBasic? false s)
  | '\\' :: 'U' :: a :: b :: c :: d :: e :: f :: g :: h :: s =>
    before? (charOf? [a, b, c, d, e, f, g, h]) (multiBasic? false s)
  | '\\' :: c :: s =>
    match shortEscape? c with
    | some d => before d (multiBasic? false s)
    | none =>
      if lineEnds (c :: s) then
        if c = '\r' then multiBasic? true (c :: s) else multiBasic? true s
      else none
  | c :: s =>
    if swallowing && isSpace c then multiBasic? true s
    else if isPrintable c then before c (multiBasic? false s)
    else none

/-- Reads from behind three single quotes up to three more. -/
def multiLiteral? : Recogniser Text
  | [] => none
  | '\r' :: '\n' :: s => before '\n' (multiLiteral? s)
  | '\n' :: s => before '\n' (multiLiteral? s)
  | '\'' :: '\'' :: '\'' :: s => some (close '\'' s)
  | c :: s => if isPrintable c then before c (multiLiteral? s) else none

/-- The text behind a line break that it begins with. -/
def dropBreak : Text → Text
  | '\r' :: '\n' :: s => s
  | '\n' :: s => s
  | s => s

def string? : Recogniser Text
  | '"' :: '"' :: '"' :: s => multiBasic? false (dropBreak s)
  | '"' :: s => basic? s
  | '\'' :: '\'' :: '\'' :: s => multiLiteral? (dropBreak s)
  | '\'' :: s => literal? s
  | _ => none

/-- Characters of keys that need no quotes. -/
def isKeyChar (c : Char) : Bool := c.isAlphanum || c == '_' || c == '-'

def key? : Recogniser Text
  | '"' :: s => basic? s
  | '\'' :: s => literal? s
  | s =>
    match s.takeWhile isKeyChar with
    | [] => none
    | key => some (key, s.dropWhile isKeyChar)

/-- How deep values and keys may go. -/
def depthLimit : Nat := 80

/-- Reads at most so many keys with dots between them, blanks around them aside. -/
def keys? : Nat → Recogniser (List Text)
  | 0, _ => none
  | limit + 1, s => do
    let (key, s) ← key? (skipSpaces s)
    match skipSpaces s with
    | '.' :: s =>
      let (keys, s) ← keys? limit s
      return (key :: keys, s)
    | s => return ([key], s)

def path? : Recogniser (List Text) := keys? (depthLimit - 1)

end SkipChecks.Toml
