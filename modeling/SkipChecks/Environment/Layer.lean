import SkipChecks.Environment.Basic
import SkipChecks.Settings.Value
import SkipChecks.Text.Blank
import SkipChecks.Toml.Strings

/-!
# Settings from the environment

A variable gives a value in a small notation: lists in square brackets, tables in braces, strings in
double quotes, one character in single quotes, truth values, and words without quotes, of which some
are numbers. A text that is not written in this notation as a whole stands for itself.
-/

namespace SkipChecks.Environment

open Text (Recogniser)

/-- Blanks between the parts of a value. -/
def isGap (c : Char) : Bool := c == ' ' || c == '\t' || c == '\n' || c == '\x0c' || c == '\r'

/-- The text behind the blanks that it begins with. -/
def skipGap (s : Text) : Text := s.dropWhile isGap

/-- Characters of words without quotes. -/
def isWordChar (c : Char) : Bool := !([',', '{', '}', '[', ']'].contains c)

/-- Whether a word is a whole number of 64 bits, with a sign or without. -/
def isWhole (word : Text) : Bool :=
  let (negative, digits) : Bool × Text :=
    match word with
    | '-' :: digits => (true, digits)
    | '+' :: digits => (false, digits)
    | digits => (false, digits)
  let n := digits.foldl (fun n c => n * 10 + (c.toNat - '0'.toNat)) 0
  !digits.isEmpty && digits.all Char.isDigit && if negative then n ≤ Nat.pow 2 63 else n < Nat.pow 2 64

/-- Whether a word is a decimal number with a point. -/
def isDecimal (word : Text) : Bool :=
  let unsigned := match word with
    | '-' :: s | '+' :: s => s
    | s => s
  let whole := unsigned.takeWhile Char.isDigit
  match unsigned.dropWhile Char.isDigit with
  | '.' :: s =>
    let fraction := s.takeWhile Char.isDigit
    !(whole.isEmpty && fraction.isEmpty) && isExponent (s.dropWhile Char.isDigit)
  | _ => false
where
  /-- Whether a text is empty or an exponent. -/
  isExponent : Text → Bool
    | [] => true
    | c :: s =>
      let digits := match s with
        | '-' :: s | '+' :: s => s
        | s => s
      (c == 'e' || c == 'E') && !digits.isEmpty && digits.all Char.isDigit

/-- What a word without quotes stands for. -/
def ofWord (word : Text) : Value := if isDecimal word || isWhole word then .number else .text word

def key? : Recogniser Text
  | '"' :: s => Toml.basic? s
  | s =>
    match s.takeWhile Toml.isKeyChar with
    | [] => none
    | key => some (key, s.dropWhile Toml.isKeyChar)

mutual

/-- Reads a value with the blanks around it. The first argument bounds the steps. -/
def value? : Nat → Recogniser Value
  | 0, _ => none
  | fuel + 1, s => do
    let (v, s) ←
      match skipGap s with
      | 't' :: 'r' :: 'u' :: 'e' :: s => some (.flag true, s)
      | 'f' :: 'a' :: 'l' :: 's' :: 'e' :: s => some (.flag false, s)
      | '{' :: s => (members? fuel s).map fun (entries, s) => (Value.tableOf entries, s)
      | '[' :: s => (items? fuel s).map fun (items, s) => (.list items, s)
      | '"' :: s => (Toml.basic? s).map fun (content, s) => (.text content, s)
      | '\'' :: c :: '\'' :: s => some (.text [c], s)
      | '\'' :: _ => none
      | s => some (ofWord (Text.trim (s.takeWhile isWordChar)), s.dropWhile isWordChar)
    return (v, skipGap s)

def items? : Nat → Recogniser (List Value)
  | 0, _ => none
  | _ + 1, ']' :: s => some ([], s)
  | fuel + 1, s => do
    let (item, s) ← value? fuel s
    match s with
    | ',' :: s => (items? fuel s).map fun (items, s) => (item :: items, s)
    | ']' :: s => some ([item], s)
    | _ => none

def members? : Nat → Recogniser Value.Entries
  | 0, _ => none
  | _ + 1, '}' :: s => some ([], s)
  | fuel + 1, s => do
    let (key, s) ← key? (skipGap s)
    let s ← ['='].isPrefixOf? (skipGap s)
    let (v, s) ← value? fuel s
    match skipGap s with
    | ',' :: s => (members? fuel s).map fun (entries, s) => ((key, v) :: entries, s)
    | '}' :: s => some ([(key, v)], s)
    | _ => none

end

/-- What the text of a variable stands for. -/
def ofText (s : Text) : Value :=
  match value? (2 * s.length + 2) s with
  | some (v, []) => v
  | _ => .text s

/-- How the names of variables begin that give settings. -/
def beginning : Text := "SKIPGUARD_".toList

/-- The setting that a variable of some name gives. Names do not depend on case, nor on blanks around
them. -/
def settingOf? (settings : List Text) (name : Text) : Option Text :=
  let name := Text.trim name
  ((beginning.map Char.toLower).isPrefixOf? (name.map Char.toLower)).bind fun setting =>
    if settings.contains setting then some setting else none

/-- The values that an environment gives to settings. Those of several variables are merged. -/
def layer (settings : List Text) (environment : Environment) : Value.Entries :=
  environment.foldl
    (fun entries (name, s) =>
      match settingOf? settings name with
      | some setting => Value.mergeEntries entries [(setting, ofText s)]
      | none => entries)
    []

end SkipChecks.Environment
