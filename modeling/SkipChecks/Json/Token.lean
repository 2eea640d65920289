import SkipChecks.Text.Basic

/-!
# JSON tokens

A JSON text is cut into tokens by a machine that looks at one character at a time. Blanks between
tokens leave no trace, so texts that differ in layout only have the same tokens.

A string may hold escapes that stand for half of a surrogate pair. Such a string is a token all the
same, but there is no text that it stands for. Of numbers, only those written as plain naturals
keep their value.
-/

namespace SkipChecks.Json

/-- The tokens of a JSON text. -/
inductive Token
  | openArray
  | closeArray
  | openObject
  | closeObject
  | comma
  | colon
  | null
  | bool (value : Bool)
  /-- A number without sign, fraction and exponent. -/
  | natural (value : Nat)
  /-- Any other number. -/
  | number
  /-- The text that a string stands for, if there is one. -/
  | string (content : Option Text)
  deriving DecidableEq, Repr

namespace Token

/-- The inside of a string as far as it has been read. -/
structure Inside where
  /-- The characters, last one first. -/
  read : Text
  /-- A leading surrogate that still needs its other half. -/
  lead : Option Nat
  deriving DecidableEq, Repr

namespace Inside

/-- Adds a character, unless half of a pair stands alone in front of it. -/
def add (c : Char) : Option Inside → Option Inside
  | some ⟨read, none⟩ => some ⟨c :: read, none⟩
  | _ => none

/-- Adds what an escape with this number stands for. -/
def addUnit (unit : Nat) : Option Inside → Option Inside
  | some ⟨read, none⟩ =>
    if unit < 0xd800 ∨ 0xe000 ≤ unit then some ⟨Char.ofNat unit :: read, none⟩
    else if unit < 0xdc00 then some ⟨read, some unit⟩
    else none
  | some ⟨read, some lead⟩ =>
    if 0xdc00 ≤ unit ∧ unit < 0xe000 then
      some ⟨Char.ofNat (0x10000 + (lead - 0xd800) * 0x400 + (unit - 0xdc00)) :: read, none⟩
    else none
  | none => none

/-- The text of a string that ends here. -/
def close : Option Inside → Option Text
  | some ⟨read, none⟩ => some read.reverse
  | _ => none

end Inside

/-- What the machine is in the middle of. -/
inductive Mode
  | between
  | string (inside : Option Inside)
  /-- Behind the backslash in a string. -/
  | escape (inside : Option Inside)
  /-- In a numbered escape with so many digits to come. -/
  | unit (inside : Option Inside) (missing : Nat) (value : Nat)
  /-- In a word of which this character is missing, and then these. -/
  | word (next : Char) (missing : Text) (token : Token)
  | minus
  /-- Behind a zero that starts a number. -/
  | zero (negative : Bool)
  | digits (negative : Bool) (value : Nat)
  | point
  | fraction
  | mark
  | markSign
  | exponent
  deriving Repr

def hexDigit? (c : Char) : Option Nat :=
  if c.isDigit then some (c.toNat - '0'.toNat)
  else if 'a' ≤ c ∧ c ≤ 'f' then some (c.toNat - 'a'.toNat + 10)
  else if 'A' ≤ c ∧ c ≤ 'F' then some (c.toNat - 'A'.toNat + 10)
  else none

/-- The token of a number that starts with these digits and may end behind them. -/
def ofDigits (negative : Bool) (value : Nat) : Token := if negative then number else natural value

/-- Looks at a character between two tokens: the tokens that it completes, and the mode behind. -/
def start (c : Char) : Option (List Token × Mode) :=
  match c with
  | ' ' | '\t' | '\n' | '\r' => some ([], .between)
  | '[' => some ([openArray], .between)
  | ']' => some ([closeArray], .between)
  | '{' => some ([openObject], .between)
  | '}' => some ([closeObject], .between)
  | ',' => some ([comma], .between)
  | ':' => some ([colon], .between)
  | '"' => some ([], .string (some ⟨[], none⟩))
  | 't' => some ([], .word 'r' ['u', 'e'] (bool true))
  | 'f' => some ([], .word 'a' ['l', 's', 'e'] (bool false))
  | 'n' => some ([], .word 'u' ['l', 'l'] null)
  | '-' => some ([], .minus)
  | '0' => some ([], .zero false)
  | c => if c.isDigit then some ([], .digits false (c.toNat - '0'.toNat)) else none

/-- Ends a number in front of a character. -/
def endNumber (token : Token) (c : Char) : Option (List Token × Mode) :=
  (start c).map fun (tokens, mode) => (token :: tokens, mode)

/-- Looks at a character behind the digits before a point or exponent. -/
def afterDigits (negative : Bool) (value : Nat) (c : Char) : Option (List Token × Mode) :=
  if c = '.' then some ([], .point)
  else if c = 'e' ∨ c = 'E' then some ([], .mark)
  else endNumber (ofDigits negative value) c

/-- The character that a short escape stands for. -/
def shortEscape? : Char → Option Char
  | '"' => some '"'
  | '\\' => some '\\'
  | '/' => some '/'
  | 'b' => some '\x08'
  | 'f' => some '\x0c'
  | 'n' => some '\n'
  | 'r' => some '\r'
  | 't' => some '\t'
  | _ => none

/-- Looks at one character: the tokens that it completes, and the mode behind it. -/
def step : Mode → Char → Option (List Token × Mode)
  | .between, c => start c
  | .string inside, c =>
    if c = '"' then some ([string (Inside.close inside)], .between)
    else if c = '\\' then some ([], .escape inside)
    else if c < ' ' then none
    else some ([], .string (Inside.add c inside))
  | .escape inside, c =>
    if c = 'u' then some ([], .unit inside 4 0)
    else (shortEscape? c).map fun d => ([], .string (Inside.add d inside))
  | .unit inside missing value, c =>
    (hexDigit? c).map fun d =>
      match missing with
      | 0 | 1 => ([], .string (Inside.addUnit (value * 16 + d) inside))
      | missing + 1 => ([], .unit inside missing (value * 16 + d))
  | .word next missing token, c =>
    if c = next then
      match missing with
      | [] => some ([token], .between)
      | next :: missing => some ([], .word next missing token)
    else none
  | .minus, c =>
    if c = '0' then some ([], .zero true)
    else if c.isDigit then some ([], .digits true (c.toNat - '0'.toNat))
    else none
  | .zero negative, c => afterDigits negative 0 c
  | .digits negative value, c =>
    if c.isDigit then some ([], .digits negative (value * 10 + (c.toNat - '0'.toNat)))
    else afterDigits negative value c
  | .point, c => if c.isDigit then some ([], .fraction) else none
  | .fraction, c =>
    if c.isDigit then some ([], .fraction)
    else if c = 'e' ∨ c = 'E' then some ([], .mark)
    else endNumber number c
  | .mark, c =>
    if c = '+' ∨ c = '-' then some ([], .markSign)
    else if c.isDigit then some ([], .exponent)
    else none
  | .markSign, c => if c.isDigit then some ([], .exponent) else none
  | .exponent, c => if c.isDigit then some ([], .exponent) else endNumber number c

/-- The tokens that the end of the text completes. -/
def atEnd : Mode → Option (List Token)
  | .between => some []
  | .zero negative => some [ofDigits negative 0]
  | .digits negative value => some [ofDigits negative value]
  | .fraction | .exponent => some [number]
  | _ => none

/-- The tokens from a mode on. -/
def run : Mode → Text → Option (List Token)
  | mode, [] => atEnd mode
  | mode, c :: cs => do
    let (tokens, mode) ← step mode c
    let rest ← run mode cs
    return tokens ++ rest

def ofText? (s : Text) : Option (List Token) := run .between s

end Token

end SkipChecks.Json
