import SkipChecks.Shell.Octets

/-!
# Escapes

In a text that a program prints, a backslash and what follows stand for bytes that are hard to
write. All programs know the escapes of one letter and octal numbers. What else one of them knows is
said by `Escapes`.
-/

namespace SkipChecks.Shell

def bytesOf (s : Octets) : List UInt8 := s.map Octets.byte

/-- The escapes that not all programs know. -/
structure Escapes where
  /-- A zero may stand in front of the three digits of an octal number. -/
  leadingZero : Bool
  /-- The letter `c` ends the output. -/
  stops : Bool
  /-- A double quote stands for itself. -/
  quote : Bool
  /-- The letter `x` is followed by one or two hexadecimal digits. -/
  hexadecimal : Bool
  /-- The letters `u` and `U` are followed by the number of a character, and numbers without digits
  are refused. -/
  characters : Bool
  /-- Where nothing else is known, the character behind the backslash is printed as it is. -/
  keeps : Bool
  deriving DecidableEq, Repr

/-- What an escape comes to. -/
inductive Escaped
  | bytes (bytes : List UInt8)
  /-- Nothing more is printed. -/
  | stop
  | refused (words : Text)
  deriving DecidableEq, Repr

def isOctal (c : Char) : Bool := '0' ≤ c && c ≤ '7'

def digit? (c : Char) : Option Nat :=
  if c.isDigit then some (c.toNat - '0'.toNat)
  else if 'a' ≤ c && c ≤ 'f' then some (c.toNat - 'a'.toNat + 10)
  else if 'A' ≤ c && c ≤ 'F' then some (c.toNat - 'A'.toNat + 10)
  else none

/-- The number that digits write in a base. -/
def numeral (base : Nat) (digits : Text) : Nat :=
  digits.foldl (fun n c => n * base + (digit? c).getD 0) 0

/-- The byte that an escape of one letter stands for. -/
def shortEscape? : Char → Option UInt8
  | '\\' => some 92
  | 'a' => some 7
  | 'b' => some 8
  | 'e' => some 27
  | 'f' => some 12
  | 'n' => some 10
  | 'r' => some 13
  | 't' => some 9
  | 'v' => some 11
  | _ => none

/-- The digits of a number, with zeros in front up to a length. -/
def padded (base length n : Nat) : Text :=
  let digits := Nat.toDigits base n
  List.replicate (length - digits.length) '0' ++ digits

/-- What the number of a character comes to. Characters that are not ASCII are printed as escapes
again, and numbers of no character are refused. -/
def character (letter : Char) (length n : Nat) : Escaped :=
  if 0xd800 ≤ n ∧ n < 0xe000 then
    .refused ("invalid universal character name \\".toList ++ letter :: padded 16 length n)
  else if n < 0x80 then .bytes [UInt8.ofNat n]
  else
    .bytes <| bytesOf <|
      if n < 0x10000 then '\\' :: 'u' :: (padded 16 4 n).map Char.toUpper
      else '\\' :: 'U' :: (padded 16 8 n).map Char.toUpper

namespace Escapes

/-- What stands behind a backslash, and the rest. -/
def read (rules : Escapes) : Text → Escaped × Text
  | [] => (.bytes [92], [])
  | c :: s =>
    match shortEscape? c with
    | some byte => (.bytes [byte], s)
    | none =>
      if rules.stops && c == 'c' then (.stop, s)
      else if rules.quote && c == '"' then (.bytes [34], s)
      else if rules.leadingZero && c == '0' then
        let digits := (s.take 3).takeWhile isOctal
        (.bytes [UInt8.ofNat (numeral 8 digits)], s.drop digits.length)
      else if isOctal c then
        let digits := ((c :: s).take 3).takeWhile isOctal
        (.bytes [UInt8.ofNat (numeral 8 digits)], (c :: s).drop digits.length)
      else if rules.hexadecimal && c == 'x' then
        match (s.take 2).takeWhile (digit? · |>.isSome) with
        | [] => if rules.characters then (missing, s) else unknown rules c s
        | digits => (.bytes [UInt8.ofNat (numeral 16 digits)], s.drop digits.length)
      else if rules.characters && (c == 'u' || c == 'U') then
        let length := if c = 'u' then 4 else 8
        let digits := (s.take length).takeWhile (digit? · |>.isSome)
        if digits.length < length then (missing, s)
        else (character c length (numeral 16 digits), s.drop length)
      else unknown rules c s
where
  /-- A number without digits. -/
  missing : Escaped := .refused "missing hexadecimal number in escape".toList
  /-- A character that means nothing behind a backslash. -/
  unknown (rules : Escapes) (c : Char) (s : Text) : Escaped × Text :=
    if rules.keeps then (.bytes (92 :: bytesOf [c]), s) else (.bytes [92], c :: s)

/-- The bytes of a text with escapes, and how the text ends. -/
def readAll (rules : Escapes) : Nat → Text → List UInt8 × Escaped
  | 0, _ | _, [] => ([], .bytes [])
  | fuel + 1, '\\' :: s =>
    match rules.read s with
    | (.bytes bytes, s) => (rules.readAll fuel s).map (bytes ++ ·) id
    | (ending, _) => ([], ending)
  | fuel + 1, c :: s => (rules.readAll fuel s).map (bytesOf [c] ++ ·) id

end Escapes

end SkipChecks.Shell
