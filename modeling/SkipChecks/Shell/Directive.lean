import SkipChecks.Shell.Floating.Printer
import SkipChecks.Shell.Floating.Reader

/-!
# Directives

A directive of a format says how an argument is printed: flags, a width to be filled up, and a precision,
which is a number of digits or of bytes. Arguments that are to be numbers are read first.
-/

namespace SkipChecks.Shell

/-- The whole number at the start of a text, and what follows it. There is none if the text follows
whole. -/
def leadingNumber (s : Text) : Int × Text :=
  match s.dropWhile isBlankByte with
  | '-' :: digits => (magnitude digits).elim (0, s) fun (n, rest) => (-(n : Int), rest)
  | '+' :: digits => (magnitude digits).elim (0, s) fun (n, rest) => (n, rest)
  | digits => (magnitude digits).elim (0, s) fun (n, rest) => (n, rest)
where
  /-- The number that digits write: hexadecimal behind `0x`, octal behind a zero. -/
  magnitude (s : Text) : Option (Nat × Text) :=
    let hexadecimal :=
      match s with
      | '0' :: x :: digits =>
        if x = 'x' ∨ x = 'X' then digits.takeWhile (digit? · |>.isSome) else []
      | _ => []
    if hexadecimal ≠ [] then some (numeral 16 hexadecimal, s.drop (hexadecimal.length + 2))
    else
      let octal := s.head? == some '0'
      let digits := s.takeWhile (if octal then isOctal else Char.isDigit)
      if digits = [] then none
      else some (numeral (if octal then 8 else 10) digits, s.drop digits.length)

/-- The least and the greatest number that a conversion takes. -/
def bounds (signed : Bool) : Int × Int :=
  if signed then (-Int.pow 2 63, Int.pow 2 63 - 1) else (1 - Int.pow 2 64, Int.pow 2 64 - 1)

/-- How an argument is printed. -/
structure Directive where
  flags : Text
  width : Int
  precision : Option Int

namespace Directive

def has (d : Directive) (flag : Char) : Bool := d.flags.any (· == flag)

/-- Whether the output is put to the left. -/
def isLeft (d : Directive) : Bool := d.has '-' || d.width < 0

/-- Fills up with blanks. -/
def fill (d : Directive) (bytes : List UInt8) : List UInt8 :=
  let blanks := List.replicate (d.width.natAbs - bytes.length) 32
  if d.isLeft then bytes ++ blanks else blanks ++ bytes

/-- The precision, unless it is negative. -/
def digits? (d : Directive) : Option Nat := d.precision.bind Int.toNat?

/-- Prints a number with a sign or a mark in front. -/
def number (d : Directive) (front digits : Text) : List UInt8 :=
  let length := d.digits?.getD 1
  let digits := List.replicate (length - digits.length) '0' ++ digits
  let zeros :=
    if d.has '0' && !d.isLeft && d.digits?.isNone then
      d.width.natAbs - front.length - digits.length
    else 0
  d.fill (bytesOf (front ++ List.replicate zeros '0' ++ digits))

def sign (d : Directive) (negative : Bool) : Text :=
  if negative then ['-'] else if d.has '+' then ['+'] else if d.has ' ' then [' '] else []

/-- The digits of a number, none for zero. -/
def numerals (base n : Nat) : Text := if n = 0 then [] else Nat.toDigits base n

/-- Prints a number as a conversion asks. -/
def convert (d : Directive) (conversion : Char) (n : Int) : List UInt8 :=
  if conversion = 'd' ∨ conversion = 'i' then
    d.number (d.sign (n < 0)) (numerals 10 n.natAbs)
  else
    let n := (n % Int.pow 2 64).toNat
    let marked := d.has '#' && n != 0
    match conversion with
    | 'o' => d.number [] (if marked then '0' :: numerals 8 n else numerals 8 n)
    | 'x' => d.number (if marked then ['0', 'x'] else []) (numerals 16 n)
    | 'X' => d.number (if marked then ['0', 'X'] else []) ((numerals 16 n).map Char.toUpper)
    | _ => d.number [] (numerals 10 n)

/-- Prints a floating-point number as a conversion asks. If digits of another alphabet are asked for, then
the digits are left out, since there are none. -/
def convertFloating (d : Directive) (kind : FloatingKind) (conversion : Char) (x : Floating) :
    List UInt8 :=
  let style : FloatingStyle := match conversion.toLower with
    | 'f' => .fixed
    | 'e' => .scientific
    | 'g' => .general
    | _ => .hexadecimal
  let text := x.write kind style (d.has '#') d.digits?
  let text := if conversion.isUpper then text.map Char.toUpper else text
  let mark := if x.isFinite && style == .hexadecimal then 2 else 0
  let sign := d.sign x.isNegative
  let zeros :=
    if d.has '0' && !d.isLeft && x.isFinite then d.width.natAbs - sign.length - text.length else 0
  let whole := d.fill <| bytesOf <|
    sign ++ text.take mark ++ List.replicate zeros '0' ++ text.drop mark
  if d.has 'I' then whole.filter fun b => !(48 ≤ b && b ≤ 57) else whole

end Directive

end SkipChecks.Shell
