import SkipChecks.Shell.Floating.Basic
import SkipChecks.Shell.Number

/-!
# Reading floating-point numbers

A number is written in decimal digits, or in hexadecimal ones behind `0x`, with a point among them if
there is a fraction, and with an exponent behind them if it is multiplied with a power of ten or of two.
There are names for what is larger than all numbers and for what is no number.
-/

namespace SkipChecks.Shell

namespace Floating

/-- The text behind some letters, which may be large or small ones. -/
def behindLetters? : Text → Text → Option Text
  | [], s => some s
  | _, [] => none
  | c :: letters, d :: s => if d.toLower = c then behindLetters? letters s else none

/-- The exponent behind a letter, and what follows it. There is none if no digit follows. -/
def exponentOf (letter : Char) (s : Text) : Int × Text :=
  match s with
  | c :: rest =>
    if c.toLower ≠ letter then (0, s)
    else
      let (negative, rest) := match rest with
        | '-' :: rest => (true, rest)
        | '+' :: rest => (false, rest)
        | rest => (false, rest)
      let digits := rest.takeWhile Char.isDigit
      if digits = [] then (0, s)
      else
        let n : Int := numeral 10 digits
        (if negative then -n else n, rest.drop digits.length)
  | [] => (0, [])

/-- The digits at the start of a text in front of the point and behind it, and what follows them. There
must be one at least. -/
def digitsOf? (isDigit : Char → Bool) (s : Text) : Option (Text × Text × Text) :=
  let whole := s.takeWhile isDigit
  let rest := s.drop whole.length
  let (fraction, rest) := match rest with
    | '.' :: rest =>
      let fraction := rest.takeWhile isDigit
      (fraction, rest.drop fraction.length)
    | rest => ([], rest)
  if whole = [] ∧ fraction = [] then none else some (whole, fraction, rest)

/-- A number in decimal digits, whether it is in range, and what follows it. -/
def decimal? (kind : FloatingKind) (negative : Bool) (s : Text) :
    Option ((Floating × Bool) × Text) := do
  let (whole, fraction, rest) ← digitsOf? Char.isDigit s
  let (exponent, rest) := exponentOf 'e' rest
  let m := numeral 10 (whole ++ fraction)
  return (ofScientific kind negative 10 m (exponent - fraction.length), rest)

/-- A number in hexadecimal digits, whether it is in range, and what follows it. -/
def hexadecimal? (kind : FloatingKind) (negative : Bool) (s : Text) :
    Option ((Floating × Bool) × Text) := do
  let s ← behindLetters? ['0', 'x'] s
  let (whole, fraction, rest) ← digitsOf? (digit? · |>.isSome) s
  let (exponent, rest) := exponentOf 'p' rest
  let m := numeral 16 (whole ++ fraction)
  return (ofScientific kind negative 2 m (exponent - 4 * fraction.length), rest)

/-- What is no number, and what follows it, maybe behind parentheses. -/
def nan? (negative : Bool) (s : Text) : Option ((Floating × Bool) × Text) := do
  let rest ← behindLetters? ['n', 'a', 'n'] s
  let inside := match rest with
    | '(' :: rest => rest.takeWhile fun (c : Char) => c.isAlphanum || c == '_'
    | _ => []
  let behind := rest.drop (inside.length + 1)
  let rest := if rest.head? = some '(' ∧ behind.head? = some ')' then behind.drop 1 else rest
  return ((.nan negative, true), rest)

/-- What is larger than all numbers, and what follows it. -/
def infinity? (negative : Bool) (s : Text) : Option ((Floating × Bool) × Text) := do
  let rest ← behindLetters? "inf".toList s
  return ((.infinite negative, true), (behindLetters? "inity".toList rest).getD rest)

/-- The number at the start of a text, whether it is in range, and what follows it. -/
def read? (kind : FloatingKind) (s : Text) : Option ((Floating × Bool) × Text) :=
  let (negative, s) := match s.dropWhile isBlankByte with
    | '-' :: s => (true, s)
    | '+' :: s => (false, s)
    | s => (false, s)
  hexadecimal? kind negative s <|> decimal? kind negative s <|> infinity? negative s <|>
    nan? negative s

example :
    read? .double " -2.5e1x".toList =
        some ((.finite true 0x19000000000000 (-48), true), ['x']) ∧
      read? .double "infinit".toList = some ((.infinite false, true), "init".toList) ∧
      read? .double "0x.p".toList = some ((.finite false 0 (-1074), true), "x.p".toList) := by
  decide +kernel

end Floating

end SkipChecks.Shell
