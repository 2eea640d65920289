import SkipChecks.Shell.Escape

/-!
# Numbers in texts

Whole numbers of 64 bits as they are written in scripts and arguments. Blanks may stand around them.
-/

namespace SkipChecks.Shell

/-- Whether a character may stand around a number. -/
def isBlankByte (c : Char) : Bool := c == ' ' || ('\t' ≤ c && c ≤ '\r')

namespace Number

/-- The greatest number. -/
def greatest : Int := Int.pow 2 63 - 1

/-- The number at the start of a text, octal behind a zero and hexadecimal behind `0x`, and what
follows. -/
def digits (s : Octets) : Nat × Octets :=
  let hexadecimal : Octets :=
    match s with
    | '0' :: x :: s => if x = 'x' ∨ x = 'X' then s.takeWhile (digit? · |>.isSome) else []
    | _ => []
  if hexadecimal ≠ [] then (numeral 16 hexadecimal, s.drop (hexadecimal.length + 2))
  else if s.head? = some '0' then (numeral 8 (s.takeWhile isOctal), s.dropWhile isOctal)
  else (numeral 10 (s.takeWhile Char.isDigit), s.dropWhile Char.isDigit)

/-- The value of a text in a base, or the one that its own digits say. A text without digits has the value
zero in the latter case only. -/
def value? (base : Option Nat) (s : Octets) : Option Int :=
  let trimmed := s.dropWhile isBlankByte
  let (negative, unsigned) : Bool × Octets :=
    match trimmed with
    | '-' :: t => (true, t)
    | '+' :: t => (false, t)
    | t => (false, t)
  let (n, rest) : Nat × Octets :=
    match base with
    | some base => (numeral base (unsigned.takeWhile Char.isDigit), unsigned.dropWhile Char.isDigit)
    | none => digits unsigned
  let isMissing := unsigned.length = rest.length
  let rest := if isMissing then s else rest
  let n : Int := if negative then -(n : Int) else n
  if isMissing ∧ base.isSome then none
  else if !(rest.dropWhile isBlankByte).isEmpty then none
  else if isMissing then some 0
  else if n < -Int.pow 2 63 ∨ greatest < n then none
  else some n

example :
    value? (some 10) " 12 ".toList = some 12 ∧ value? (some 10) [] = none ∧
      value? none "-0x1f".toList = some (-31) ∧ value? none "08".toList = none := by
  decide +kernel

end Number

end SkipChecks.Shell
