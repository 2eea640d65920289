import SkipChecks.Shell.Floating.Basic

/-!
# Writing floating-point numbers

A number is written with so many digits behind the point, as it is or as a number below ten times a power
of ten, and whichever of these is shorter if so many digits are asked for in all. All digits are exact,
and what is cut off is rounded. In hexadecimal digits, a number may be written as it is.
-/

namespace SkipChecks.Shell

/-- How a number is written. -/
inductive FloatingStyle
  | fixed
  | scientific
  | general
  | hexadecimal
  deriving DecidableEq, Repr

namespace Floating

/-- Digits with a point in front of the last ones. Where there are none behind it, it may be kept. -/
def withPoint (keepsPoint : Bool) (places : Nat) (digits : Text) : Text :=
  let whole := digits.length - places
  digits.take whole ++
    (if places = 0 ∧ !keepsPoint then [] else ['.']) ++ digits.drop whole

/-- A quotient with so many decimal places. -/
def fixed (keepsPoint : Bool) (places n d : Nat) : Text :=
  withPoint keepsPoint places (padded 10 (places + 1) (roundQuotient (n * Nat.pow 10 places) d))

/-- The power of ten that is the greatest one not above a quotient. -/
def decimalExponent (n d : Nat) : Int :=
  let lift := (Nat.toDigits 10 d).length
  (Nat.toDigits 10 (n * Nat.pow 10 lift / d)).length - 1 - lift

/-- The digits of a quotient, one in front of the point and some behind it, and the power of ten that
belongs to them. -/
def scientificDigits (places n d : Nat) : Nat × Int :=
  if n = 0 then (0, 0)
  else
    let exponent := decimalExponent n d
    let (a, b) := scaled 10 (places - exponent) n d
    let m := roundQuotient a b
    if m = Nat.pow 10 (places + 1) then (m / 10, exponent + 1) else (m, exponent)

/-- An exponent behind its letter, with so many digits at least. -/
def exponentText (letter : Char) (length : Nat) (exponent : Int) : Text :=
  letter :: (if exponent < 0 then '-' else '+') :: padded 10 length exponent.natAbs

/-- A quotient as a number below ten times a power of ten. -/
def scientific (keepsPoint : Bool) (places n d : Nat) : Text :=
  let (m, exponent) := scientificDigits places n d
  withPoint keepsPoint places (padded 10 (places + 1) m) ++ exponentText 'e' 2 exponent

/-- Digits without zeros at the end behind the point, and without a point at the end. -/
def withoutZeros (digits : Text) : Text :=
  if digits.any (· == '.') then
    let kept := digits.reverse.dropWhile (· == '0')
    (if kept.head? = some '.' then kept.drop 1 else kept).reverse
  else digits

/-- A quotient with so many digits in all, without zeros at the end unless the point is kept. -/
def general (keepsPoint : Bool) (count n d : Nat) : Text :=
  let count := max count 1
  let (m, exponent) := scientificDigits (count - 1) n d
  let shorten (digits : Text) : Text := if keepsPoint then digits else withoutZeros digits
  if -4 ≤ exponent ∧ exponent < count then
    shorten (fixed keepsPoint (count - 1 - exponent).toNat n d)
  else
    shorten (withPoint keepsPoint (count - 1) (padded 10 count m)) ++ exponentText 'e' 2 exponent

/-- A number in hexadecimal digits, behind `0x`. All that are needed are written unless it is said how
many. -/
def hexadecimal (kind : FloatingKind) (keepsPoint : Bool) (places : Option Nat) (s : Nat) (e : Int) :
    Text :=
  let all := (kind.digits - kind.leading) / 4
  let exponent : Int := if s = 0 then 0 else e + 4 * all
  let digits := padded 16 (all + 1) s
  let needed := all - (digits.reverse.takeWhile (· == '0')).length
  let places := places.getD needed
  let m := roundQuotient (s * Nat.pow 16 places) (Nat.pow 16 all)
  let (m, exponent) := if m = Nat.pow 16 (places + 1) then (m / 16, exponent + 4) else (m, exponent)
  '0' :: 'x' :: withPoint keepsPoint places (padded 16 (places + 1) m) ++
    exponentText 'p' 1 exponent

/-- A number without its sign, in a style, with so many places or digits if that is said. -/
def write (kind : FloatingKind) (style : FloatingStyle) (keepsPoint : Bool) (places : Option Nat) :
    Floating → Text
  | .infinite _ => "inf".toList
  | .nan _ => "nan".toList
  | .finite _ s e =>
    let (n, d) := scaled 2 e s 1
    match style with
    | .fixed => fixed keepsPoint (places.getD 6) n d
    | .scientific => scientific keepsPoint (places.getD 6) n d
    | .general => general keepsPoint (places.getD 6) n d
    | .hexadecimal => hexadecimal kind keepsPoint places s e

/-- Whether there are digits, which may have zeros in front. -/
def isFinite : Floating → Bool
  | .finite _ _ _ => true
  | _ => false

example :
    let half : Floating := .finite false 0x14000000000000 (-51)
    write .double .fixed false (some 0) half = ['2'] ∧
      write .double .scientific false none half = "2.500000e+00".toList ∧
      write .double .general false none half = "2.5".toList ∧
      write .double .hexadecimal false none half = "0x1.4p+1".toList ∧
      write .extended .hexadecimal false none (.finite false 0xa000000000000000 (-62)) =
        "0xap-2".toList := by
  decide +kernel

end Floating

end SkipChecks.Shell
