import SkipChecks.Shell.Escape

/-!
# Floating-point numbers

A number of a kind has so many binary digits, and a power of two that it is multiplied with. What lies
between two numbers goes to the nearer one, and to the one whose last digit is even if both are equally
near. Everything is computed in whole numbers.
-/

namespace SkipChecks.Shell

/-- What numbers there are. -/
structure FloatingKind where
  /-- How many binary digits a number has. -/
  digits : Nat
  /-- The least power of two that a number is multiplied with. -/
  least : Int
  /-- The power of two that all numbers lie below. -/
  top : Int
  /-- How many binary digits stand in front of the point where a number is written in hexadecimal
  digits. -/
  leading : Nat
  deriving DecidableEq, Repr

namespace FloatingKind

/-- Numbers of eight bytes. -/
def double : FloatingKind := ⟨53, -1074, 1024, 1⟩

/-- Numbers of ten bytes. -/
def extended : FloatingKind := ⟨64, -16445, 16384, 4⟩

end FloatingKind

/-- A number, or what stands for one. -/
inductive Floating
  /-- A whole number times a power of two. -/
  | finite (negative : Bool) (significand : Nat) (exponent : Int)
  | infinite (negative : Bool)
  | nan (negative : Bool)
  deriving DecidableEq, Repr

def Floating.isNegative : Floating → Bool
  | .finite negative _ _ | .infinite negative | .nan negative => negative

/-- A quotient as a whole number, rounded to the nearest one, and to the even one of two. -/
def roundQuotient (n d : Nat) : Nat :=
  let q := n / d
  let twice := 2 * (n % d)
  if d < twice ∨ (twice = d ∧ q % 2 = 1) then q + 1 else q

/-- A quotient times a power of a base, as a quotient. -/
def scaled (base : Nat) (exponent : Int) (n d : Nat) : Nat × Nat :=
  if 0 ≤ exponent then (n * Nat.pow base exponent.toNat, d) else (n, d * Nat.pow base (-exponent).toNat)

namespace Floating

/-- The power of two that is the greatest one not above a quotient. -/
def firstExponent (n d : Nat) : Int :=
  let k : Int := n.log2 - d.log2
  let (a, b) := scaled 2 (-k) n d
  if a < b then k - 1 else k

/-- The number of a kind that is nearest to a quotient, and whether it is in range: not too large, and
not so small that digits are lost. -/
def ofQuotient (kind : FloatingKind) (negative : Bool) (n d : Nat) : Floating × Bool :=
  if n = 0 then (.finite negative 0 kind.least, true)
  else
    let free := firstExponent n d + 1 - kind.digits
    let exponent := max free kind.least
    let (a, b) := scaled 2 (-exponent) n d
    let s := roundQuotient a b
    let full := Nat.pow 2 kind.digits
    let (significand, exponent) := if s = full then (s / 2, exponent + 1) else (s, exponent)
    if kind.top < exponent + kind.digits then (.infinite negative, false)
    else
      let (a', b') := scaled 2 (-free) n d
      let isTiny := free + (if roundQuotient a' b' = full then 1 else 0) < kind.least
      (.finite negative significand exponent, !isTiny || a % b == 0)

/-- The number of a kind that is nearest to a whole number times a power of a base, and whether it is in
range. Powers that are far out of range are not computed. -/
def ofScientific (kind : FloatingKind) (negative : Bool) (base m : Nat) (exponent : Int) :
    Floating × Bool :=
  let size : Int := (Nat.toDigits base m).length + exponent
  if m = 0 then (.finite negative 0 kind.least, true)
  else if kind.top < size then (.infinite negative, false)
  else if size < kind.least - 1 then (.finite negative 0 kind.least, false)
  else
    let (n, d) := scaled base exponent m 1
    ofQuotient kind negative n d

example :
    ofScientific .double false 10 25 (-1) = (.finite false 0x14000000000000 (-51), true) ∧
      (ofScientific .double false 10 1 400).1 = .infinite false ∧
      ofScientific .double true 2 1 (-1074) = (.finite true 1 (-1074), true) := by
  decide +kernel

end Floating

end SkipChecks.Shell
