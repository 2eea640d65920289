import SkipChecks.Shell.Octets

/-!
# Rights to files

The rights of the owner, the group and all others are the bits of a number, three for each of them.
Changes to them are written in letters: whose rights, how they change, and which ones. Rights that are
copied are those from before all changes.
-/

namespace SkipChecks.Shell.Mode

/-- Bits of a number without those of another one. -/
def without (mode bits : Nat) : Nat := mode - (mode &&& bits)

/-- The last one of the bits that belong to a letter for whose rights there are. -/
def owner? : Char → Option Nat
  | 'a' => some 0o111
  | 'u' => some 0o100
  | 'g' => some 0o010
  | 'o' => some 0o001
  | _ => none

/-- The rights that belong to a letter, where some rights have been there before. -/
def right? (before : Nat) : Char → Option Nat
  | 'r' => some 4
  | 'w' => some 2
  | 'x' => some 1
  | 'u' => some (before / 64 % 8)
  | 'g' => some (before / 8 % 8)
  | 'o' => some (before % 8)
  | 'X' => some (if before &&& 0o111 = 0 then 0 else 1)
  | 's' => some 0
  | _ => none

/-- Whether a character says how rights change. -/
def isOperator (c : Char) : Bool := c == '=' || c == '+' || c == '-'

/-- Changes the rights of some owners. -/
def apply (operator : Char) (owners rights mode : Nat) : Nat :=
  let bits := rights * owners
  match operator with
  | '-' => without mode bits
  | '+' => mode ||| bits
  | _ => without mode (7 * owners) ||| bits

/-- Reads letters, and joins what they stand for. -/
def letters (value? : Char → Option Nat) : Nat → Octets → Nat × Octets
  | joined, [] => (joined, [])
  | joined, c :: s =>
    match value? c with
    | some n => letters value? (joined ||| n) s
    | none => (joined, c :: s)

/-- The rights behind some changes, of which the owners may have been named already. The first number
bounds the steps. -/
def change? (before : Nat) : Nat → Nat → Octets → Nat → Option Nat
  | 0, _, _, _ => none
  | _, _, [], mode => some mode
  | fuel + 1, owners, s, mode =>
    let (owners, s) := letters owner? owners s
    let owners := if owners = 0 then 0o111 else owners
    match s with
    | [] => none
    | operator :: s =>
      if !isOperator operator then none
      else
        let (rights, s) := letters (right? before) 0 s
        let mode := apply operator owners rights mode
        match s with
        | ',' :: s => change? before fuel 0 s mode
        | c :: s => if isOperator c then change? before fuel owners (c :: s) mode else none
        | [] => some mode

/-- The mask behind changes of the rights that it leaves. -/
def changeMask? (mask : Nat) (s : Octets) : Option Nat :=
  let left := without 0o777 mask
  (change? left (s.length + 1) 0 s left).map (without 0o777)

example :
    changeMask? 0o22 "u=rwx,g=rx,o=".toList = some 0o27 ∧
      changeMask? 0o22 "go-rwx".toList = some 0o77 ∧ changeMask? 0o22 "g=u".toList = some 0o2 ∧
      changeMask? 0o22 "z".toList = none := by
  decide +kernel

end SkipChecks.Shell.Mode
