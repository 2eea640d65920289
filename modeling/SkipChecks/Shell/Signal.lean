import SkipChecks.Program.Outcome
import SkipChecks.Shell.Octets

/-!
# Signals

Signals by name and number, and what they do to a program that does not care.
-/

namespace SkipChecks.Shell.Signal

/-- The greatest number of a signal. -/
def greatest : Nat := 64

/-- The name of a signal. The number 0 stands for the end of a shell. -/
def name (signal : Nat) : Octets :=
  if signal = 0 then "EXIT".toList
  else if signal = 16 then ['1', '6']
  else if signal < 34 then
    match Ending.signalNames[signal - 1]? with
    | some name => name.toList
    | none => Text.ofNat signal
  else if signal = 34 then "RTMIN".toList
  else if signal < 50 then "RTMIN+".toList ++ Text.ofNat (signal - 34)
  else if signal < 64 then "RTMAX-".toList ++ Text.ofNat (64 - signal)
  else "RTMAX".toList

/-- The number that digits write, if it is one of a signal. -/
def ofDigits? (s : Octets) : Option Nat :=
  if s.isEmpty || !s.all Char.isDigit then none
  else
    let n := s.foldl (fun n c => 10 * n + (c.toNat - '0'.toNat)) 0
    if n ≤ greatest then some n else none

/-- The signal of a name or number. Names are those of signals from a number on. -/
def ofText? (least : Nat) (s : Octets) : Option Nat :=
  match ofDigits? s with
  | some signal => some signal
  | none =>
    ((List.range (greatest + 1)).drop least).find? fun signal => name signal == s.map Char.toUpper

/-- Signals that a program outlives. -/
def isHarmless (signal : Nat) : Bool := [0, 17, 18, 23, 28].any (· == signal)

/-- What is said about a program that a signal has ended. -/
def words (signal : Nat) : Octets :=
  if signal < 32 then ((Ending.signalWords[signal - 1]?).getD "").toList
  else if signal < 34 then "Unknown signal ".toList ++ Text.ofNat signal
  else "Real-time signal ".toList ++ Text.ofNat (signal - 34)

/-- Whether it is said that a signal has ended a program. -/
def isTold (signal : Nat) : Bool := signal != 2 && signal != 13

end SkipChecks.Shell.Signal
