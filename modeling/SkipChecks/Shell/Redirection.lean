import SkipChecks.Shell.Expansion

/-!
# Redirections

First all words behind the operators are expanded. Then streams are redirected one after the other, so
that a fault leaves the streams before it redirected.
-/

namespace SkipChecks.Shell

open Action

/-- A redirection whose word is expanded. -/
inductive Pointing
  | file (stream : Nat) (direction : Direction) (path : Octets)
  /-- To what another stream is, or to nothing at all. -/
  | copy (stream : Nat) (source : Option Nat)
  | document (stream : Nat) (text : Word)

namespace Pointing

/-- Expands the word of a redirection. -/
def ofRedirection (run : Option Command → Action Octets) : Redirection → Action Pointing
  | .mk stream direction target => do
    match direction with
    | .document number => return .document stream (((← get).documents.lookup number).getD [])
    | .duplicate =>
      match ← Expansion.text run .here target with
      | ['-'] => return .copy stream none
      | [c] =>
        if c.isDigit then return .copy stream (some (c.toNat - '0'.toNat))
        else fail "Syntax error: Bad fd number".toList
      | _ => fail "Syntax error: Bad fd number".toList
    | direction => return .file stream direction (← Expansion.text run .here target)

def openFile (direction : Direction) (path : Octets) : Action (Except Fault Channel) := do
  match direction with
  | .input => openInput path
  | .append => openOutput path true false true
  | .both => openOutput path false true true
  | .output =>
    if (← hasOption 'C') && (← kind? path) == some .file then return .error .fileExists
    openOutput path false false false
  | _ => openOutput path false false false

/-- The stream that is redirected. -/
def target : Pointing → Nat
  | .file stream _ _ | .copy stream _ | .document stream _ => stream

/-- Redirects a stream. If what it was has been put aside, then it is closed as long as nothing takes its
place. -/
def apply (run : Option Command → Action Octets) (aside : Bool) : Pointing → Action Unit
  | .file stream direction path => do
    match ← openFile direction path with
    | .ok channel => setStream stream (some (← addChannel channel))
    | .error fault =>
      let verb := if direction = .input then "cannot open " else "cannot create "
      let missing := if direction = .input then "No such file" else "Directory nonexistent"
      fail (verb.toList ++ path ++ ": ".toList ++ faultWords missing fault)
  | .copy stream none => setStream stream none
  | .copy stream (some source) => do
    if stream = source then return
    match (← get).streams.lookup source with
    | some channel => setStream stream (some channel)
    | none =>
      if aside then setStream stream none
      fail (Text.ofNat source ++ ": Bad file descriptor".toList)
  | .document stream text => do
    let buffer ← addBuffer (Octets.toBytes (← Expansion.document run text)) none
    setStream stream (some (← addChannel ⟨.buffer buffer, 0, false, true, false⟩))

/-- Redirects streams one after the other. If they are to be given back, each of them is put aside when
it is redirected first. -/
def applyAll (run : Option Command → Action Octets) (givesBack : Bool) (pointings : List Pointing) :
    Action Unit :=
  go [] pointings
where
  /-- Goes on, where some streams have been put aside. -/
  go (put : List Nat) : List Pointing → Action Unit
    | [] => return
    | pointing :: pointings => do
      apply run (givesBack && !put.any (· == pointing.target)) pointing
      go (pointing.target :: put) pointings

end Pointing

end SkipChecks.Shell
