import SkipChecks.Declaration
import SkipChecks.Guard

/-!
# Injection of guards

Every declared test gets the guards for what its body depends on, right behind the opening brace.
Bodies are read from the text as it was before any insertion. Guards that are there already are not
looked at: each round inserts them anew.
-/

namespace SkipChecks

/-- What injection makes of a source text. -/
structure Injection where
  content : Text
  /-- How many tests got guards. -/
  guardedTests : Nat
  guards : Nat
  deriving DecidableEq, Repr

namespace Injection

/-- Guards as they are inserted: each on an indented line of its own. -/
def block (guards : List Guard) : Text :=
  guards.flatMap (fun guard => "\n    ".toList ++ guard.text) ++ ['\n']

/-- Puts a text at a byte offset. -/
def insertAt (start : Nat) (inserted s : Text) : Text :=
  match Text.splitAtByte? s start with
  | some (before, after) => before ++ inserted ++ after
  | none => s

/-- The guards for the body that starts at a byte offset. -/
def guardsAt (source : Text) (start : Nat) : List Guard :=
  match Declaration.bodyAt? source start with
  | some body => (Dependencies.scan body).guards
  | none => []

/-- Where guards go in a source text, in ascending order, and which ones. -/
def placements (source : Text) : List (Nat × List Guard) :=
  ((Declaration.locate source).map fun d => (d.bodyStart, guardsAt source d.bodyStart)).filter
    fun (_, guards) => !guards.isEmpty

/-- Puts in blocks of guards, the last one first, so that the offsets of the others stay right. -/
def insertAll (placements : List (Nat × List Guard)) (source : Text) : Text :=
  placements.foldr (fun (start, guards) s => insertAt start (block guards) s) source

/-- Inserts guards into every test of a source text. -/
def ofSource (source : Text) : Injection :=
  let placements := placements source
  ⟨insertAll placements source, placements.length, (placements.map (·.2.length)).foldr (· + ·) 0⟩

def changed (injection : Injection) : Bool := 0 < injection.guards

/-- Rounds of injection, each into what the one before it gave. -/
def rounds : Nat → Text → List Injection
  | 0, _ => []
  | n + 1, source => ofSource source :: rounds n (ofSource source).content

end Injection

end SkipChecks
