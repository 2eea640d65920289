import SkipChecks.Pattern.Escape

/-!
# Classes of patterns

A class in brackets holds characters, ranges and other classes, and may be put together from classes
by operators. It is read with a stack of the classes that are open. What is kept of a class is how
deep it is nested.
-/

namespace SkipChecks.Pattern

/-- A class that is being read. -/
structure OpenClass where
  /-- How deep each part since the last operator is nested. -/
  items : List Nat
  /-- How deep the parts in front of the last operator are nested, if there is one. -/
  left : Option Nat

namespace OpenClass

def add (c : OpenClass) (depth : Nat) : OpenClass := { c with items := depth :: c.items }

/-- How deep the parts since the last operator are nested together. -/
def itemsDepth : List Nat → Nat
  | [] => 0
  | [depth] => depth
  | depths => 1 + depths.foldl max 0

/-- How deep everything is nested together. -/
def depth (c : OpenClass) : Nat :=
  match c.left with
  | none => itemsDepth c.items
  | some left => 1 + max left (itemsDepth c.items)

/-- Goes on behind an operator. -/
def operator (c : OpenClass) : OpenClass := ⟨[], some c.depth⟩

end OpenClass

def asciiNames : List Text :=
  ["alnum", "alpha", "ascii", "blank", "cntrl", "digit", "graph", "lower", "print", "punct",
    "space", "upper", "word", "xdigit"].map String.toList

/-- Reads a named class behind its bracket and colon: whether it is negated. -/
def asciiClass? (s : Text) : Option (Bool × Text) :=
  let (negated, s) : Bool × Text :=
    match s with
    | '^' :: s => (true, s)
    | s => (false, s)
  match s.dropWhile (· != ':') with
  | ':' :: ']' :: rest =>
    if asciiNames.contains (s.takeWhile (· != ':')) then some (negated, rest) else none
  | _ => none

/-- Reads the dashes that a class begins with, each of which stands for itself. -/
def leadingDashes (mode : Mode) : Nat → OpenClass → Text → OpenClass × Text
  | fuel + 1, c, '-' :: s => leadingDashes mode fuel (c.add 0) (mode.skip s)
  | _, c, s => (c, s)

/-- Reads the beginning of a class behind its bracket. A bracket that comes first stands for
itself. Classes of bytes cannot be negated. -/
def openClass? (mode : Mode) (s : Text) : Option (OpenClass × Text) :=
  let (negated, s) : Bool × Text :=
    match mode.skip s with
    | '^' :: s => (true, mode.skip s)
    | s => (false, s)
  if s.isEmpty || (negated && !mode.unicode) then none
  else
    match leadingDashes mode (s.length + 1) ⟨[], none⟩ s with
    | (⟨[], left⟩, ']' :: s) => some (⟨[0], left⟩, mode.skip s)
    | opened => some opened

/-- What a range may start or end with. -/
inductive ClassPart
  | character (c : Char)
  | subclass
  deriving DecidableEq, Repr

/-- Reads one character or escape of a class. -/
def classPart? (mode : Mode) (s : Text) : Option (ClassPart × Text) :=
  match s with
  | [] => none
  | '\\' :: s => do
    let (e, s) ← escape? mode s
    match e with
    | .character c => if mode.unicode || c ≤ '\x7f' then some (.character c, s) else none
    | .byte c => if mode.unicode || c ≤ '\x7f' then some (.character c, s) else none
    | .class negated => if mode.unicode || !negated then some (.subclass, s) else none
    | .property => if mode.unicode then some (.subclass, s) else none
    | .edge | .wordEdge => none
  | c :: s => if mode.unicode || c ≤ '\x7f' then some (.character c, s) else none

/-- The character behind the first one, blanks that mean nothing aside. -/
def peek (mode : Mode) (s : Text) : Option Char :=
  if mode.spaced then
    match Text.trimStart (s.drop 1) with
    | '#' :: s => (Text.trimStart s).head?
    | s => s.head?
  else (s.drop 1).head?

/-- Reads a character, an escape or a range. -/
def classItem? (mode : Mode) (s : Text) : Option Text := do
  let (first, s) ← classPart? mode s
  match mode.skip s with
  | [] => none
  | '-' :: rest =>
    let s := '-' :: rest
    if peek mode s = some ']' ∨ peek mode s = some '-' then some s
    else do
      match first, ← classPart? mode (mode.skip rest) with
      | .character a, (.character b, s) => if a ≤ b then some s else none
      | _, _ => none
  | s => some s

/-- Reads a class up to its end, of which the first one is open and then those around it: how deep
it is nested, and the rest. -/
def class? (mode : Mode) : Nat → OpenClass → List OpenClass → Text → Option (Nat × Text)
  | 0, _, _, _ => none
  | fuel + 1, c, around, s =>
    match mode.skip s with
    | [] => none
    | '[' :: s =>
      match (match s with | ':' :: s => asciiClass? s | _ => none) with
      | some (negated, s) =>
        if negated && !mode.unicode then none else class? mode fuel (c.add 0) around s
      | none => do
        let (inner, s) ← openClass? mode s
        class? mode fuel inner (c :: around) s
    | ']' :: s =>
      match around with
      | [] => some (1 + c.depth, s)
      | outer :: around => class? mode fuel (outer.add (1 + c.depth)) around s
    | '&' :: '&' :: s | '-' :: '-' :: s | '~' :: '~' :: s =>
      class? mode fuel c.operator around s
    | s => do class? mode fuel (c.add 0) around (← classItem? mode s)

end SkipChecks.Pattern
