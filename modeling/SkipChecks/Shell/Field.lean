import SkipChecks.Shell.Octets

/-!
# Fields

When everything has been put into a word, it is split into fields where values allow that: at the
characters of `IFS`. Blanks among these characters make one separator together, with at most one of the
other characters; each of the others is a separator of its own.
-/

namespace SkipChecks.Shell

/-- A sign of a word in which everything has been put. -/
inductive Sign
  /-- A character, which means nothing in patterns if it is quoted. -/
  | char (quoted : Bool) (c : Char)
  /-- A quotation mark, which makes a field even if nothing else does. -/
  | mark
  /-- What stands between two parameters. -/
  | separator
  deriving DecidableEq, Repr

/-- A stretch of a word that may be split, maybe between parameters only. -/
structure Stretch where
  number : Nat
  betweenParameters : Bool
  deriving DecidableEq, Repr

/-- A sign with the stretch it belongs to. -/
structure Glyph where
  sign : Sign
  stretch : Option Stretch
  deriving DecidableEq, Repr

/-- The characters of signs, without their quoting. -/
def textOf (signs : List Sign) : Octets :=
  signs.filterMap fun
    | .char _ c => some c
    | _ => none

/-- The pattern that signs stand for. -/
def patternOf (signs : List Sign) : Octets :=
  signs.flatMap fun
    | .char true c => ['\\', c]
    | .char false c => [c]
    | _ => []

/-- The characters that separate fields where nothing else is said. -/
def standardSeparators : Octets := [' ', '\t', '\n']

/-- Splitting. Fields and the signs of the last one come last one first. -/
structure Splitting where
  done : List (List Sign)
  current : List Sign
  /-- Whether blanks have just ended a field, so that more of a separator may follow. -/
  inSeparator : Bool
  stretch : Option Stretch
  /-- Whether the stretch before this one was split between parameters only. -/
  afterParameters : Bool
  /-- How many more fields there may be; the last one takes what is left. -/
  room : Option Nat
  /-- Where what ends the last field begins. -/
  cut : Option Nat

namespace Splitting

def add (s : Splitting) (sign : Sign) : Splitting := { s with current := sign :: s.current }

/-- Looks at a sign of a stretch, which may be a separator and a blank one. -/
def addSplit (s : Splitting) (sign : Sign) (separates blank between : Bool) : Splitting :=
  if s.room = some 0 then
    if blank then { s.add sign with cut := some (s.cut.getD s.current.length) }
    else
      { s.add sign with cut := if separates && s.inSeparator then s.cut else none, inSeparator := false }
  else if s.inSeparator ∧ blank then s
  else if s.inSeparator ∧ separates then { s with inSeparator := false }
  else if separates then
    let inSeparator := blank && !(between || s.afterParameters)
    if s.current = [] ∧ inSeparator then { s with inSeparator := false }
    else if s.room = some 1 then
      { s.add sign with inSeparator, room := some 0, cut := some s.current.length }
    else
      { s with
        done := s.current.reverse :: s.done, current := [], inSeparator, room := s.room.map (· - 1) }
  else { s.add sign with inSeparator := false }

def step (separators : Octets) (s : Splitting) (g : Glyph) : Splitting :=
  match g.stretch with
  | none => s.add g.sign
  | some stretch =>
    let s :=
      if s.stretch = some stretch then s
      else
        { s with
          stretch := some stretch, inSeparator := false,
          afterParameters := s.stretch.any (·.betweenParameters) }
    match g.sign with
    | .char quoted c =>
      let separates := !stretch.betweenParameters && separators.any (· == c)
      s.addSplit (.char quoted c) separates (separates && standardSeparators.any (· == c))
        stretch.betweenParameters
    | .separator => s.addSplit .separator true true stretch.betweenParameters
    | .mark => s.addSplit .mark false false stretch.betweenParameters

end Splitting

/-- The fields of a word, at most so many. -/
def splitFields (separators : Octets) (room : Option Nat) (glyphs : List Glyph) :
    List (List Sign) :=
  let s := glyphs.foldl (Splitting.step separators) ⟨[], [], false, none, false, room, none⟩
  let last := s.current.reverse
  let last := s.cut.elim last last.take
  let keeps := s.stretch.any (·.betweenParameters)
  (if last = [] ∧ !keeps then s.done else last :: s.done).reverse

end SkipChecks.Shell
