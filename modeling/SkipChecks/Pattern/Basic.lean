import SkipChecks.Pattern.Class

/-!
# Patterns

Which texts are regular expressions that can be matched without going back: no references, nothing
looked at ahead or behind, and no edges of words in Unicode. A pattern of bytes must not match what
is no text. How often something is repeated is not told in braces, since no pattern holds a closing
brace.
-/

namespace SkipChecks.Pattern

/-- A part of a pattern, as far as repeating it is concerned. -/
inductive Item
  /-- A change of the mode, which cannot be repeated. -/
  | change
  /-- Anything else, which is nested so deep. -/
  | part (depth : Nat)
  deriving DecidableEq, Repr

/-- How deep a sequence of parts is nested. -/
def sequenceDepth : List Item → Nat
  | [] => 0
  | [.change] => 0
  | [.part depth] => depth
  | items => 1 + items.foldl (fun n item => match item with | .change => n | .part d => max n d) 0

/-- How deep alternatives are nested. -/
def alternativesDepth : List Nat → Nat
  | [] => 0
  | [depth] => depth
  | depths => 1 + depths.foldl max 0

/-- What is being read on one level. -/
structure Level where
  mode : Mode
  /-- The parts since the last bar, last one first. -/
  items : List Item
  /-- How deep the alternatives in front of the last bar are nested. -/
  alternatives : List Nat

namespace Level

/-- How deep everything on a level is nested. -/
def depth (level : Level) : Nat :=
  alternativesDepth (sequenceDepth level.items :: level.alternatives)

def add (level : Level) (depth : Nat) : Level :=
  { level with items := .part depth :: level.items }

/-- Repeats the last part, if there is one that can be repeated. -/
def repeat? (level : Level) : Option Level :=
  match level.items with
  | .part depth :: items => some { level with items := .part (depth + 1) :: items }
  | _ => none

end Level

/-- Reads the letters that change the mode, up to a colon or the end of the group: the mode behind,
whether there are any, and the rest. No letter stands twice, nor does the minus, which comes in front
of letters. -/
def changes? : Mode → Bool → Text → Text → Option (Mode × Bool × Text)
  | _, _, _, [] => none
  | mode, negative, read, c :: s =>
    if c = ':' ∨ c = ')' then
      if read.head? = some '-' then none else some (mode, read.isEmpty, c :: s)
    else if read.any (· == c) || !("imsUuRx-".toList.any (· == c)) then none
    else
      let mode :=
        if c = 'x' then { mode with spaced := !negative }
        else if c = 'u' then { mode with unicode := !negative }
        else mode
      changes? mode (negative || c == '-') (c :: read) s

/-- Reads the name of a group up to its end. -/
def groupName? (s : Text) : Option (Text × Text) :=
  match s.takeWhile (· != '>'), s.dropWhile (· != '>') with
  | c :: cs, _ :: rest =>
    if (c == '_' || Text.isAlphabetic c) &&
        cs.all fun c => c == '_' || c == '.' || c == '[' || c == ']' || Text.isAlphanumeric c then
      some (c :: cs, rest)
    else none
  | _, _ => none

/-- How deep a pattern may be nested. -/
def depthLimit : Nat := 250

/-- Reads a pattern from inside of some groups, of which names have been used. -/
def reads : Nat → Level → List Level → List Text → Text → Bool
  | 0, _, _, _, _ => false
  | fuel + 1, level, around, names, s =>
    let mode := level.mode
    match mode.skip s with
    | [] => around.isEmpty && level.depth ≤ depthLimit
    | '(' :: s =>
      let enter (mode : Mode) := reads fuel ⟨mode, [], []⟩ (level :: around)
      match mode.skip s with
      | '?' :: '=' :: _ | '?' :: '!' :: _ | '?' :: '<' :: '=' :: _ | '?' :: '<' :: '!' :: _ => false
      | '?' :: 'P' :: '<' :: s | '?' :: '<' :: s =>
        match groupName? s with
        | some (name, s) => !names.contains name && enter mode (name :: names) s
        | none => false
      | '?' :: s =>
        match changes? mode false [] s with
        | some (changed, empty, ')' :: s) =>
          !empty && reads fuel { level with mode := changed, items := .change :: level.items } around
            names s
        | some (changed, _, _ :: s) => enter changed names s
        | _ => false
      | s => enter mode names s
    | ')' :: s =>
      match around with
      | [] => false
      | outer :: around => reads fuel (outer.add (1 + level.depth)) around names s
    | '|' :: s =>
      reads fuel
        { level with items := [], alternatives := sequenceDepth level.items :: level.alternatives }
        around names s
    | '[' :: s =>
      match (openClass? mode s).bind fun (c, s) => class? mode (s.length + 1) c [] s with
      | some (depth, s) => reads fuel (level.add depth) around names s
      | none => false
    | '?' :: s | '*' :: s | '+' :: s =>
      match level.repeat? with
      | some level =>
        reads fuel level around names (match s with | '?' :: s => s | s => s)
      | none => false
    | '\x7b' :: _ => false
    | '\\' :: s =>
      match escape? mode s with
      | some (e, s) => allowed mode e && reads fuel (level.add 0) around names s
      | none => false
    | '.' :: s => mode.unicode && reads fuel (level.add 0) around names s
    | _ :: s => reads fuel (level.add 0) around names s
where
  /-- Whether an escape may stand outside of classes. -/
  allowed (mode : Mode) : Escape → Bool
    | .character _ | .edge => true
    | .byte c => mode.unicode || c ≤ '\x7f'
    | .class negated => mode.unicode || !negated
    | .property => mode.unicode
    | .wordEdge => !mode.unicode

def isPattern (s : Text) : Bool := reads (s.length + 1) ⟨⟨false, true⟩, [], []⟩ [] [] s

example :
    isPattern "(?i)a**|[^]x-]+?".toList ∧ ¬ isPattern "(a".toList ∧ ¬ isPattern "[z-a]".toList ∧
      ¬ isPattern "a|*".toList ∧ isPattern "(?-u)\\b".toList ∧ ¬ isPattern "\\b".toList := by
  decide +kernel

end SkipChecks.Pattern
