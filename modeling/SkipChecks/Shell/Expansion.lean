import SkipChecks.Shell.Arithmetic
import SkipChecks.Shell.Field
import SkipChecks.Shell.Glob

/-!
# Putting things into words

Before a word is used, tildes, parameters, expressions and the output of commands are put in. What comes
of it is split into fields and matched against the names of files, unless it stands where there is room
for one text only. What is put in between double quotes is left as it is.
-/

namespace SkipChecks.Shell

open Action

/-- How a word is looked at. -/
structure Manner where
  /-- Whether it will be split. -/
  full : Bool
  /-- Whether it stands between double quotes as a whole. -/
  quoted : Bool
  /-- Whether it stands in the braces of a parameter, so that its own characters can be split. -/
  inBraces : Bool

/-- Where a tilde may stand for a home. -/
inductive Tildes
  | nowhere
  /-- Here, and nowhere else. -/
  | here
  /-- Here and behind colons. -/
  | hereAndColons
  | behindColons
  /-- Behind the first equals sign, and behind colons after it. -/
  | behindEquals
  deriving DecidableEq

namespace Tildes

/-- Whether a tilde may stand here. -/
def isHere (t : Tildes) : Bool := t == here || t == hereAndColons

/-- Where tildes may stand behind a character. -/
def behind (c : Char) : Tildes → Tildes
  | nowhere | here => nowhere
  | hereAndColons | behindColons => if c = ':' then hereAndColons else behindColons
  | behindEquals => if c = '=' then hereAndColons else behindEquals

/-- Where tildes may stand behind anything but a plain character. -/
def behindOther (t : Tildes) : Tildes := t.behind ' '

/-- The name behind a tilde. There is none if something in it is quoted. -/
def name? (t : Tildes) : Word → Option Octets
  | .char false c :: word =>
    if c = '/' ∨ (c = ':' ∧ t = hereAndColons) then some []
    else (name? t word).map (c :: ·)
  | [] => some []
  | _ => none

end Tildes

/-- A word into which things are being put. -/
structure Expanding where
  glyphs : Array Glyph
  /-- The number of the next stretch. -/
  next : Nat
  /-- The stretch of plain characters that is going on. -/
  run : Option Nat

/-- Expanding a word adds glyphs. -/
abbrev Expansion := StateT Expanding Action

namespace Expansion

/-- Adds signs that cannot be split. -/
def put (signs : List Sign) : Expansion Unit :=
  modify fun e => { e with glyphs := e.glyphs ++ (signs.map fun s => ⟨s, none⟩).toArray, run := none }

/-- Adds signs that can be split. -/
def putSplit (betweenParameters : Bool) (signs : List Sign) : Expansion Unit :=
  modify fun e =>
    { e with
      glyphs := e.glyphs ++ (signs.map fun s => ⟨s, some ⟨e.next, betweenParameters⟩⟩).toArray
      next := e.next + 1, run := none }

/-- Adds a plain character that can be split. -/
def putRun (c : Char) : Expansion Unit :=
  modify fun e =>
    let number := e.run.getD e.next
    { glyphs := e.glyphs.push ⟨.char false c, some ⟨number, false⟩⟩
      next := max e.next (number + 1), run := some number }

/-- The signs that are added by an expansion, in place of adding them. -/
def signsOf (expansion : Expansion Unit) : Expansion (List Sign) := do
  let before ← get
  set { before with glyphs := #[], run := none }
  expansion
  let after ← get
  set { before with next := after.next, run := none }
  return after.glyphs.toList.map (·.sign)

/-- The characters that separate fields. -/
def separators : Action Octets := return (← value? "IFS".toList).getD standardSeparators

/-- The home that stands for a tilde with a name. -/
def home? (name : Octets) : Action (Option Octets) := do
  if name = [] then value? "HOME".toList
  else return if name = "root".toList then some "/root".toList else none

/-- The signs of a value. -/
def signs (quoted : Bool) (s : Octets) : List Sign := s.map (.char quoted)

/-- The letters of options, in the order in which they are shown. -/
def optionLetters : List Char := "ubaCEVvxsnmiIfe".toList

/-- All parameters in one value. -/
def joined (apart quoted : Bool) (between : Octets) (parameters : List Octets) : List Sign :=
  match parameters with
  | [] => []
  | [s] => signs quoted s
  | s :: parameters =>
    signs quoted s ++ (if apart then [.separator] else signs quoted between) ++
      joined apart quoted between parameters

/-- The value of a parameter, if it has one. -/
def valueOf (name : Octets) (full quoted : Bool) : Action (Option (List Sign)) := do
  let m ← get
  let text (s : Octets) : Option (List Sign) := some (signs quoted s)
  match name with
  | ['$'] => return text (Text.ofNat m.shell)
  | ['?'] => return text (Text.ofNat m.status)
  | ['#'] => return text (Text.ofNat m.parameters.length)
  | ['!'] => return m.background.bind fun n => text (Text.ofNat n)
  | ['-'] => return text (optionLetters.filter fun c => m.options.any (· == c))
  | ['@'] | ['*'] =>
    let between := match ← value? "IFS".toList with
      | some s => s.take 1
      | none => [' ']
    let apart := full && (!quoted || name == ['@'])
    return some (joined apart quoted between m.parameters)
  | name =>
    if name.all Char.isDigit then
      let n := numeral 10 name
      return (if n = 0 then some m.name else m.parameters[n - 1]?).bind text
    else return (← value? name).bind text

/-- Adds the value of a parameter. -/
def putValue (name : Octets) (quoted : Bool) (value : List Sign) : Expansion Unit := do
  if quoted then
    if name = ['@'] ∧ !(← (get : Action Machine)).parameters.isEmpty then putSplit true value
    else put value
  else putSplit false value

/-- Complains about a parameter without a value. -/
def demanded {α : Type} (name words : Octets) : Action α := fail (name ++ ": ".toList ++ words)

mutual

/-- Adds what becomes of the pieces of a word. Commands are run by `run`. So many pieces are passed
over, since they belonged to a tilde. -/
def pieces (run : Option Command → Action Octets) (manner : Manner) :
    Bool → Tildes → Nat → Word → Expansion Unit
  | _, _, _, [] => return
  | inQuotes, tildes, skip + 1, .char _ c :: word =>
    pieces run manner inQuotes (tildes.behind c) skip word
  | inQuotes, tildes, _ + 1, _ :: word => pieces run manner inQuotes tildes 0 word
  | false, tildes, 0, .mark :: .parameter ['@'] .value [] :: .mark :: word => do
    let value ← valueOf ['@'] manner.full true
    putValue ['@'] true (value.getD [])
    pieces run manner false tildes.behindOther 0 word
  | inQuotes, tildes, 0, .mark :: word => do
    put [.mark]
    pieces run manner (!inQuotes) tildes.behindOther 0 word
  | inQuotes, tildes, 0, .char quoted c :: word => do
    let home ←
      if c = '~' ∧ !quoted ∧ tildes.isHere then
        match tildes.name? word with
        | some name => do pure ((← (home? name : Action _)).map fun home => (name, home))
        | none => pure none
      else pure none
    match home with
    | some (name, home) =>
      put (signs true home)
      pieces run manner inQuotes tildes.behindOther name.length word
    | none =>
      if manner.inBraces && !manner.quoted && !inQuotes && !quoted then putRun c
      else put [.char quoted c]
      pieces run manner inQuotes (if quoted then tildes.behindOther else tildes.behind c) 0 word
  | inQuotes, tildes, 0, piece :: word => do
    single run manner (manner.quoted || inQuotes) piece
    pieces run manner inQuotes tildes.behindOther 0 word

/-- Adds what becomes of a piece that something is put in for. -/
def single (run : Option Command → Action Octets) (manner : Manner) (quoted : Bool) :
    Piece → Expansion Unit
  | .char quoted c => put [.char quoted c]
  | .mark => put [.mark]
  | .output command => do
    let s ← run command
    let s := (s.reverse.dropWhile (· == '\n')).reverse
    if quoted then put (signs true s) else putSplit false (signs false s)
  | .arithmetic expression => do
    let inner ← signsOf (pieces run ⟨false, false, false⟩ false .nowhere 0 expression)
    let n ← Arithmetic.compute (textOf inner)
    let s := if n < 0 then '-' :: Text.ofNat n.natAbs else Text.ofNat n.natAbs
    if quoted then put (signs true s) else putSplit false (signs false s)
  | .parameter name use word => do
    let within : Manner := { manner with quoted, inBraces := true }
    let value ← (valueOf name manner.full quoted : Action _)
    let present := if use.orEmpty && value == some [] then none else value
    match use, present with
    | .bad, _ => (fail "Bad substitution".toList : Action Unit)
    | .instead _, none => return
    | .instead _, some _ => pieces run within false .here 0 word
    | .fallback _, none => pieces run within false .here 0 word
    | .assign _, none =>
      let inner ← signsOf (pieces run ⟨false, false, false⟩ false .here 0 word)
      if !isName name then (fail (name ++ ": bad variable name".toList) : Action Unit)
      (setVariable name (textOf inner) : Action Unit)
      putValue name quoted (signs quoted (textOf inner))
    | .demand orEmpty, none =>
      let inner ← signsOf (pieces run ⟨false, false, false⟩ false .here 0 word)
      let words :=
        if !word.isEmpty then textOf inner
        else "parameter not set".toList ++ if orEmpty then " or null".toList else []
      (demanded name words : Action Unit)
    | .length, none | .value, none | .trim _ _, none =>
      if ← (hasOption 'u' : Action Bool) then
        (demanded name "parameter not set".toList : Action Unit)
      if use = .length then
        if quoted then put [.char true '0'] else putSplit false [.char false '0']
    | .length, some value =>
      let s := Text.ofNat value.length
      if quoted then put (signs true s) else putSplit false (signs false s)
    | .trim atEnd longest, some value =>
      let pattern ← signsOf (pieces run ⟨false, false, false⟩ false .here 0 word)
      let whole := value.map fun
        | .char _ c => c
        | _ => '\x00'
      putValue name quoted <|
        (Glob.trim atEnd longest (patternOf pattern) whole).map fun c =>
          if c = '\x00' then .separator else .char quoted c
    | .value, some value | .fallback _, some value | .assign _, some value
    | .demand _, some value => putValue name quoted value

end

def glyphs (run : Option Command → Action Octets) (manner : Manner) (tildes : Tildes) (word : Word) :
    Action (List Glyph) := do
  let (_, e) ← (pieces run manner false tildes 0 word).run ⟨#[], 0, none⟩
  return e.glyphs.toList

/-- The text of a word that stays one. -/
def text (run : Option Command → Action Octets) (tildes : Tildes) (word : Word) : Action Octets := do
  return textOf ((← glyphs run ⟨false, false, false⟩ tildes word).map (·.sign))

/-- The pattern that a word stands for. -/
def pattern (run : Option Command → Action Octets) (word : Word) : Action Octets := do
  return patternOf ((← glyphs run ⟨false, false, false⟩ .here word).map (·.sign))

def document (run : Option Command → Action Octets) (word : Word) : Action Octets := do
  return textOf ((← glyphs run ⟨false, true, false⟩ .nowhere word).map (·.sign))

/-- The paths that a field matches, or else its text. -/
def matched (field : List Sign) : Action (List Octets) := do
  let p := patternOf field
  if (← hasOption 'f') || !(p.any fun c => c == '*' || c == '?' || c == '[') then
    return [textOf field]
  match ← Glob.paths p with
  | [] => return [textOf field]
  | paths => return paths

def fields (run : Option Command → Action Octets) (word : Word) : Action (List Octets) := do
  let glyphs ← glyphs run ⟨true, false, false⟩ .here word
  return (← (splitFields (← separators) none glyphs).mapM matched).flatten

end Expansion

end SkipChecks.Shell
