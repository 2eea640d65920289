import SkipChecks.Environment.Basic
import SkipChecks.Pattern.Basic
import SkipChecks.Text.Alphanumeric
import SkipChecks.Text.Blank

/-!
# How much is logged

A filter is a list of directives with commas between them. A directive names a level, or something
that is logged, such as a module or a span, and the level for it. The most that any directive lets
through is the level of the filter. What is named without a level is logged in full.
-/

namespace SkipChecks

/-- How much is logged. -/
inductive LogLevel
  | off
  | error
  | warn
  | info
  | debug
  | trace
  deriving DecidableEq, Repr

namespace LogLevel

/-- The place of a level among the others. -/
def rank : LogLevel → Nat
  | off => 0
  | error => 1
  | warn => 2
  | info => 3
  | debug => 4
  | trace => 5

def name : LogLevel → String
  | off => "off"
  | error => "error"
  | warn => "warn"
  | info => "info"
  | debug => "debug"
  | trace => "trace"

/-- All levels, in ascending order. -/
def all : List LogLevel := [off, error, warn, info, debug, trace]

/-- The number that a text is written as. -/
def number? (s : Text) : Option Nat :=
  let digits := match s with
    | '+' :: digits => digits
    | digits => digits
  if digits.isEmpty || !digits.all Char.isDigit then none
  else some (digits.foldl (fun n c => n * 10 + (c.toNat - '0'.toNat)) 0)

/-- The level that a text names, by its number or in any case. -/
def ofText? (s : Text) : Option LogLevel :=
  match number? s with
  | some n => all[n]?
  | none => all.find? fun level => level.name.toList == s.map Char.toLower

/-- Why a filter has no level. -/
inductive FilterFault
  /-- A directive is none. -/
  | unreadable
  /-- A place in a directive falls inside a character. -/
  | insideCharacter
  deriving DecidableEq, Repr

/-- What a directive is in the middle of, and where that began. -/
inductive Mode
  | start
  | name (start : Nat)
  | span (start : Nat)
  | field (start : Nat)
  | fields
  /-- Behind a span. -/
  | target
  | level (start : Nat)
  deriving Repr

def startsName (c : Char) : Bool :=
  c == '-' || c == ':' || c == '_' || Text.isAlphanumeric c

/-- Whether a text is a number with a point or an exponent, behind its sign. -/
def isUnsigned (s : Text) : Bool :=
  let whole := s.takeWhile Char.isDigit
  let (part, rest) := match s.dropWhile Char.isDigit with
    | '.' :: s => (s.takeWhile Char.isDigit, s.dropWhile Char.isDigit)
    | s => ([], s)
  !(whole ++ part).isEmpty && match rest with
    | [] => true
    | e :: rest =>
      let digits := match rest with
        | '+' :: digits | '-' :: digits => digits
        | digits => digits
      (e == 'e' || e == 'E') && !digits.isEmpty && digits.all Char.isDigit

/-- Whether a text is a number, infinity or no number. -/
def isNumber (s : Text) : Bool :=
  let s := match s with
    | '+' :: s | '-' :: s => s
    | s => s
  isUnsigned s || ["inf", "infinity", "nan"].any fun word => word.toList == s.map Char.toLower

/-- Whether a field looks at a value, if it is a field: a name, and behind an equals sign the value,
which is a number or a pattern. -/
def field? (s : Text) : Option Bool :=
  if s = [] then none
  else
    match Text.split '=' s with
    | _ :: value :: _ => if isNumber value || Pattern.isPattern value then some true else none
    | _ => some false

/-- What a directive says: the level, and whether it looks at the values of fields. -/
abbrev Said := LogLevel × Bool

/-- The part of a text from one place up to another one. -/
def slice (whole : Text) (first last : Nat) : Except FilterFault Text :=
  match Text.splitAtByte? whole first with
  | none => .error .insideCharacter
  | some (_, rest) =>
    match Text.splitAtByte? rest (last - first) with
    | none => .error .insideCharacter
    | some (part, _) => .ok part

/-- What is there, or else the directive is none. -/
def expect {α : Type} (a : Option α) : Except FilterFault α :=
  match a with
  | some a => .ok a
  | none => .error .unreadable

/-- The level that follows an equals sign. -/
def given? (s : Text) : Option LogLevel := if s = [] then some trace else ofText? s

/-- Reads a directive character by character. Places are counted without the blanks in front of the
directive, and the texts at these places are taken with them. -/
def readDirective (whole : Text) : Mode → Nat → Bool → Text → Except FilterFault Said
  | .name start, _, values, [] => do
    return ((ofText? (← slice whole start (Text.byteLength whole))).getD trace, values)
  | .level start, _, values, [] => do
    return (← expect (given? (← slice whole start (Text.byteLength whole))), values)
  | .target, _, values, [] => return (trace, values)
  | _, _, _, [] => .error .unreadable
  | mode, n, values, c :: s =>
    let next := n + c.utf8Size
    match mode with
    | .start =>
      if c = '[' then readDirective whole (.span next) next values s
      else if startsName c then readDirective whole (.name n) next values s
      else .error .unreadable
    | .name start =>
      if c = '=' then do
        let _ ← slice whole start n
        readDirective whole (.level next) next values s
      else if c = '[' then do
        let _ ← slice whole start n
        readDirective whole (.span next) next values s
      else readDirective whole (.name start) next values s
    | .span start =>
      if c = ']' then do
        let _ ← slice whole start n
        readDirective whole .target next values s
      else if c = '\x7b' then do
        let _ ← slice whole start n
        readDirective whole (.field next) next values s
      else readDirective whole (.span start) next values s
    | .field start =>
      if c = '\x7d' then do
        let value ← expect (field? (← slice whole start n))
        readDirective whole .fields next (values || value) s
      else readDirective whole (.field start) next values s
    | .fields =>
      if c = ']' then readDirective whole .target next values s else .error .unreadable
    | .target =>
      if c = '=' then readDirective whole (.level next) next values s else .error .unreadable
    | .level start => readDirective whole (.level start) next values s

/-- What a directive says, if it is one. -/
def directive (s : Text) : Except FilterFault Said := readDirective s .start 0 false (Text.trim s)

/-- The higher one of two levels. -/
def higher (a b : LogLevel) : LogLevel := if a.rank < b.rank then b else a

/-- The level of a filter, if all of its directives can be read. A filter that looks at the values
of fields has to let everything through. -/
def ofFilter (s : Text) : Except FilterFault LogLevel := do
  let said ← ((Text.split ',' s).filter (!·.isEmpty)).mapM directive
  if said.any (·.2) then return trace
  return (said.map (·.1)).foldl higher off

/-- The filter for much detail. -/
def verboseFilter : Text := "skipguard=debug,skipguard_cli=debug".toList

/-- The filter for errors only. -/
def quietFilter : Text := "skipguard=error,skipguard_cli=error".toList

/-- The filter where nothing else is asked for. -/
def standardFilter : Text := "skipguard=warn,skipguard_cli=warn".toList

/-- The level that flags and the environment ask for. Much detail goes before errors only, and both
before the environment, which is left aside if its filter cannot be read. There is no answer where
its filter is cut inside a character. -/
def decide? (verbose quiet : Bool) (environment : Environment) : Option LogLevel :=
  let standard := (ofFilter standardFilter).toOption
  if verbose then (ofFilter verboseFilter).toOption
  else if quiet then (ofFilter quietFilter).toOption
  else
    match environment.lookup "RUST_LOG".toList with
    | none => standard
    | some filter =>
      match ofFilter filter with
      | .ok level => some level
      | .error .unreadable => standard
      | .error .insideCharacter => none

end LogLevel

end SkipChecks
