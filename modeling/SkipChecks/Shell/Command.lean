import SkipChecks.Shell.Octets

/-!
# Commands of a shell script

What a script is made of: words, in which parameters and the output of other commands are put, and
commands, from simple ones to loops and functions. Commands know the line they stand in, for what is
said when they fail.
-/

namespace SkipChecks.Shell

/-- What becomes of the value of a parameter. Some uses put something else for a parameter without a
value, and may count an empty value as none. -/
inductive Use
  | value
  | length
  | fallback (orEmpty : Bool)
  /-- Something else for a parameter that has a value. -/
  | instead (orEmpty : Bool)
  | demand (orEmpty : Bool)
  | assign (orEmpty : Bool)
  /-- Without what matches a pattern at one of the ends. -/
  | trim (atEnd longest : Bool)
  | bad
  deriving DecidableEq, Repr

/-- Whether an empty value counts as none. -/
def Use.orEmpty : Use → Bool
  | .fallback b | .instead b | .demand b | .assign b => b
  | _ => false

/-- How a stream is redirected. -/
inductive Direction
  | input
  | output
  /-- To a file, even if files are not to be overwritten. -/
  | overwrite
  | append
  | both
  | duplicate
  /-- From the lines that follow the command, kept under a number. -/
  | document (number : Nat)
  deriving DecidableEq, Repr

mutual

/-- A piece of a word. -/
inductive Piece
  /-- A character; one that is quoted by itself means nothing but itself. -/
  | char (quoted : Bool) (c : Char)
  /-- A quotation mark, where quoting begins or ends. -/
  | mark
  | parameter (name : Octets) (use : Use) (word : List Piece)
  /-- What a command prints. -/
  | output (command : Option Command)
  | arithmetic (expression : List Piece)

/-- A redirection of a stream. -/
inductive Redirection
  | mk (stream : Nat) (direction : Direction) (target : List Piece)

/-- One of the cases of a choice: patterns, and what is done. -/
inductive Case
  | mk (patterns : List (List Piece)) (body : Option Command)

inductive Command
  | simple (line : Nat) (assignments words : List (List Piece)) (redirections : List Redirection)
  | sequence (first second : Command)
  | both (first second : Command)
  | either (first second : Command)
  | negation (command : Command)
  /-- Commands of which each reads what the one before it prints. -/
  | pipe (commands : List Command)
  | background (line : Nat) (command : Command)
  | redirected (line : Nat) (body : Command) (redirections : List Redirection)
  /-- A command that keeps its variables and its end to itself. -/
  | apart (line : Nat) (body : Command) (redirections : List Redirection)
  | condition (test yes : Command) (no : Option Command)
  /-- A loop that goes on as long as its test says so. -/
  | loop (goesOn : Bool) (test body : Command)
  /-- A loop over words. -/
  | each (line : Nat) (name : Octets) (words : List (List Piece)) (body : Command)
  | choice (line : Nat) (subject : List Piece) (cases : List Case)
  | define (name : Octets) (body : Command)

end

/-- A word as it is written. -/
abbrev Word := List Piece

def Redirection.stream : Redirection → Nat
  | .mk stream _ _ => stream

def Redirection.direction : Redirection → Direction
  | .mk _ direction _ => direction

/-- The word behind the operator. -/
def Redirection.target : Redirection → Word
  | .mk _ _ target => target

/-- All positional parameters, each a field of its own. -/
def Word.parameters : Word := [.mark, .parameter ['@'] .value [], .mark]

def startsName (c : Char) : Bool := c.isAlpha || c == '_'

def isNameChar (c : Char) : Bool := c.isAlphanum || c == '_'

/-- Whether a text is the name of a variable or function. -/
def isName : Octets → Bool
  | c :: s => startsName c && s.all isNameChar
  | [] => false

/-- The name and the value of a word that gives a value to a variable. -/
def Word.assignment? (word : Word) : Option (Octets × Word) :=
  go [] word
where
  /-- Reads the name, which comes last character first. -/
  go (name : Octets) : Word → Option (Octets × Word)
    | .char false c :: word =>
      if c = '=' then if isName name.reverse then some (name.reverse, word) else none
      else go (c :: name) word
    | _ => none

end SkipChecks.Shell
