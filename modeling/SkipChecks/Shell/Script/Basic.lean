import SkipChecks.Shell.Command

/-!
# Reading a script

A script is read line by line, a line being as much as makes up whole commands. What has been read is
kept in a `Script`: the text that is left, its line, and documents that follow their commands. A
token that was looked at too early is pushed back. A name may stand for a text, which is then read in
place of it.
-/

namespace SkipChecks.Shell

/-- What the text of a script is cut into. -/
inductive Token
  | endOfFile
  | newline
  | operator (text : String)
  | redirection
  | word
  | keyword (text : String)
  deriving DecidableEq, Repr

/-- How a token is named in a complaint. -/
def Token.name : Token → Octets
  | .endOfFile => "end of file".toList
  | .newline => "newline".toList
  | .redirection => "redirection".toList
  | .word => "word".toList
  | .operator text | .keyword text => ('"' :: text.toList) ++ ['"']

/-- Words that are not names of commands where a command begins. -/
def keywords : List String :=
  ["!", "case", "do", "done", "elif", "else", "esac", "fi", "for", "if", "in", "then", "until",
    "while", "\x7b", "\x7d"]

/-- Tokens that may end a list of commands inside of another command. -/
def Token.endsList : Token → Bool
  | .endOfFile => true
  | .operator text => text == ")" || text == ";;"
  | .keyword text =>
    ["do", "done", "elif", "else", "esac", "fi", "then", "\x7d"].any (· == text)
  | _ => false

/-- What is wrong with a script, and in which line. -/
structure ScriptFault where
  line : Nat
  words : Octets

/-- A document that follows a command, before it is read. -/
structure Document where
  number : Nat
  /-- Whether tabs in front of lines are left out. -/
  stripped : Bool
  /-- The line that ends it, if it does not go on to the end of the text. -/
  delimiter : Option Octets
  /-- Whether parameters are put in. -/
  expands : Bool

/-- What is read behind the text that a name stands for. -/
structure Behind where
  name : Octets
  /-- Whether the text of the name ends in a blank, so that the next word may be a name as well. -/
  opens : Bool
  rest : Octets
  /-- How many characters of that have been put back. -/
  returned : Nat
  /-- Names whose texts had just come to an end where the text was put in. -/
  spent : List Octets

/-- A script that is being read. -/
structure Script where
  rest : Octets
  /-- How many characters of that have been read before and were put back. -/
  returned : Nat
  /-- What is read behind that, if the text at hand stands for a name. -/
  behind : List Behind
  /-- Names whose texts have just come to an end, and names that are in use around the script. -/
  spent : List Octets
  used : List Octets
  /-- Names of commands and what they stand for. -/
  aliases : List (Octets × Octets)
  /-- Whether a text has ended in a blank. -/
  opened : Bool
  line : Nat
  /-- Whether the last token is to be read again. -/
  again : Bool
  last : Token
  /-- The last word, and whether something in it was quoted. -/
  word : Word
  quoted : Bool
  /-- The last redirection, whose target is not read yet. -/
  stream : Nat
  direction : Direction
  stripped : Bool
  /-- Documents that the commands of this line wait for, and those that were read. -/
  pending : List Document
  documents : List (Nat × Word)
  /-- The number of the next document. -/
  next : Nat

/-- Reading takes text from a script, unless something is wrong with it. -/
abbrev Reading := StateT Script (Except ScriptFault)

namespace Script

/-- A text from its start, with a number for the first document in it. -/
def ofText (s : Octets) (next : Nat) : Script :=
  { rest := s, returned := 0, behind := [], spent := [], used := [], aliases := [], opened := false, line := 1
    again := false, last := .newline, word := [], quoted := false, stream := 0, direction := .input
    stripped := false, pending := [], documents := [], next }

/-- How many characters are left at most. -/
def size (s : Script) : Nat := s.behind.foldl (fun n behind => n + behind.rest.length) s.rest.length

/-- What is left of the text itself, where names are not replaced. -/
def own (s : Script) : Octets := (s.behind.getLast?.map (·.rest)).getD s.rest

/-- Names whose texts are being read, or have been until just now. -/
def inUse (s : Script) : List Octets :=
  s.behind.flatMap (fun b => b.name :: b.spent) ++ s.spent ++ s.used

/-- What a name stands for, unless its text is being read. -/
def alias? (s : Script) (name : Octets) : Option Octets :=
  if s.inUse.any (· == name) then none else s.aliases.lookup name

/-- Reads a text in place of a name. -/
def replace (s : Script) (name text : Octets) : Script :=
  if text.isEmpty then s
  else
    let opens := text.getLast?.any fun c => c == ' ' || c == '\t'
    { s with
      rest := text, returned := 0, spent := []
      behind := ⟨name, opens, s.rest, s.returned, s.spent⟩ :: s.behind }

/-- Gives up. -/
def fail {α : Type} (words : Octets) : Reading α := fun s =>
  .error ⟨s.line, "Syntax error: ".toList ++ words⟩

/-- Gives up at the last token, where another one may have been expected. -/
def unexpected {α : Type} (expected : Option Token) : Reading α := fun s =>
  fail
    (match expected with
      | some token => s.last.name ++ " unexpected (expecting ".toList ++ token.name ++ [')']
      | none => s.last.name ++ " unexpected".toList) s

/-- The next character, if there is one. A name whose text has come to an end stays in use until a
character behind it is read that was not read before. -/
def take : Reading (Option Char) := fun s => .ok (go s s.behind)
where
  /-- Goes on where these texts are left to be read. -/
  go (s : Script) (behind : List Behind) : Option Char × Script :=
    match s.rest, behind with
    | c :: rest, behind =>
      let spent := if s.returned = 0 then [] else s.spent
      (some c, { s with rest, behind, returned := s.returned - 1, spent })
    | [], [] => (none, { s with behind := [] })
    | [], b :: behind =>
      go { s with
          rest := b.rest, returned := b.returned, spent := b.name :: b.spent
          opened := s.opened || b.opens } behind

def putBack (c : Option Char) : Reading Unit :=
  modify fun s => { s with rest := c.toList ++ s.rest, returned := c.toList.length + s.returned }

def newLine : Reading Unit := modify fun s => { s with line := s.line + 1 }

/-- The text behind joined lines: where a backslash stands before a line break, both are left out. -/
def skipJoins : Octets → Nat → Octets × Nat
  | '\\' :: '\n' :: s, line => skipJoins s (line + 1)
  | s, line => (s, line)

/-- The next character behind joined lines. -/
def takeJoined : Reading (Option Char) := do
  modify fun s =>
    let (rest, line) := skipJoins s.rest s.line
    if line = s.line then s else { s with rest, line, returned := 0 }
  take

/-- Passes over everything in front of the end of the line. The number bounds the steps. -/
def skipLine : Nat → Reading Unit
  | 0 => return
  | fuel + 1 => do
    match ← take with
    | none => return
    | some c => if c = '\n' then putBack (some c) else skipLine fuel

/-- Ends with a token. -/
def token (token : Token) : Reading Token := do
  modify fun s => { s with last := token }
  return token

/-- Reads the last token again. -/
def retract : Reading Unit := modify fun s => { s with again := true }

end Script

end SkipChecks.Shell
