import SkipChecks.Shell.Script.Word

/-!
# Reading commands

The grammar of scripts. Reading stops behind the line in which the commands end, so that what they do
can be done before more is read. The first argument of a reader bounds the depth of calls.
-/

namespace SkipChecks.Shell

open Script

/-- What is looked for when a token is read. -/
structure Expecting where
  /-- Line breaks are passed over. -/
  skipsLines : Bool
  /-- A word may be a keyword. -/
  keywords : Bool
  /-- A word may be a name that stands for a text. -/
  aliases : Bool

namespace Expecting

/-- A token in the middle of a command. -/
def nothing : Expecting := ⟨false, false, false⟩

/-- The name of a command, or something in front of it. -/
def name : Expecting := ⟨false, false, true⟩

/-- A token where a command begins. -/
def command : Expecting := ⟨false, true, true⟩

/-- A token where a command begins, maybe in a later line. -/
def lines : Expecting := ⟨true, true, true⟩

/-- A pattern of a choice, or its end. -/
def patterns : Expecting := ⟨true, true, false⟩

end Expecting

/-- What ends a list of commands. -/
inductive ListKind
  /-- The end of the line. -/
  | line
  /-- A token that ends lists, behind one command at least. -/
  | body
  /-- A token that ends lists. -/
  | optional
  deriving DecidableEq, Repr

/-- The commands that a function cannot be named like. -/
def specialCommands : List String :=
  [".", ":", "break", "continue", "eval", "exec", "exit", "export", "readonly", "return", "set",
    "shift", "times", "trap", "unset"]

/-- The text of a word, if no character in it means anything else. -/
def bare? (word : Word) : Option Octets :=
  let s := word.filterMap fun
    | .char false c => some c
    | _ => none
  if s.length = word.length then some s else none

/-- The characters of a word in which nothing is put in. -/
def plainText (word : Word) : Octets :=
  word.filterMap fun
    | .char _ c => some c
    | _ => none

/-- Whether an operator may be the rest of a longer one, and the longer one. -/
def doubled (c : Char) : Option String :=
  match c with
  | '&' => some "&&"
  | '|' => some "||"
  | ';' => some ";;"
  | _ => none

/-- Reads the operator of a redirection behind its first character. -/
def takeDirection (c : Char) : Reading (Nat × Direction × Bool × Bool) := do
  let d ← takeJoined
  if c = '>' then
    match d with
    | some '>' => return (1, .append, false, false)
    | some '|' => return (1, .overwrite, false, false)
    | some '&' => return (1, .duplicate, false, false)
    | d =>
      putBack d
      return (1, .output, false, false)
  else
    match d with
    | some '<' =>
      let e ← takeJoined
      if e = some '-' then return (0, .document 0, true, true)
      putBack e
      return (0, .document 0, true, false)
    | some '&' => return (0, .duplicate, false, false)
    | some '>' => return (0, .both, false, false)
    | d =>
      putBack d
      return (0, .input, false, false)

/-- The stream that a word in front of a redirection names. -/
def stream? (word : Word) : Option (Option Nat) :=
  match word with
  | [] => some none
  | [.char false c] => if c.isDigit then some (some (c.toNat - '0'.toNat)) else none
  | _ => none

/-- Reads the documents that are waited for. -/
def takeDocuments (commands : Bool → Reading (Option Command)) : List Document → Reading Unit
  | [] => return
  | document :: documents => do
    lexWord commands ⟨some document, false⟩
    modify fun s => { s with documents := (document.number, s.word) :: s.documents }
    takeDocuments commands documents

/-- Reads all documents that are waited for. -/
def takePending (commands : Bool → Reading (Option Command)) : Reading Unit := do
  let pending := (← get).pending
  modify fun s => { s with pending := [] }
  takeDocuments commands pending

/-- Reads a word or a redirection. -/
def takeWord (commands : Bool → Reading (Option Command)) (isDelimiter : Bool) : Reading Token := do
  lexWord commands ⟨none, isDelimiter⟩
  let s ← get
  match s.rest with
  | c :: rest =>
    if (c = '<' ∨ c = '>') ∧ !s.quoted then
      match stream? s.word with
      | some stream =>
        set { s with rest, returned := s.returned - 1 }
        let (standard, direction, _, stripped) ← takeDirection c
        modify fun s => { s with stream := stream.getD standard, direction, stripped }
        token .redirection
      | none => token .word
    else token .word
  | [] => token .word

/-- Reads a token behind blanks and comments. The number bounds the steps. -/
def takeToken (commands : Bool → Reading (Option Command)) (isDelimiter : Bool) :
    Nat → Reading Token
  | 0 => token .endOfFile
  | fuel + 1 => do
    match ← takeJoined with
    | none => token .endOfFile
    | some c =>
      if c = ' ' ∨ c = '\t' then takeToken commands isDelimiter fuel
      else if c = '#' then
        skipLine ((← get).size + 1)
        takeToken commands isDelimiter fuel
      else if c = '\n' then
        newLine
        token .newline
      else if c = '(' ∨ c = ')' then token (.operator (String.ofList [c]))
      else
        match doubled c with
        | some long =>
          let d ← takeJoined
          if d = some c then token (.operator long)
          else
            putBack d
            token (.operator (String.ofList [c]))
        | none =>
          putBack c
          takeWord commands isDelimiter

/-- Reads a token, or the last one again. -/
def tokenOrLast (commands : Bool → Reading (Option Command)) (isDelimiter : Bool) :
    Reading Token := do
  let s ← get
  if s.again then
    set { s with again := false }
    return s.last
  takeToken commands isDelimiter (s.size + 1)

/-- Reads tokens up to one that is no line break. The number bounds the steps. -/
def skipLines (commands : Bool → Reading (Option Command)) : Nat → Token → Reading Token
  | 0, token => return token
  | fuel + 1, token => do
    if token = .newline then
      takePending commands
      modify fun s => { s with opened := false }
      skipLines commands fuel (← tokenOrLast commands false)
    else return token

/-- Reads a token where something is expected. A name is replaced by the text that it stands for where
that is looked for, or behind a text that ends in a blank. The first number bounds the steps. -/
def readToken (commands : Bool → Reading (Option Command)) (isDelimiter : Bool) :
    Nat → Expecting → Reading Token
  | 0, _ => token .endOfFile
  | fuel + 1, expecting => do
    modify fun s => { s with opened := false }
    let first ← tokenOrLast commands isDelimiter
    let found ←
      if expecting.skipsLines then skipLines commands ((← get).size + 1) first else pure first
    let s ← get
    if found ≠ .word ∨ s.quoted then return found
    match bare? s.word with
    | none => return found
    | some word =>
      match if expecting.keywords then keywords.find? (·.toList == word) else none with
      | some text => token (.keyword text)
      | none =>
        let aliases := expecting.aliases || s.opened
        match if aliases then s.alias? word else none with
        | none => return found
        | some text =>
          set (s.replace word text)
          readToken commands isDelimiter fuel { expecting with aliases }

/-- A bound on the number of names that are replaced one after the other. -/
def replacements : Reading Nat := return ((← get).size + 1) * ((← get).aliases.length + 1)

/-- Reads a token where something is expected. -/
def expectToken (commands : Bool → Reading (Option Command)) (expecting : Expecting) :
    Reading Token := do
  readToken commands false (← replacements) expecting

/-- Reads a token in the middle of a command. -/
def nextToken (commands : Bool → Reading (Option Command)) (isDelimiter : Bool) :
    Reading Token := do
  readToken commands isDelimiter (← replacements) .nothing

/-- Reads what a redirection leads to. -/
def takeTarget (commands : Bool → Reading (Option Command)) : Reading Redirection := do
  let before ← get
  have isDocument : Bool := match before.direction with
    | .document _ => true
    | _ => false
  if (← nextToken commands isDocument) ≠ .word then unexpected none
  let s ← get
  if isDocument then
    let document : Document := ⟨s.next, before.stripped, some (plainText s.word), !s.quoted⟩
    set { s with pending := s.pending ++ [document], next := s.next + 1 }
    return .mk before.stream (.document s.next) []
  return .mk before.stream before.direction s.word

/-- Reads redirections behind a command, where something is expected of the first token only. The number
bounds the steps. -/
def takeRedirections (commands : Bool → Reading (Option Command)) : Nat → Expecting →
    Reading (List Redirection)
  | 0, _ => return []
  | fuel + 1, expecting => do
    if (← expectToken commands expecting) = .redirection then
      let redirection ← takeTarget commands
      return redirection :: (← takeRedirections commands fuel .nothing)
    retract
    return []

/-- Reads words up to another token. The number bounds the steps. -/
def takeWords (commands : Bool → Reading (Option Command)) : Nat → Reading (List Word)
  | 0 => return []
  | fuel + 1 => do
    if (← expectToken commands .nothing) = .word then
      let word := (← get).word
      return word :: (← takeWords commands fuel)
    return []

/-- Reads the patterns of a case, of which the first was read as a token already. -/
def takePatterns (commands : Bool → Reading (Option Command)) : Nat → Reading (List Word)
  | 0 => return []
  | fuel + 1 => do
    let word := (← get).word
    if (← nextToken commands false) = .operator "|" then
      let _ ← nextToken commands false
      return word :: (← takePatterns commands fuel)
    return [word]

/-- Two lists of commands one after the other. -/
def sequenceOf (first : Option Command) (second : Command) : Command :=
  match first with
  | some first => .sequence first second
  | none => second

mutual

/-- Reads a list of commands, of which some have been read. At the end of the script there may be
none. -/
def list : Nat → ListKind → Option Command → Reading (Option Command)
  | 0, _, _ => unexpected none
  | fuel + 1, kind, before => do
    let commands := substitution fuel
    let token ← expectToken commands (if kind = .line then .command else .lines)
    if token = .newline then
      takePending commands
      return before
    if token = .endOfFile then return ← atEnd commands before
    retract
    if token.endsList ∧ (kind = .optional ∨ (kind = .body ∧ before.isSome)) then return before
    let command ← chain fuel (← pipeline fuel)
    let line := (← get).line
    let token ← nextToken commands false
    let command := if token = .operator "&" then Command.background line command else command
    let all := sequenceOf before command
    match token with
    | .endOfFile => atEnd commands all
    | .newline =>
      retract
      list fuel kind all
    | .operator "&" | .operator ";" => list fuel kind all
    | _ =>
      if kind = .line then unexpected none
      retract
      return all
where
  /-- Ends at the end of the script. -/
  atEnd (commands : Bool → Reading (Option Command)) (all : Option Command) :
      Reading (Option Command) := do
    takePending commands
    modify fun s => { s with again := true, last := .endOfFile }
    return all

/-- Reads the commands of a substitution, in backquotes or up to the parenthesis that ends it. -/
def substitution : Nat → Bool → Reading (Option Command)
  | 0, _ => unexpected none
  | fuel + 1, backquoted => do
    let command ← list fuel .optional none
    if !backquoted then
      if (← nextToken (substitution fuel) false) ≠ .operator ")" then
        unexpected (some (.operator ")"))
      let s ← get
      set { s with rest := [], returned := 0, behind := [] }
      takePending (substitution fuel)
      modify fun after =>
        { after with
          rest := s.rest, returned := s.returned, behind := s.behind, line := s.line, last := s.last }
    return command

/-- Reads what is joined to a command by its success or failure. -/
def chain : Nat → Command → Reading Command
  | 0, _ => unexpected none
  | fuel + 1, first => do
    match ← nextToken (substitution fuel) false with
    | .operator "&&" => chain fuel (.both first (← pipelineAfter fuel))
    | .operator "||" => chain fuel (.either first (← pipelineAfter fuel))
    | _ =>
      retract
      return first

/-- Reads commands joined by pipes, maybe in a later line. -/
def pipelineAfter : Nat → Reading Command
  | 0 => unexpected none
  | fuel + 1 => do
    let _ ← expectToken (substitution fuel) .lines
    retract
    pipeline fuel

/-- Reads commands joined by pipes. -/
def pipeline : Nat → Reading Command
  | 0 => unexpected none
  | fuel + 1 => do
    let commands := substitution fuel
    let negated := (← nextToken commands false) == .keyword "!"
    if negated then
      let _ ← expectToken commands .command
      retract
    else retract
    let first ← command fuel
    let others ← stages fuel
    let whole := if others.isEmpty then first else .pipe (first :: others)
    return if negated then .negation whole else whole

/-- Reads the commands behind pipes. -/
def stages : Nat → Reading (List Command)
  | 0 => unexpected none
  | fuel + 1 => do
    let commands := substitution fuel
    if (← nextToken commands false) = .operator "|" then
      let _ ← expectToken commands .lines
      retract
      let next ← command fuel
      return next :: (← stages fuel)
    retract
    return []

/-- Reads one command. -/
def command : Nat → Reading Command
  | 0 => unexpected none
  | fuel + 1 => do
    let commands := substitution fuel
    let line := (← get).line
    let steps := (← get).size + 1
    let close (expected : Token) : Reading Unit := do
      if (← nextToken commands false) ≠ expected then unexpected (some expected)
    let redirected (body : Command) : Reading Command := do
      let redirections ← takeRedirections commands steps .command
      return if redirections.isEmpty then body else .redirected line body redirections
    match ← nextToken commands false with
    | .keyword "if" =>
      let whole ← branches fuel
      close (.keyword "fi")
      redirected whole
    | .keyword "while" | .keyword "until" =>
      let goesOn := (← get).last == .keyword "while"
      let test ← listOrEnd fuel (.keyword "do")
      let body ← listOrEnd fuel (.keyword "done")
      redirected (.loop goesOn test body)
    | .keyword "for" =>
      let found ← nextToken commands false
      let s ← get
      let name := plainText s.word
      if found ≠ .word ∨ s.quoted ∨ !isName name ∨ name.length ≠ s.word.length then
        fail "Bad for loop variable".toList
      let words ←
        if (← expectToken commands .lines) = .keyword "in" then
          let words ← takeWords commands steps
          let last := (← get).last
          if last ≠ .newline ∧ last ≠ .operator ";" then unexpected none
          pure words
        else
          if (← get).last ≠ .operator ";" then retract
          pure [Word.parameters]
      if (← expectToken commands .lines) ≠ .keyword "do" then unexpected (some (.keyword "do"))
      let body ← listOrEnd fuel (.keyword "done")
      redirected (.each line name words body)
    | .keyword "case" =>
      if (← nextToken commands false) ≠ .word then unexpected (some .word)
      let subject := (← get).word
      if (← expectToken commands .lines) ≠ .keyword "in" then unexpected (some (.keyword "in"))
      redirected (.choice line subject (← cases fuel))
    | .operator "(" =>
      let body ← listOrEnd fuel (.operator ")")
      return .apart line body (← takeRedirections commands steps .command)
    | .keyword "\x7b" =>
      let body ← listOrEnd fuel (.keyword "\x7d")
      redirected body
    | .word | .redirection =>
      retract
      simple fuel line [] [] []
    | _ => unexpected none

/-- Reads a list of commands and the token that ends it. -/
def listOrEnd : Nat → Token → Reading Command
  | 0, _ => unexpected none
  | fuel + 1, ending => do
    let body ← list fuel .body none
    if (← nextToken (substitution fuel) false) ≠ ending then unexpected (some ending)
    match body with
    | some body => return body
    | none => unexpected (some ending)

/-- Reads a condition behind its first word. -/
def branches : Nat → Reading Command
  | 0 => unexpected none
  | fuel + 1 => do
    let test ← listOrEnd fuel (.keyword "then")
    let yes ← list fuel .body none
    let commands := substitution fuel
    match ← nextToken commands false with
    | .keyword "elif" => return .condition test (← given yes) (some (← branches fuel))
    | .keyword "else" => return .condition test (← given yes) (← list fuel .body none)
    | _ =>
      retract
      match yes with
      | some yes => return .condition test yes none
      | none => unexpected (some (.keyword "fi"))
where
  /-- A list of commands that is not empty. -/
  given (body : Option Command) : Reading Command :=
    match body with
    | some body => return body
    | none => unexpected none

/-- Reads the cases of a choice. -/
def cases : Nat → Reading (List Case)
  | 0 => unexpected none
  | fuel + 1 => do
    let commands := substitution fuel
    let found ← expectToken commands .patterns
    if found = .keyword "esac" then return []
    if found = .operator "(" then
      let _ ← nextToken commands false
    let patterns ← takePatterns commands ((← get).size + 1)
    if (← get).last ≠ .operator ")" then unexpected (some (.operator ")"))
    let body ← list fuel .optional none
    let found ← expectToken commands .patterns
    if found = .keyword "esac" then return [.mk patterns body]
    if found ≠ .operator ";;" then unexpected (some (.operator ";;"))
    return .mk patterns body :: (← cases fuel)

/-- Reads a simple command, of which words may have been read already, or a function. -/
def simple : Nat → Nat → List Word → List Word → List Redirection → Reading Command
  | 0, _, _, _, _ => unexpected none
  | fuel + 1, line, assignments, words, redirections => do
    let commands := substitution fuel
    match ← expectToken commands (if words.isEmpty then .name else .nothing) with
    | .word =>
      let word := (← get).word
      if words.isEmpty ∧ (Word.assignment? word).isSome then
        simple fuel line (assignments ++ [word]) words redirections
      else simple fuel line assignments (words ++ [word]) redirections
    | .redirection =>
      let redirection ← takeTarget commands
      simple fuel line assignments words (redirections ++ [redirection])
    | found =>
      match found, words with
      | .operator "(", [word] =>
        if assignments.isEmpty && redirections.isEmpty then
          if (← nextToken commands false) ≠ .operator ")" then
            unexpected (some (.operator ")"))
          let name := plainText word
          if !isName name ∨ name.length ≠ word.length ∨
              specialCommands.any (·.toList == name) then
            fail "Bad function name".toList
          let _ ← expectToken commands .lines
          retract
          return .define name (← command fuel)
        else
          retract
          return .simple line assignments words redirections
      | _, _ =>
        retract
        return .simple line assignments words redirections

end

/-- What a script begins with. -/
inductive Line
  /-- Nothing, since it is at its end. -/
  | ended
  /-- Commands, if there are any, and whether the script ends behind them. -/
  | commands (command : Option Command) (isLast : Bool)

namespace Script

/-- A bound on the depth of calls where names may be replaced by texts. -/
def depth (s : Script) : Nat :=
  let added := s.aliases.foldl (fun n (_, text) => n + text.length) 1
  20 * (s.size + 1) * added + 100

/-- Reads a text in which parameters and commands are put in, as in a document. -/
def prompt (s : Script) : Except ScriptFault Word := do
  let ((), s) ← lexWord (substitution s.depth) ⟨some ⟨0, false, none, true⟩, false⟩ s
  return s.word

/-- Reads the next commands of a script. -/
def nextLine (s : Script) : Except ScriptFault (Line × Script) := do
  let fuel := s.depth
  let (command, s) ← list fuel .line none { s with again := false, pending := [] }
  let isLast := s.again && s.last == .endOfFile
  match command with
  | none => return (if isLast then .ended else .commands none false, s)
  | some command => return (.commands command isLast, s)

end Script

end SkipChecks.Shell
