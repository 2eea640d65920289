import SkipChecks.Shell.Builtin.Table
import SkipChecks.Shell.Redirection

/-!
# Simple commands

What a simple command is: its words are expanded as far as its name, then it is looked for, and then the
rest is expanded in the way that it asks for. Names in front that only say how a command is looked for
are taken away.
-/

namespace SkipChecks.Shell.Run

open Action

/-- Expands words up to the first that gives any fields. -/
def firstFields (run : Option Command → Action Octets) :
    List Word → Action (List Octets × List Word)
  | [] => return ([], [])
  | word :: words => do
    match ← Expansion.fields run word with
    | [] => firstFields run words
    | fields => return (fields, words)

/-- A simple command that has been looked at as far as its name. -/
structure Choice where
  /-- Fields in front of the command, which only say how it is looked for. -/
  front : List Octets
  /-- The command and what has been expanded behind it. -/
  fields : List Octets
  words : List Word
  found : Option Found
  /-- Whether the first command of the shell in it is a special one. -/
  special : Option Bool
  /-- Whether variables are set for the command only. -/
  isScoped : Bool
  withFunctions : Bool
  /-- Where the command is looked for, if that is said. -/
  directories : Option Octets

/-- Takes away the name of a command that only says how another one is looked for, with its options.
The flag says whether there is another one. The bound is one on the number of options. -/
def Choice.behindCommand (run : Option Command → Action Octets) : Nat → Choice → Action (Bool × Choice)
  | 0, choice => return (false, choice)
  | bound + 1, choice => do
    let (fields, words) ←
      match choice.fields with
      | [_] => do
        let (fields, words) ← firstFields run choice.words
        pure (choice.fields ++ fields, words)
      | fields => pure (fields, choice.words)
    let choice := { choice with fields, words }
    let next := { choice with front := choice.front ++ fields.take 1, fields := fields.drop 1 }
    match next.fields with
    | [] => return (false, choice)
    | ('-' :: c :: letters) :: rest =>
      if (c :: letters) = ['-'] then
        let (rest, words) ← if rest.isEmpty then firstFields run words else pure (rest, words)
        if rest.isEmpty then return (false, { choice with words })
        return (true, { next with front := next.front ++ [['-', '-']], fields := rest, words })
      else if (c :: letters).all (· == 'p') then
        let (found, after) ← behindCommand run bound { next with directories := some standardPath }
        let whole := { after with front := choice.front, fields := choice.fields.take 1 ++ after.fields }
        return (found, if found then after else whole)
      else return (false, choice)
    | _ => return (true, next)

/-- Finds out what a simple command is. The bound is one on the number of names in front of it. -/
def Choice.settle (run : Option Command → Action Octets) : Nat → Choice → Action Choice
  | 0, choice => return choice
  | bound + 1, choice => do
    match choice.fields with
    | [] => return choice
    | name :: _ =>
      match ← findCommand choice.withFunctions (← searchPath) name with
      | .builtin builtin =>
        let choice :=
          { choice with
            found := some (.builtin builtin)
            special := some (choice.special.getD builtin.special)
            isScoped := choice.special.isSome || !builtin.special }
        if builtin.name ≠ "command" then return choice
        let steps := (choice.fields.length + choice.words.length + 1)
        let (found, choice) ← behindCommand run steps choice
        if found then settle run bound { choice with withFunctions := false } else return choice
      | found => return { choice with found := some found, isScoped := true }

/-- Whether a command may give values to variables in its arguments. -/
def Choice.assigns (choice : Choice) : Bool :=
  match choice.found with
  | some (.builtin builtin) => builtin.assigns
  | _ => false

/-- Whether a command takes the place of the shell. -/
def Choice.replaces (choice : Choice) : Bool :=
  match choice.found with
  | some (.builtin builtin) => builtin.name == "exec"
  | _ => false

def Choice.allFields (run : Option Command → Action Octets) (choice : Choice) :
    Action (List Octets) := do
  let more ← choice.words.mapM fun word =>
    if choice.assigns && (Word.assignment? word).isSome then
      return [← Expansion.text run .behindEquals word]
    else Expansion.fields run word
  return choice.fields ++ more.flatten

/-- Looks for the program that a part of a pipe is, so that the shell knows where it lies. -/
def foresee : Command → Action Unit
  | .simple _ _ (word :: _) _ => do
    match bare? word with
    | some name => if isName name then let _ ← findTracked true name
    | none => return
  | _ => return

/-- Gives a value to a variable, for one command only or for good. -/
def assign (run : Option Command → Action Octets) (isScoped exported : Bool) (word : Word) :
    Action Octets := do
  match Word.assignment? word with
  | none => return []
  | some (name, value) =>
    let value ← Expansion.text run .hereAndColons value
    if isScoped then saveVariable name
    setVariable name value
    if exported then changeVariable name fun v => { v with exported := true }
    return name ++ '=' :: value

/-- What stands in front of a command that is shown. Things are put into it, unless that cannot be done. -/
def traceFront (run : Option Command → Action Octets) : Action Octets := do
  let front := (← value? "PS4".toList).getD []
  let m ← get
  let script := { Script.ofText front m.nextDocument with aliases := m.aliases }
  setProcess fun p => { p with isShowing := true }
  let result ← attempt do
    match script.prompt with
    | .error fault =>
      setProcess fun p => { p with line := fault.line }
      fail fault.words
    | .ok word => Expansion.document run word
  setProcess fun p => { p with isShowing := false }
  match result with
  | .error .failure => return front
  | result => MonadExcept.ofExcept result

/-- Shows a command that is about to be run, if that is asked for, on a channel. -/
def trace (run : Option Command → Action Octets) (channel : Option Nat) (fields : List Octets) :
    Action Unit := do
  if (← hasOption 'x') && !(← get).isShowing then
    let front ← traceFront run
    withStreams [2] do
      setStream 2 channel
      print 2 (front ++ Text.join [' '] fields ++ ['\n'])

end SkipChecks.Shell.Run
