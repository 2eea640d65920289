import SkipChecks.Shell.Builtin.Basic

/-!
# Commands on variables

Commands that give values to variables and parameters, take them away, or show them.
-/

namespace SkipChecks.Shell.Builtin

open Action

/-- Shows variables, in the order of their names. -/
def list (front : Octets) (which : Variable → Bool) : Action Nat := do
  let chosen := ((← get).bindings.filter fun (_, v) => which v).mergeSort
    fun a b => !decide (b.1 < a.1)
  for (name, v) in chosen do
    sayText (front ++ name ++ (v.value.elim [] fun value => '=' :: inQuotes value) ++ ['\n'])
  return 0

/-- The name in an argument, and the value if there is one. -/
def nameAndValue (argument : Octets) : Action (Octets × Option Octets) := do
  let name ← nameIn argument
  return (name, (argument.drop name.length).tail?)

/-- Marks variables, which may be given values, or shows those that are marked. -/
def mark (command : Octets) (f : Variable → Variable) (which : Variable → Bool)
    (arguments : List Octets) : Action Nat := do
  let (shows, names) ← flag 'p' arguments
  if shows || names.isEmpty then return ← list (command ++ [' ']) which
  for argument in names do
    let (name, value) ← nameAndValue argument
    match value with
    | some value => setVariable name value
    | none => pure ()
    let v := ((← get).bindings.lookup name).getD ⟨none, false, false⟩
    putVariable name (some (f v))
  return 0

def unset (arguments : List Octets) : Action Nat := do
  let (found, names) ← flags "vf" arguments
  for argument in names do
    if found.getLast? = some 'f' then
      setProcess fun p => { p with functions := p.functions.filter (·.1 != argument) }
    else removeVariable (← nameIn argument)
  return 0

/-- Keeps variables for the function that is running, which may be given values, or its options for a
dash. Only the name of a new variable without a value is looked at. -/
def localize (arguments : List Octets) : Action Nat := do
  if (← get).scopes.isEmpty then fail "not in a function".toList
  for argument in arguments do
    if argument = ['-'] then saveOptions
    else
      let name := argument.takeWhile (· != '=')
      saveVariable name
      match (argument.drop name.length).tail? with
      | some value => setVariable name value
      | none =>
        if ((← get).bindings.lookup name).isNone then
          putVariable (← nameIn name) (some ⟨none, false, false⟩)
  return 0

/-- The options of a shell, with their letters. The last ones cannot be set by a letter. -/
def shellOptions : List (String × Char) :=
  [("errexit", 'e'), ("noglob", 'f'), ("ignoreeof", 'I'), ("interactive", 'i'), ("monitor", 'm'),
    ("noexec", 'n'), ("stdin", 's'), ("xtrace", 'x'), ("verbose", 'v'), ("vi", 'V'), ("emacs", 'E'),
    ("noclobber", 'C'), ("allexport", 'a'), ("notify", 'b'), ("nounset", 'u'), ("privileged", 'p'),
    ("nolog", '\x01'), ("debug", '\x02')]

/-- Sets an option, or takes it back. There is no terminal to watch over processes from. -/
def setOption (letter : Char) (on : Bool) : Action Unit := do
  if letter = 'm' ∧ on then warn "can't access tty; job control turned off".toList
  else setProcess fun p =>
    let others := p.options.filter (· != letter)
    let others :=
      if !on then others
      else if letter = 'V' then others.filter (· != 'E')
      else if letter = 'E' then others.filter (· != 'V')
      else others
    { p with options := if on then letter :: others else others }

def setLetter (letter : Char) (on : Bool) : Action Unit :=
  if shellOptions.any fun (_, c) => c == letter && '\x02' < c then setOption letter on
  else fail ("Illegal option -".toList ++ [letter])

/-- Sets an option by its name, or shows all of them. -/
def setNamed (name : Option Octets) (on : Bool) : Action Unit := do
  match name with
  | some name =>
    match shellOptions.find? (·.1.toList == name) with
    | some (_, letter) => setOption letter on
    | none => fail ("Illegal option -o ".toList ++ name)
  | none =>
    if on then sayText "Current option settings\n".toList
    for (name, letter) in shellOptions do
      let isSet ← hasOption letter
      if on then
        let blanks := List.replicate (16 - name.length) ' '
        sayText (name.toList ++ blanks ++ (if isSet then "on\n" else "off\n").toList)
      else sayText ((if isSet then "set -o " else "set +o ").toList ++ name.toList ++ ['\n'])

/-- Sets the options of one argument, and tells what is left of the arguments behind it. -/
def setCluster (on : Bool) : Octets → List Octets → Action (List Octets)
  | [], rest => return rest
  | 'o' :: cluster, rest => do
    setNamed rest.head? on
    setCluster on cluster rest.tail
  | letter :: cluster, rest => do
    setLetter letter on
    setCluster on cluster rest

/-- Sets options, and parameters behind them. The first argument bounds the number of arguments. -/
def setOptions : Nat → List Octets → Action Unit
  | 0, _ => return
  | fuel + 1, arguments => do
    match arguments with
    | ['-'] :: rest =>
      setOption 'x' false
      setOption 'v' false
      setParameters rest
    | [['-', '-']] => setProcess fun p => { p with parameters := [] }
    | ['-', '-'] :: rest => setParameters rest
    | ('-' :: cluster) :: rest => setOptions fuel (← setCluster true cluster rest)
    | ('+' :: cluster) :: rest => setOptions fuel (← setCluster false cluster rest)
    | rest => setParameters rest
where
  setParameters (parameters : List Octets) : Action Unit :=
    if parameters.isEmpty then return
    else setProcess fun p => { p with parameters, optionIndex := 1, optionPlace := none }

/-- Sets options and parameters, or shows all variables. -/
def setCommand (arguments : List Octets) : Action Nat := do
  if arguments.isEmpty then return ← list [] (·.value.isSome)
  setOptions (arguments.length + 1) arguments
  return 0

/-- Takes away the first parameters. -/
def shift (arguments : List Octets) : Action Nat := do
  let n ← match arguments with
    | [] => pure 1
    | argument :: _ => natural argument
  if (← get).parameters.length < n then fail "can't shift that many".toList
  setProcess fun p =>
    { p with parameters := p.parameters.drop n, optionIndex := 1, optionPlace := none }
  return 0

/-! ## Intake a line -/

/-- What has been read of a line. Glyphs come last one first. -/
structure Intake where
  glyphs : List Glyph
  /-- The number of the stretch that may be split. -/
  stretch : Nat

/-- Reads a line, of which characters behind a backslash are not split. The answer says whether the
line came to its end. The first argument bounds the number of characters. -/
def takeLine (raw : Bool) : Nat → Bool → Intake → Action (Bool × Intake)
  | 0, _, line => return (false, line)
  | fuel + 1, escaped, line => do
    match ← readByte 0 with
    | none => return (false, line)
    | some c =>
      if c = '\x00' then takeLine raw fuel escaped line
      else if escaped then
        let next := line.stretch + 1
        if c = '\n' then takeLine raw fuel false ⟨line.glyphs, next⟩
        else takeLine raw fuel false ⟨⟨.char true c, none⟩ :: line.glyphs, next⟩
      else if !raw && c == '\\' then takeLine raw fuel true line
      else if c = '\n' then return (true, line)
      else
        takeLine raw fuel false
          ⟨⟨.char false c, some ⟨line.stretch, false⟩⟩ :: line.glyphs, line.stretch⟩

/-- Gives the fields of a line to variables, of which the last one takes what is left. -/
def giveFields : List Octets → List (List Sign) → Action Unit
  | [], _ => return
  | argument :: names, fields => do
    let name ← nameIn argument
    setVariable name (textOf (fields.headD []))
    giveFields names fields.tail

/-- Reads a line of the standard input. -/
def read (arguments : List Octets) : Action Nat := do
  let (found, names) ← options ['p', 'r'] ['p'] (fun _ _ => return) arguments []
  if names.isEmpty then fail "arg count".toList
  let m ← get
  let bound := match ← channel? 0 with
    | some (_, channel) => (contents m channel.target).size + 1
    | none => 1
  let (ended, line) ← takeLine (found.any (·.1 == 'r')) bound false ⟨[], 0⟩
  let fields := splitFields (← Expansion.separators) (some names.length) line.glyphs.reverse
  giveFields names fields
  return if ended then 0 else 1

/-! ## Options of scripts -/

/-- Whether an option is known, and if so whether it takes an argument. -/
def takesArgument? (letter : Char) : Octets → Option Bool
  | [] => none
  | c :: ':' :: rest => if c = letter then some true else takesArgument? letter rest
  | c :: rest => if c = letter then some false else takesArgument? letter rest

/-- Looks for the next option in arguments, and tells whether there was none. -/
def nextOption (known name : Octets) (arguments : List Octets) : Action Nat := do
  let m ← get
  let (index, place) :=
    if arguments.length + 1 < m.optionIndex then (1, none) else (m.optionIndex, m.optionPlace)
  let left : Octets :=
    match place with
    | some place => if 2 ≤ index then (arguments[index - 2]?.getD []).drop place else []
    | none => []
  let (found, index) : Octets × Nat :=
    if left ≠ [] then (left, index)
    else
      match arguments[index - 1]? with
      | some ['-', '-'] => ([], index + 1)
      | some ('-' :: letters) => (letters, if letters = [] then index else index + 1)
      | _ => ([], index)
  let finish (letter : Char) (index : Nat) (rest : Option Octets) : Action Unit := do
    changeVariable "OPTIND".toList fun v => { v with value := some (Text.ofNat index) }
    setVariable (← nameIn name) [letter]
    let whole := (arguments[index - 2]?.getD []).length
    setProcess fun p =>
      { p with optionIndex := index, optionPlace := rest.map fun rest => whole - rest.length }
  let quiet := known.head? == some ':'
  let refuse (letter answer : Char) (words : Octets) (index : Nat) (rest : Option Octets) :
      Action Unit := do
    if quiet then
      setVariable optionArgument [letter]
      finish answer index rest
    else
      print 2 (words ++ ['\n'])
      putVariable optionArgument none
      finish '?' index rest
  match found with
  | [] =>
    finish '?' index none
    return 1
  | letter :: rest =>
    match takesArgument? letter known with
    | none => refuse letter '?' ("Illegal option -".toList ++ [letter]) index (some rest)
    | some false =>
      setVariable optionArgument []
      finish letter index (some rest)
    | some true =>
      match rest, arguments[index - 1]? with
      | [], none =>
        refuse letter ':' ("No arg for -".toList ++ letter :: " option".toList) index none
      | [], some value =>
        setVariable optionArgument value
        finish letter (index + 1) none
      | value, _ =>
        setVariable optionArgument value
        finish letter index none
    return 0
where
  /-- The variable for the argument of an option. -/
  optionArgument : Octets := "OPTARG".toList

/-- Looks for the next option of a script. -/
def getOptions (arguments : List Octets) : Action Nat := do
  match arguments with
  | [known, name] => nextOption known name (← get).parameters
  | known :: name :: arguments => nextOption known name arguments
  | _ => fail "Usage: getopts optstring var [arg...]".toList

end SkipChecks.Shell.Builtin
