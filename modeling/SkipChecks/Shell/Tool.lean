import SkipChecks.Shell.File
import SkipChecks.Shell.Format
import SkipChecks.Shell.Manual
import SkipChecks.Shell.Quoted

/-!
# Small programs

What the small programs do that scripts are made of: `echo`, `printf` and `cat`. Each of them is told the
name it was called by, which its complaints begin with.
-/

namespace SkipChecks.Shell

open Action

/-! ## Printing arguments -/

/-- The options of `echo` that stands alone: no line end, and escapes. -/
def echoOptions (newline escapes : Bool) : List Octets → Bool × Bool × List Octets
  | [] => (newline, escapes, [])
  | s :: arguments =>
    match s with
    | '-' :: c :: letters =>
      if (c :: letters).all fun c => c == 'n' || c == 'e' || c == 'E' then
        echoOptions (newline && !(c :: letters).any (· == 'n'))
          ((c :: letters).foldl
            (fun escapes c => if c = 'e' then true else if c = 'E' then false else escapes) escapes)
          arguments
      else (newline, escapes, s :: arguments)
    | _ => (newline, escapes, s :: arguments)

/-- Escapes that `echo` knows. -/
def Origin.inEcho : Origin → Escapes
  | builtin => Origin.inArgument builtin
  | standalone => ⟨true, true, false, true, false, true⟩

/-- The bytes that `echo` prints. -/
def echo (origin : Origin) (arguments : List Octets) : List UInt8 :=
  let (newline, escapes, arguments) :=
    match origin, arguments with
    | .standalone, arguments => echoOptions true false arguments
    | .builtin, ['-', 'n'] :: arguments => (false, true, arguments)
    | .builtin, arguments => (true, true, arguments)
  let s := Text.join [' '] arguments
  let ending : List UInt8 := if newline then [10] else []
  if escapes then
    match origin.inEcho.readAll s.length s with
    | (bytes, .bytes _) => bytes ++ ending
    | (bytes, _) => bytes
  else bytesOf s ++ ending

/-- Complains in the name of a program. -/
def complain (program words : Octets) : Action Unit :=
  print 2 (program ++ ": ".toList ++ words ++ ['\n'])

/-- Ends a program that has printed something, with a status unless that could not be written. -/
def closeOutput (program : Octets) (status : Nat) : Action Nat := do
  match (← get).unwritten with
  | none => return status
  | some words =>
    setProcess fun p => { p with unwritten := none }
    complain program ("write error: ".toList ++ words)
    return 1

def runEcho (program : Octets) (arguments : List Octets) : Action Nat := do
  say ⟨(echo .standalone arguments).toArray⟩
  closeOutput program 0

/-- Prints parts, of which complaints begin with words of their own. -/
def printParts (warn : Octets → Action Unit) (parts : List Printed) : Action Unit := do
  for part in parts do
    match part with
    | .bytes bytes => say ⟨bytes.toArray⟩
    | .complaint words => warn words

/-- Runs the `printf` that stands alone. -/
def runPrintf (program : Octets) (arguments : List Octets) : Action Nat := do
  let p := printf .standalone arguments
  printParts (complain program) p.parts.reverse
  closeOutput program p.status.toNat

/-- Runs the `printf` of the shell, where complaints come before all that is printed. -/
def shellPrintf (arguments : List Octets) : Action Nat := do
  let p := printf .builtin arguments
  let isBytes : Printed → Bool
    | .bytes _ => true
    | .complaint _ => false
  let (bytes, complaints) := p.parts.reverse.partition isBytes
  printParts warn complaints
  printParts warn bytes
  return p.status.toNat

/-! ## Printing files -/

/-- How files are printed. -/
structure Style where
  /-- Whether lines are numbered, and whether empty ones are left out of that. -/
  numbers : Bool
  filled : Bool
  /-- Whether ends of lines, tabs, and what cannot be shown are made visible. -/
  ends : Bool
  tabs : Bool
  all : Bool
  /-- Whether only the first one of empty lines is printed. -/
  squeezes : Bool
  deriving DecidableEq

namespace Style

/-- Files are printed as they are. -/
def plain : Style := ⟨false, false, false, false, false, false⟩

/-- Adds what a letter asks for. -/
def add? (style : Style) : Char → Option Style
  | 'b' => some { style with numbers := true, filled := true }
  | 'e' => some { style with ends := true, all := true }
  | 'n' => some { style with numbers := true }
  | 's' => some { style with squeezes := true }
  | 't' => some { style with tabs := true, all := true }
  | 'u' => some style
  | 'v' => some { style with all := true }
  | 'A' => some { style with ends := true, tabs := true, all := true }
  | 'E' => some { style with ends := true }
  | 'T' => some { style with tabs := true }
  | _ => none

/-- A byte made visible. -/
def visible (style : Style) (b : UInt8) : List UInt8 :=
  let low (b : UInt8) : List UInt8 :=
    if b = 127 then [94, 63] else if b < 32 then [94, b + 64] else [b]
  if b = 9 then if style.tabs then [94, 73] else [9]
  else if !style.all then [b]
  else if 128 ≤ b then [77, 45] ++ low (b - 128)
  else low b

end Style

/-- Files that are being printed. Bytes come last one first. -/
structure Pages where
  output : List UInt8
  /-- The number of the last line. -/
  lines : Nat
  /-- How many line ends stand before the next byte, unless a line has begun. -/
  ends : Option Nat

namespace Pages

def add (p : Pages) (bytes : List UInt8) : Pages := { p with output := bytes.reverse ++ p.output }

def addNumber (p : Pages) : Pages :=
  let digits := Text.ofNat (p.lines + 1)
  let p := p.add (bytesOf (List.replicate (6 - digits.length) ' ' ++ digits ++ ['\t']))
  { p with lines := p.lines + 1 }

/-- Prints a byte, which the next one may follow. -/
def step (style : Style) (p : Pages) (b : UInt8) (next : Option UInt8) : Pages :=
  if b = 10 then
    match p.ends with
    | none => { p.add (if style.ends then [36, 10] else [10]) with ends := some 0 }
    | some n =>
      if 0 < n ∧ style.squeezes then { p with ends := some 1 }
      else
        let p := if style.numbers && !style.filled then p.addNumber else p
        { p.add (if style.ends then [36, 10] else [10]) with ends := some 1 }
  else
    let p := if p.ends.isSome && style.numbers then p.addNumber else p
    let bytes :=
      if b = 13 ∧ next = some 10 ∧ style.ends then [94, 77] else style.visible b
    { p.add bytes with ends := none }

def steps (style : Style) (p : Pages) : List UInt8 → Pages
  | [] => p
  | b :: bytes => steps style (p.step style b bytes.head?) bytes

end Pages

/-- What a long option asks for. -/
inductive LongOption
  /-- The same as a letter. -/
  | letter (letter : Char)
  | help
  | version

/-- The long options of `cat`. -/
def longOptions : List (String × LongOption) :=
  [("number-nonblank", .letter 'b'), ("number", .letter 'n'), ("squeeze-blank", .letter 's'),
    ("show-nonprinting", .letter 'v'), ("show-ends", .letter 'E'), ("show-tabs", .letter 'T'),
    ("show-all", .letter 'A'), ("help", .help), ("version", .version)]

/-- How files are to be printed by `cat`, and which ones; or the status, if that is not what is asked
for. -/
def catOptions (program : Octets) :
    List Octets → Style → List Octets → Action (Except Nat (Style × List Octets))
  | [], style, names => return .ok (style, names.reverse)
  | ['-', '-'] :: arguments, style, names => return .ok (style, names.reverse ++ arguments)
  | ('-' :: '-' :: long) :: arguments, style, names => do
    let name := long.takeWhile (· != '=')
    let known : List (String × LongOption) := match longOptions.filter (·.1.toList == name) with
      | [] => longOptions.filter fun known => name.isPrefixOf known.1.toList
      | exactly => exactly
    match known with
    | [] => refuse ("unrecognized option '".toList ++ '-' :: '-' :: long ++ ['\''])
    | [(other, asked)] =>
      if long.any (· == '=') then
        refuse ("option '--".toList ++ other.toList ++ "' doesn't allow an argument".toList)
      else
        match asked with
        | .letter letter => catOptions program arguments ((style.add? letter).getD style) names
        | .help => tell (Manual.help "cat" program)
        | .version => tell (Manual.version "cat")
    | several =>
      let choices := several.flatMap fun known => " '--".toList ++ known.1.toList ++ ['\'']
      refuse ("option '".toList ++ '-' :: '-' :: long ++ "' is ambiguous; possibilities:".toList ++
        choices)
  | ('-' :: c :: letters) :: arguments, style, names => do
    match (c :: letters).find? fun c => (style.add? c).isNone with
    | some c => refuse ("invalid option -- '".toList ++ [c, '\''])
    | none =>
      catOptions program arguments
        ((c :: letters).foldl (fun style c => (style.add? c).getD style) style) names
  | name :: arguments, style, names => catOptions program arguments style (name :: names)
where
  /-- Complains about the arguments. -/
  refuse (words : Octets) : Action (Except Nat (Style × List Octets)) := do
    complain program words
    print 2 ("Try '".toList ++ program ++ " --help' for more information.\n".toList)
    return .error 1
  /-- Tells something in place of files. -/
  tell (words : Octets) : Action (Except Nat (Style × List Octets)) := do
    sayText words
    return .error (← closeOutput program 0)

/-- Why something cannot be printed. -/
inductive CatFault
  | fault (fault : Fault)
  /-- It is what is being written. -/
  | isOutput

/-- The bytes to be read from a channel, unless they would be written back into it. -/
def unread (input : Channel) : Action (Except CatFault Bytes) := do
  if !input.reads then return .error (.fault (.other badStream))
  if input.target = .directory then return .error (.fault .isDirectory)
  let content := contents (← get) input.target
  let output ← channel? 1
  if output.any (fun (_, output) => input.target matches .file _ && output.target == input.target) &&
      input.place < content.size then
    return .error .isOutput
  return .ok (content.extract input.place content.size)

/-- What is to be read under a name, or from the standard input, with the number of its channel if that has
been open before. -/
def findNamed (name : Octets) : Action (Except CatFault (Option Nat × Channel)) := do
  let stream := if name = ['-'] then some 0 else ownStream? name
  match ← (stream.map channel?).getD (pure none) with
  | some (number, channel) =>
    if name = ['-'] || !(channel.target matches .file _) then return .ok (some number, channel)
  | none =>
    if name = ['-'] then return .error (.fault (.other badStream))
  match ← openInput name with
  | .error fault => return .error (.fault fault)
  | .ok channel => return .ok (none, channel)

/-- Prints what is under a name, unless that cannot be done. If more would come, then it is waited for. -/
def printNamed (style : Style) (name : Octets) (pages : Pages) : Action (Except CatFault Pages) := do
  match ← findNamed name with
  | .error fault => return .error fault
  | .ok (number, channel) =>
    match ← unread channel with
    | .error fault => return .error fault
    | .ok bytes =>
      match number with
      | some number =>
        let size := (contents (← get) channel.target).size
        setChannel number { channel with place := max channel.place size }
      | none => pure ()
      let pages ←
        if style = .plain then do
          say bytes
          pure pages
        else do
          let pages := pages.steps style bytes.toList
          say ⟨pages.output.reverse.toArray⟩
          pure { pages with output := [] }
      awaitMore channel
      return .ok pages

/-- Prints files one after the other, and tells the status. -/
def printFiles (program : Octets) (style : Style) : List Octets → Pages → Nat → Action Nat
  | [], _, status => return status
  | name :: names, pages, status => do
    match ← printNamed style name pages with
    | .error fault =>
      complain program (Quoted.name true name ++ ": ".toList ++
        match fault with
        | .fault fault => fault.words.1
        | .isOutput => "input file is output file".toList)
      printFiles program style names pages 1
    | .ok pages => printFiles program style names pages status

def runCat (program : Octets) (arguments : List Octets) : Action Nat := do
  match ← catOptions program arguments .plain [] with
  | .error status => return status
  | .ok (style, names) =>
    if (← channel? 1).isNone then
      complain program ("standard output: ".toList ++ badStream)
      return 1
    let names := if names.isEmpty then [['-']] else names
    let status ← printFiles program style names ⟨[], 0, some 0⟩ 0
    let status ← closeOutput program status
    if names.any (· == ['-']) && (← channel? 0).isNone then
      complain program ("closing standard input: ".toList ++ badStream)
      return 1
    return status

/-- Runs a program that may only be asked about itself. -/
def runAsked (tool : String) (status : Nat) (run : Octets → List Octets → Action Nat)
    (program : Octets) (arguments : List Octets) : Action Nat := do
  match Manual.answer? tool program arguments with
  | some words =>
    sayText words
    closeOutput program status
  | none => run program arguments

/-- The small program that lies under a name. -/
def tool? (name : String) : Option (Octets → List Octets → Action Nat) :=
  match name with
  | "echo" => some (runAsked name 0 runEcho)
  | "printf" => some (runAsked name 0 runPrintf)
  | "cat" => some runCat
  | "true" => some (runAsked name 0 fun _ _ => return 0)
  | "false" => some (runAsked name 1 fun _ _ => return 1)
  | _ => none

end SkipChecks.Shell
