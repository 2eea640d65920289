import SkipChecks.Shell.Script.Basic

/-!
# Reading words

A word is read character by character. What a character means hangs on what it stands in: quotes, the
braces of a parameter, an expression, and these may be nested. The `Layer` at hand says what quoting
is in force and how deep the braces are; frames hold the pieces read so far of what is still open.
Documents are read in the same way, up to the line that ends them.
-/

namespace SkipChecks.Shell

open Script

/-- The quoting that is in force. -/
inductive Quoting
  | plain
  | double
  | single
  | arithmetic
  deriving DecidableEq, Repr

/-- What characters mean at a place. -/
structure Layer where
  quoting : Quoting
  /-- Whether a backslash quotes only what would mean something in double quotes. -/
  doubled : Bool
  /-- How many braces are open, and how many of them in double quotes. -/
  braces : Nat
  doubledBraces : Nat
  /-- Whether double quotes were opened again inside of braces. -/
  inner : Bool
  /-- Whether the layer ends with its last brace. -/
  temporary : Bool
  /-- How many parentheses are open in an expression. -/
  parentheses : Nat

/-- A layer where nothing is open. -/
def Layer.of (quoting : Quoting) (doubled temporary : Bool) : Layer :=
  ⟨quoting, doubled, 0, 0, false, temporary, 0⟩

/-- What was opened and is not closed yet. -/
inductive Opening
  | parameter (name : Octets) (use : Use)
  | arithmetic

/-- A word that is being read. Pieces come last one first. -/
structure Lexing where
  layer : Layer
  outer : List Layer
  pieces : Word
  frames : List (Opening × Word)
  quoted : Bool

namespace Lexing

def add (l : Lexing) (piece : Piece) : Lexing := { l with pieces := piece :: l.pieces }

def setLayer (l : Lexing) (f : Layer → Layer) : Lexing := { l with layer := f l.layer }

def push (l : Lexing) (layer : Layer) : Lexing := { l with layer, outer := l.layer :: l.outer }

def pop (l : Lexing) : Lexing :=
  match l.outer with
  | layer :: outer => { l with layer, outer }
  | [] => l

/-- Opens something. -/
def enter (l : Lexing) (opening : Opening) : Lexing :=
  { l with pieces := [], frames := (opening, l.pieces) :: l.frames }

/-- Closes what was opened last. -/
def leave (l : Lexing) : Lexing :=
  match l.frames with
  | (.parameter name use, before) :: frames =>
    { l with pieces := .parameter name use l.pieces.reverse :: before, frames }
  | (.arithmetic, before) :: frames =>
    { l with pieces := .arithmetic l.pieces.reverse :: before, frames }
  | [] => l

/-- Opens braces, in a layer of their own where that is called for. -/
def openBraces (l : Lexing) (name : Octets) (use : Use) : Lexing :=
  let quoting :=
    match use, l.layer.quoting with
    | .trim _ _, _ => .plain
    | _, .arithmetic => .double
    | _, quoting => quoting
  let l :=
    if quoting ≠ l.layer.quoting ∨ l.layer.inner then
      l.push (.of quoting (quoting != .plain) true)
    else l
  (l.enter (.parameter name use)).setLayer fun layer =>
    { layer with
      braces := layer.braces + 1
      doubledBraces := layer.doubledBraces + if layer.doubled then 1 else 0 }

/-- Looks at a closing brace. -/
def closeBrace (l : Lexing) : Lexing :=
  if l.layer.inner || l.layer.braces == 0 then l.add (.char false '}')
  else
    let l := l.leave
    if l.layer.braces = 1 ∧ l.layer.temporary then l.pop
    else
      l.setLayer fun layer =>
        { layer with braces := layer.braces - 1, doubledBraces := layer.doubledBraces - 1 }

/-- Adds a quotation mark, of which documents have none. -/
def addMark (l : Lexing) (inDocument : Bool) : Lexing := if inDocument then l else l.add .mark

def openQuotes (l : Lexing) (inDocument double : Bool) : Lexing :=
  let l := l.setLayer fun layer =>
    if double then
      { layer with quoting := .double, doubled := true, inner := layer.inner != (0 < layer.braces) }
    else { layer with quoting := .single }
  l.addMark inDocument

/-- Looks at a quote that ends quoting, or that is one of a document. -/
def closeQuotes (l : Lexing) (inDocument : Bool) (c : Char) : Lexing :=
  if inDocument ∧ l.layer.braces = 0 then l.add (.char false c)
  else
    let l := l.setLayer fun layer =>
      let layer :=
        if layer.doubledBraces = 0 then { layer with quoting := .plain, doubled := false } else layer
      if c = '"' then { layer with inner := layer.inner != (0 < layer.braces) } else layer
    { l.addMark inDocument with quoted := true }

/-- Adds the character behind a backslash. -/
def addEscaped (l : Lexing) (inDocument : Bool) (c : Char) : Lexing :=
  let keeps :=
    l.layer.doubled && !(['\\', '\x60', '$'].any (· == c)) &&
      (c != '"' || (inDocument && l.layer.braces == 0)) && (c != '}' || l.layer.braces == 0)
  let l := if keeps then l.add (.char true '\\') else l
  { l.add (.char true c) with quoted := true }

end Lexing

/-- Characters that mean something in patterns and where tildes are put in. -/
def isMeta (c : Char) : Bool := "!*?[=~:/-]".toList.any (· == c)

def endsWord (c : Char) : Bool := "<>();&| \t".toList.any (· == c)

/-- Parameters named by one character. -/
def isSpecial (c : Char) : Bool := c.isDigit || "$#?!-*@".toList.any (· == c)

/-- Reads the characters of a class, joining lines. The first number bounds the steps. -/
def takeAll (p : Char → Bool) : Nat → Reading Octets
  | 0 => return []
  | fuel + 1 => do
    match ← takeJoined with
    | some c => if p c then return c :: (← takeAll p fuel) else putBack c; return []
    | none => return []

/-- The use that a character behind a name stands for. -/
def useOf? (orEmpty : Bool) : Char → Option Use
  | '}' => some .value
  | '-' => some (.fallback orEmpty)
  | '+' => some (.instead orEmpty)
  | '?' => some (.demand orEmpty)
  | '=' => some (.assign orEmpty)
  | _ => none

/-- Reads what is done with a parameter in braces, behind its name. The answer says whether more
stands in the braces. -/
def takeUse : Reading (Use × Bool) := do
  match ← takeJoined with
  | some ':' =>
    match ← takeJoined with
    | some c => return ((useOf? true c).getD .bad, true)
    | none => return (.bad, true)
  | some c =>
    if c = '%' ∨ c = '#' then
      let d ← takeJoined
      if d = some c then return (.trim (c == '%') true, true)
      putBack d
      return (.trim (c == '%') false, true)
    return ((useOf? false c).getD .bad, c != '}')
  | none => return (.bad, true)

/-- Reads a parameter in braces: its name, its use, and whether more stands in the braces. -/
def takeBraced (fuel : Nat) : Reading (Octets × Use × Bool) := do
  let bad : Octets × Use × Bool := ([], .bad, true)
  match ← takeJoined with
  | none => return bad
  | some c =>
    if startsName c then
      putBack c
      let name ← takeAll isNameChar fuel
      return (name, ← takeUse)
    else if c.isDigit then
      putBack c
      let name ← takeAll Char.isDigit fuel
      return (name, ← takeUse)
    else if c = '}' then
      putBack c
      return bad
    else if c = '#' then
      match ← takeJoined with
      | none => return (['#'], .bad, true)
      | some d =>
        if isNameChar d then
          putBack d
          let name ← takeAll (if d.isDigit then Char.isDigit else isNameChar) fuel
          let e ← takeJoined
          putBack e
          return (name, if e = some '}' then .length else .bad, true)
        else
          let e ← takeJoined
          putBack e
          if d ≠ '}' ∧ e = some '}' then
            return if isSpecial d then ([d], .length, true) else bad
          putBack d
          return (['#'], ← takeUse)
    else if isSpecial c then return ([c], ← takeUse)
    else return bad

/-- Reads the text between backquotes: some characters lose the backslash in front of them. -/
def takeBackquoted (doubled : Bool) : Nat → Reading Octets
  | 0 => fail "EOF in backquote substitution".toList
  | fuel + 1 => do
    match ← takeJoined with
    | some '\x60' => return []
    | some '\\' =>
      match ← take with
      | some c =>
        let plain := c == '\\' || c == '\x60' || c == '$' || (doubled && c == '"')
        if c = '\n' then newLine
        let s ← takeBackquoted doubled fuel
        return if plain then c :: s else '\\' :: c :: s
      | none => fail "EOF in backquote substitution".toList
    | some c =>
      if c = '\n' then newLine
      return c :: (← takeBackquoted doubled fuel)
    | none => fail "EOF in backquote substitution".toList

/-- Reads with another text in place of the script, which is then gone on with. -/
def within {α : Type} (s : Octets) (reading : Reading α) : Reading α := do
  let before ← get
  set { before with
    rest := s, returned := 0, behind := [], spent := [], used := before.inUse, line := 1
    again := false, pending := [] }
  let a ← reading
  modify fun after =>
    { after with
      rest := before.rest, returned := before.returned, behind := before.behind
      spent := before.spent, used := before.used, line := before.line, again := false, pending := before.pending }
  return a

/-- Puts the documents aside that are waited for. -/
def aside {α : Type} (reading : Reading α) : Reading α := do
  let before ← get
  set { before with pending := [] }
  let a ← reading
  modify fun after => { after with pending := before.pending }
  return a

/-- What a word is read as. -/
structure WordKind where
  /-- The document that is read, if it is one. -/
  document : Option Document
  /-- Whether the word is to end a document, so that it has no parameters. -/
  isDelimiter : Bool

/-- Reads what stands behind a dollar sign. Commands are read by a reader that is told whether they
stand in backquotes. -/
def dollar (commands : Bool → Reading (Option Command)) (kind : WordKind) (fuel : Nat)
    (l : Lexing) : Reading Lexing := do
  let c ← takeJoined
  let plain : Reading Lexing := do
    putBack c
    return l.add (.char false '$')
  match c with
  | none => plain
  | some c =>
    if kind.isDelimiter then plain
    else if c = '(' then
      let d ← takeJoined
      if d = some '(' then
        return (l.enter .arithmetic).push (.of .arithmetic true false)
      putBack d
      let command ← aside (commands false)
      return l.add (.output command)
    else if c = '\x7b' then
      let (name, use, more) ← takeBraced fuel
      return if more then l.openBraces name use else l.add (.parameter name use [])
    else if startsName c then
      putBack c
      let name ← takeAll isNameChar fuel
      return l.add (.parameter name .value [])
    else if isSpecial c then return l.add (.parameter [c] .value [])
    else plain

/-- The text behind the line that ends a document, if it begins with that line. -/
def behindDelimiter? (document : Document) (s : Octets) : Option Octets :=
  let s := if document.stripped then s.dropWhile (· == '\t') else s
  match document.delimiter.bind (·.isPrefixOf? s) with
  | some ('\n' :: rest) => some rest
  | some [] => some []
  | _ => none

/-- Reads a word up to what ends it, which is left. The number bounds the steps; the flag says that
a line of a document begins. -/
def lex (commands : Bool → Reading (Option Command)) (kind : WordKind) :
    Nat → Bool → Lexing → Reading Lexing
  | 0, _, l => return l
  | fuel + 1, true, l => do
    match kind.document with
    | none => lex commands kind fuel false l
    | some document =>
      match behindDelimiter? document (← get).rest with
      | some rest =>
        modify fun s => { s with rest, line := s.line + 1 }
        return l
      | none =>
        if document.stripped then
          modify fun s => { s with rest := s.rest.dropWhile (· == '\t') }
        lex commands kind fuel false l
  | fuel + 1, false, l => do
    let inDocument := kind.document.isSome
    let goOn (l : Lexing) : Reading Lexing := lex commands kind fuel false l
    let ending (c : Char) : Reading Lexing := do
      putBack c
      return l
    match ← take with
    | none => return l
    | some c =>
      match l.layer.quoting with
      | .single =>
        if c = '\n' then
          newLine
          lex commands kind fuel true (l.add (.char false c))
        else if c = '\'' then goOn (l.closeQuotes inDocument c)
        else
          goOn (l.add (.char ((isMeta c || c == '\\') && (!inDocument || l.layer.doubled)) c))
      | quoting =>
        if c = '\n' then
          if quoting = .plain ∧ l.layer.braces = 0 then ending c
          else
            newLine
            lex commands kind fuel true (l.add (.char false c))
        else if c = '\\' then
          match ← take with
          | none => goOn (l.add (.char true '\\'))
          | some '\n' =>
            newLine
            goOn l
          | some d => goOn (l.addEscaped inDocument d)
        else if c = '$' then goOn (← dollar commands kind fuel l)
        else if c = '}' then goOn l.closeBrace
        else if c = '\x60' then
          let s ← takeBackquoted l.layer.doubled fuel
          let command ← within s (commands true)
          goOn (l.add (.output command))
        else
          match quoting with
          | .plain | .single =>
            if c = '\'' ∨ c = '"' then goOn (l.openQuotes inDocument (c == '"'))
            else if endsWord c && l.layer.braces == 0 then ending c
            else goOn (l.add (.char false c))
          | .double =>
            if c = '"' then goOn (l.closeQuotes inDocument c)
            else
              goOn (l.add (.char (isMeta c && (!inDocument || l.layer.doubled || l.layer.braces != 0)) c))
          | .arithmetic =>
            if c = '(' then
              goOn ((l.add (.char false c)).setLayer fun layer =>
                { layer with parentheses := layer.parentheses + 1 })
            else if c = ')' then
              if l.layer.parentheses = 0 then
                let d ← takeJoined
                if d = some ')' then goOn l.leave.pop
                else
                  putBack d
                  goOn (l.add (.char false c))
              else
                goOn ((l.add (.char false c)).setLayer fun layer =>
                  { layer with parentheses := layer.parentheses - 1 })
            else goOn (l.add (.char false c))

/-- Reads a word of some kind, if everything in it is closed. -/
def lexWord (commands : Bool → Reading (Option Command)) (kind : WordKind) : Reading Unit := do
  let fuel := 3 * (← get).size + 8
  let layer :=
    match kind.document with
    | none => Layer.of .plain false false
    | some document => if document.expands then .of .double true false else .of .single false false
  let l ← lex commands kind fuel true ⟨layer, [], [], [], false⟩
  if l.layer.quoting = .arithmetic then fail "Missing '))'".toList
  if l.layer.quoting ≠ .plain ∧ kind.document.isNone then fail "Unterminated quoted string".toList
  if l.layer.braces ≠ 0 then fail "Missing '\x7d'".toList
  modify fun s => { s with word := l.pieces.reverse, quoted := l.quoted }

end SkipChecks.Shell
