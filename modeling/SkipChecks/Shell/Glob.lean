import SkipChecks.Shell.File

/-!
# Patterns of names

In a pattern, a question mark stands for any character, a star for any text, and brackets for a choice
of characters; a backslash takes the meaning from the character behind it. A pattern matches whole
texts only. Patterns of paths are matched name by name against what lies in the tree.
-/

namespace SkipChecks.Shell.Glob

/-- The classes of characters that brackets may name. -/
def classes : List (String × (Char → Bool)) :=
  [(":alnum:]", Char.isAlphanum), (":alpha:]", Char.isAlpha),
    (":blank:]", fun c => c == ' ' || c == '\t'), (":cntrl:]", fun c => c < ' ' || c == '\x7f'),
    (":digit:]", Char.isDigit), (":graph:]", fun c => '!' ≤ c && c ≤ '~'),
    (":lower:]", Char.isLower), (":print:]", fun c => ' ' ≤ c && c ≤ '~'),
    (":punct:]", fun c => '!' ≤ c && c ≤ '~' && !c.isAlphanum),
    (":space:]", fun c => c == ' ' || ('\t' ≤ c && c ≤ '\r')), (":upper:]", Char.isUpper),
    (":xdigit:]", fun c => c.isDigit || ('a' ≤ c && c ≤ 'f') || ('A' ≤ c && c ≤ 'F'))]

/-- The range that begins with a character in brackets, and what follows it. A single character is a
range as well. -/
def range (c : Char) : Octets → Char × Char × Octets
  | '-' :: '\\' :: d :: p => (c, d, p)
  | '-' :: d :: p => if d = ']' then (c, c, '-' :: d :: p) else (c, d, p)
  | p => (c, c, p)

/-- Looks for a character in brackets, behind the opening one: whether it is there, and what follows
the closing one. The flags say whether it was found, and whether the brackets have just begun. -/
def bracket? (x : Char) : Nat → Bool → Bool → Octets → Option (Bool × Octets)
  | 0, _, _, _ | _, _, _, [] => none
  | fuel + 1, found, start, c :: p =>
    let goOn (c : Char) (p : Octets) : Option (Bool × Octets) :=
      let (low, high, p) := range c p
      bracket? x fuel (found || (low ≤ x && x ≤ high)) false p
    if c = ']' ∧ !start then some (found, p)
    else if c = '[' then
      match classes.findSome? fun (name, holds) => (name.toList.isPrefixOf? p).map (holds, ·) with
      | some (holds, p) => bracket? x fuel (found || holds x) false p
      | none => goOn c p
    else if c = '\\' then
      match p with
      | c :: p => goOn c p
      | [] => none
    else goOn c p

/-- What brackets say about a character, and what follows them. -/
def choice? (x : Char) (p : Octets) : Option (Bool × Octets) :=
  match p with
  | '!' :: p => (bracket? x (p.length + 1) false true p).map fun (found, p) => (!found, p)
  | p => bracket? x (p.length + 1) false true p

/-- Whether a pattern matches a text, in at most so many steps. -/
def matchesIn : Nat → Octets → Octets → Bool
  | 0, _, _ => false
  | _ + 1, [], s => s.isEmpty
  | fuel + 1, c :: p, s =>
    match c, s with
    | '*', [] => matchesIn fuel p []
    | '*', x :: s => matchesIn fuel p (x :: s) || matchesIn fuel ('*' :: p) s
    | _, [] => false
    | '?', _ :: s => matchesIn fuel p s
    | '\\', x :: s =>
      match p with
      | d :: p => d == x && matchesIn fuel p s
      | [] => x == '\\' && s.isEmpty
    | '[', x :: s =>
      match choice? x p with
      | some (found, p) => found && matchesIn fuel p s
      | none => x == '[' && matchesIn fuel p s
    | c, x :: s => c == x && matchesIn fuel p s

def matchesText (p s : Octets) : Bool := matchesIn (p.length + s.length + 1) p s

/-- The lengths at which a text can be cut, in ascending order. -/
def cuts (s : Octets) : List Nat := List.range (s.length + 1)

/-- What stands in front of the first end sign of a text, which stands between parameters. A pattern
sees no more of a text. -/
def seen (s : Octets) : Octets := s.takeWhile (· != '\x00')

/-- A text without what a pattern matches at one of its ends. A search that goes on from the start ends
at the first end sign. -/
def trim (atEnd longest : Bool) (p s : Octets) : Octets :=
  let fits (n : Nat) : Bool := matchesText p (seen (if atEnd then s.drop n else s.take n))
  match (if atEnd == longest then cuts (seen s) else (cuts s).reverse).find? fits with
  | some n => if atEnd then s.take n else s.drop n
  | none => s

example :
    matchesText "a*[!0-9]?".toList "abcde".toList ∧ ¬ matchesText "*.js".toList "a.json".toList ∧
      trim false true "*/".toList "a/b/c".toList = "c".toList ∧
      trim true false ".*".toList "a.b.c".toList = "a.b".toList := by
  decide +kernel

/-! ## Patterns of paths -/

/-- Whether brackets are closed in a name. -/
def closes : Nat → Bool → Octets → Bool
  | 0, _, _ | _, _, [] => false
  | _ + 1, false, ']' :: _ => true
  | fuel + 1, _, '\\' :: _ :: p => closes fuel false p
  | fuel + 1, _, _ :: p => closes fuel false p

def isPattern : Octets → Bool
  | '\\' :: _ :: p => isPattern p
  | c :: p =>
    c == '*' || c == '?' ||
      (c == '[' && closes (p.length + 1) true (match p with | '!' :: p => p | p => p)) || isPattern p
  | [] => false

/-- The text that a pattern without choices stands for. -/
def literal : Octets → Octets
  | '\\' :: c :: p => c :: literal p
  | c :: p => c :: literal p
  | [] => []

/-- The pattern that stands for a text only. -/
def quote (s : Octets) : Octets := s.flatMap fun c => ['\\', c]

/-- Whether a name may match a pattern as far as the dot in front is concerned. -/
def mayMatch (p name : Octets) : Bool :=
  name.head? != some '.' || p.head? == some '.' || ['\\', '.'].isPrefixOf p

/-- The paths that match names of a pattern, behind a path. Whether there was any pattern is told by
the flag. -/
def expand (found : Bool) : List Octets → Octets → Action (List Octets)
  | [], _ => return []
  | [p], front => do
    if isPattern p then
      let names := (← namesIn? (if front = [] then ['.'] else front)).getD []
      let names := ['.'] :: ['.', '.'] :: names
      return (names.filter fun name => mayMatch p name && matchesText p name).map (front ++ ·)
    else if !found then return []
    else
      let path := front ++ literal p
      return if (← kind? path).isSome then [path] else []
  | p :: ps, front => do
    if isPattern p then
      let names := (← namesIn? (if front = [] then ['.'] else front)).getD []
      let names := (['.'] :: ['.', '.'] :: names).filter fun name => mayMatch p name && matchesText p name
      return (← names.mapM fun name => expand true ps (front ++ name ++ ['/'])).flatten
    else expand found ps (front ++ literal p ++ ['/'])

/-- The names of a path, in which slashes have no other meaning. -/
def names (p : Octets) : List Octets := Text.split '/' (go p)
where
  /-- Takes the backslash away in front of slashes. -/
  go : Octets → Octets
    | '\\' :: '/' :: p => '/' :: go p
    | '\\' :: c :: p => '\\' :: c :: go p
    | c :: p => c :: go p
    | [] => []

/-- The paths that match a pattern, in ascending order. -/
def paths (p : Octets) : Action (List Octets) := do
  return (← expand false (names p) []).mergeSort fun a b => !decide (b < a)

end SkipChecks.Shell.Glob
