import SkipChecks.Shell.Arithmetic
import SkipChecks.Shell.File

/-!
# Conditions

The words of a condition: texts, signs in front of one text or between two of them, and ways to put
conditions together. A word is a sign only where one fits, so that texts may look like signs. All parts of
a condition are looked at, even if the first ones settle it.
-/

namespace SkipChecks.Shell.Condition

open Action

/-- What a word means in a condition. -/
inductive Sign
  | ended
  | text
  /-- A sign in front of a text. -/
  | unary (letter : Char)
  /-- A sign between two texts. -/
  | binary (name : String)
  | not
  | and
  | or
  | opening
  | closing
  deriving DecidableEq, Repr

/-- The signs between two texts. -/
def binarySigns : List String :=
  ["=", "!=", "<", ">", "-eq", "-ne", "-ge", "-gt", "-le", "-lt", "-nt", "-ot", "-ef"]

/-- The letters of signs in front of a text. -/
def unaryLetters : List Char := "rwxefdcbpugkstznhOGLS".toList

/-- The sign that a word may be. -/
def sign? (word : Octets) : Option Sign :=
  match word with
  | ['!'] => some .not
  | ['('] => some .opening
  | [')'] => some .closing
  | ['-', 'a'] => some .and
  | ['-', 'o'] => some .or
  | word =>
    match binarySigns.find? (·.toList == word), word with
    | some name, _ => some (.binary name)
    | none, ['-', c] => if unaryLetters.any (· == c) then some (.unary c) else none
    | none, _ => none

/-- Whether a word may be a sign between two texts. -/
def isBinary (word : Octets) : Bool :=
  match sign? word with
  | some (.binary _) => true
  | _ => false

/-- What the first word means. -/
def first : List Octets → Sign
  | [] => .ended
  | word :: words =>
    match sign? word with
    | some (.unary letter) =>
      let standsAlone :=
        match words with
        | [] => true
        | [_] => false
        | next :: _ => isBinary next
      if standsAlone then .text else .unary letter
    | some .opening => if words.isEmpty then .text else .opening
    | some sign => sign
    | none => .text

def number (word : Octets) : Action Int :=
  match Number.value? (some 10) word with
  | some n => return n
  | none => fail ("Illegal number: ".toList ++ word)

/-- The bytes of a file in the tree. -/
def content? (path : Octets) : Action (Option Bytes) := do
  match ← spot path with
  | .ok l =>
    match (← get).tree.find? l with
    | some (.file content) => return some content
    | _ => return none
  | _ => return none

/-- Whether a sign holds of a text. -/
def holdsOf (letter : Char) (word : Octets) : Action Bool := do
  match letter with
  | 'n' => return !word.isEmpty
  | 'z' => return word.isEmpty
  | 't' =>
    let _ ← number word
    return false
  | letter =>
    match letter, ← kind? word with
    | _, none => return false
    | 'd', some kind => return kind == .directory
    | 'f', some kind => return kind == .file || kind == .program
    | 'c', some kind => return kind == .device
    | 'p', some kind => return kind == .pipe
    | 'x', some kind => return kind == .directory || kind == .program
    | 's', some .file => return (← content? word).elim true fun content => !content.isEmpty
    | 's', some kind => return kind != .device && kind != .pipe
    | 'h', some _ | 'L', some _ =>
      return (ownStream? word).isSome || System.links.any (· == Octets.text word)
    | 'k', some _ => return System.sticky.any (· == Octets.text word)
    | letter, some _ => return ['e', 'r', 'w', 'O', 'G'].any (· == letter)

/-- Whether what lies at one path is newer than what lies at another one: what is in the working
directory is newer than all that is not, and nothing is known about the order in which its files were written. -/
def isNewer (a b : Octets) : Action Bool := do
  let t := (← get).tree
  match ← kind? a, ← kind? b, ← spot a, ← spot b with
  | some _, some _, .ok l, .ok m => return System.isOwn t l && !System.isOwn t m
  | _, _, _, _ => return false

/-- Whether a sign holds between two texts. -/
def holdsBetween (name : String) (a b : Octets) : Action Bool := do
  let compare (holds : Int → Int → Bool) : Action Bool := do
    let m ← number a
    return holds m (← number b)
  match name with
  | "=" => return a == b
  | "!=" => return a != b
  | "<" => return decide (a < b)
  | ">" => return decide (b < a)
  | "-eq" => compare (· == ·)
  | "-ne" => compare (· != ·)
  | "-ge" => compare fun m n => decide (n ≤ m)
  | "-gt" => compare fun m n => decide (n < m)
  | "-le" => compare fun m n => decide (m ≤ n)
  | "-lt" => compare fun m n => decide (m < n)
  | "-nt" => isNewer a b
  | "-ot" => isNewer b a
  | "-ef" =>
    match ← kind? a, ← kind? b, ← spot a, ← spot b with
    | some _, some _, .ok p, .ok q => return p == q
    | _, _, _, _ => return false
  | _ => return false

/-- Looks at two texts with a sign between them. The words left begin with the last one looked at. -/
def comparison : List Octets → Action (Bool × List Octets)
  | a :: sign :: b :: words => do return (← holdsBetween (String.ofList sign) a b, b :: words)
  | _ :: sign :: _ => fail (sign ++ ": argument expected".toList)
  | words => return (false, words)

mutual

/-- Looks at conditions of which one must hold. The words left begin with the last one looked at. The
first argument bounds the depth. -/
def anyOf : Nat → List Octets → Action (Bool × List Octets)
  | 0, words => return (false, words)
  | fuel + 1, words => do
    let (a, words) ← allOf fuel words
    if first (words.drop 1) ≠ .or then return (a, words)
    let (b, words) ← anyOf fuel (words.drop 2)
    return (a || b, words)

/-- Looks at conditions of which all must hold. -/
def allOf : Nat → List Octets → Action (Bool × List Octets)
  | 0, words => return (false, words)
  | fuel + 1, words => do
    let (a, words) ← negated fuel words
    if first (words.drop 1) ≠ .and then return (a, words)
    let (b, words) ← allOf fuel (words.drop 2)
    return (a && b, words)

/-- Looks at a condition that may be negated. -/
def negated : Nat → List Octets → Action (Bool × List Octets)
  | 0, words => return (false, words)
  | fuel + 1, words => do
    if first words ≠ .not then primary fuel words
    else if (words.drop 1).isEmpty then return (true, words)
    else
      let (a, words) ← negated fuel (words.drop 1)
      return (!a, words)

/-- Looks at a condition in parentheses or a single one. -/
def primary : Nat → List Octets → Action (Bool × List Octets)
  | 0, words => return (false, words)
  | fuel + 1, words => do
    match first words, words with
    | _, [] => return (false, [])
    | .opening, _ :: words =>
      if first words = .closing then return (false, words)
      let (a, words) ← anyOf fuel words
      if first (words.drop 1) ≠ .closing then fail "closing paren expected".toList
      return (a, words.drop 1)
    | .unary letter, _ :: word :: words => return (← holdsOf letter word, word :: words)
    | _, word :: words =>
      if words.head?.any isBinary then comparison (word :: words)
      else return (!word.isEmpty, word :: words)

end

/-- Whether the words of a condition hold. A condition of three or four words may be recognized by its
form. The flag says whether the answer is turned around. -/
def holdsIn : Bool → List Octets → Action Bool
  | negated, words => do
    let whole (words : List Octets) : Action Bool := do
      let (a, rest) ← anyOf (4 * words.length + 4) words
      match rest with
      | word :: _ :: _ =>
        let words := "unexpected operator".toList
        fail (if word.isEmpty then words else word ++ ": ".toList ++ words)
      | _ => return a != negated
    match words with
    | [] => return negated
    | [a, sign, b] =>
      if isBinary sign then return (← holdsBetween (String.ofList sign) a b) != negated
      else if a = ['('] ∧ b = [')'] then whole [sign]
      else if a = ['!'] then holdsIn (!negated) [sign, b]
      else whole words
    | [a, b, c, d] =>
      if a = ['('] ∧ d = [')'] then whole [b, c]
      else if a = ['!'] then holdsIn (!negated) [b, c, d]
      else whole words
    | words => whole words
  termination_by _ words => words.length

end SkipChecks.Shell.Condition
