import SkipChecks.Shell.Machine

/-!
# Expressions

Whole numbers of 64 bits, variables, and the operators that go with them, as a shell computes them. A
part whose value does not matter is read but not computed.
-/

namespace SkipChecks.Shell.Arithmetic

open Action

/-- What an expression is cut into. -/
inductive Token
  | number (n : Int)
  | name (s : Octets)
  | operator (text : String)
  | bad
  | ended
  deriving DecidableEq, Repr

/-- The operators, longer ones before those that they begin with. -/
def operators : List String :=
  ["<<=", ">>=", "==", "!=", "<=", ">=", "<<", ">>", "&&", "||", "*=", "/=", "%=", "+=", "-=", "^=",
    "&=", "|=", "=", "<", ">", "&", "|", "!", "(", ")", "*", "/", "%", "+", "-", "~", "^", "?", ":"]

/-- Brings a number into 64 bits. -/
def wrap (n : Int) : Int := Int.bmod n (Nat.pow 2 64)

/-- The first token of a text, and what follows. -/
def token (s : Octets) : Token × Octets :=
  match s.dropWhile (fun c => c == ' ' || c == '\t' || c == '\n') with
  | [] => (.ended, [])
  | c :: s =>
    if c.isDigit then
      let (n, rest) := Number.digits (c :: s)
      (.number (min (n : Int) Number.greatest), rest)
    else if startsName c then
      (.name (c :: s.takeWhile isNameChar), s.dropWhile isNameChar)
    else
      match operators.find? fun text => text.toList.isPrefixOf (c :: s) with
      | some text => (.operator text, (c :: s).drop text.length)
      | none => (.bad, c :: s)

/-- An expression that is being read. -/
structure Reading where
  whole : Octets
  rest : Octets
  current : Token

/-- Computing reads an expression. -/
abbrev Computing := StateT Reading Action

/-- Gives up. -/
def refuse {α : Type} (words : String) : Computing α := do
  let whole := (← get).whole
  (fail ("arithmetic expression: ".toList ++ words.toList ++ ": \"".toList ++ whole ++ ['"']) :
    Action α)

def advance : Computing Unit :=
  modify fun r =>
    let (current, rest) := token r.rest
    { r with current, rest }

/-- The value of a variable as a number. -/
def variableNumber (name : Octets) : Computing Int := do
  let s := (← (value? name : Action (Option Octets))).getD []
  match Number.value? none s with
  | some n => return n
  | none => (fail ("Illegal number: ".toList ++ s) : Action Int)

/-- How tightly operators bind. -/
def precedence? : Token → Option Nat
  | .operator text =>
    match text with
    | "*" | "/" | "%" => some 0
    | "+" | "-" => some 1
    | "<<" | ">>" => some 2
    | "<" | "<=" | ">" | ">=" => some 3
    | "==" | "!=" => some 4
    | "&" => some 5
    | "^" => some 6
    | "|" => some 7
    | _ => none
  | _ => none

def bits (n : Int) : Nat := (n % Int.pow 2 64).toNat

/-- A truth value as a number. -/
def truth (b : Bool) : Int := if b then 1 else 0

/-- Divides one number by another one. A quotient that is out of range ends the process with the signal
for faults of arithmetic. -/
def divide (quotient : Int → Int → Int) (a b : Int) : Computing Int :=
  if b = 0 then refuse "division by zero"
  else if a = -Number.greatest - 1 ∧ b = -1 then (throw (.killed 8) : Action Int)
  else return quotient a b

def apply (operator : String) (a b : Int) : Computing Int :=
  match operator with
  | "*" => return wrap (a * b)
  | "/" => divide Int.tdiv a b
  | "%" => divide Int.tmod a b
  | "+" => return wrap (a + b)
  | "-" => return wrap (a - b)
  | "<<" => return wrap (a * Int.pow 2 (bits b % 64))
  | ">>" => return Int.fdiv a (Int.pow 2 (bits b % 64))
  | "<" => return truth (a < b)
  | "<=" => return truth (a ≤ b)
  | ">" => return truth (b < a)
  | ">=" => return truth (b ≤ a)
  | "==" => return truth (a = b)
  | "!=" => return truth (a ≠ b)
  | "&" => return wrap (bits a &&& bits b)
  | "^" => return wrap (bits a ^^^ bits b)
  | _ => return wrap (bits a ||| bits b)

/-- The operator that an assignment applies before it sets the variable. -/
def assigning? : Token → Option (Option String)
  | .operator text =>
    match text with
    | "=" => some none
    | "*=" => some (some "*")
    | "/=" => some (some "/")
    | "%=" => some (some "%")
    | "+=" => some (some "+")
    | "-=" => some (some "-")
    | "<<=" => some (some "<<")
    | ">>=" => some (some ">>")
    | "&=" => some (some "&")
    | "^=" => some (some "^")
    | "|=" => some (some "|")
    | _ => none
  | _ => none

mutual

/-- Computes an expression, which may set a variable. The first argument bounds the depth, the second
one says whether the value does not matter. -/
def assignment : Nat → Bool → Computing Int
  | 0, _ => refuse "expecting primary"
  | fuel + 1, idle => do
    let r ← get
    match r.current, assigning? (token r.rest).1 with
    | .name name, some operator =>
      advance
      advance
      let b ← assignment fuel idle
      if idle then return b
      let n ←
        match operator with
        | none => pure b
        | some operator => apply operator (← variableNumber name) b
      (setVariable name (if n < 0 then '-' :: Text.ofNat n.natAbs else Text.ofNat n.natAbs) :
        Action Unit)
      return n
    | _, _ => conditional fuel idle

/-- Computes an expression with a question in it. -/
def conditional : Nat → Bool → Computing Int
  | 0, _ => refuse "expecting primary"
  | fuel + 1, idle => do
    let a ← disjunction fuel idle
    if (← get).current ≠ .operator "?" then return a
    advance
    let b ← assignment fuel (idle || a == 0)
    if (← get).current ≠ .operator ":" then refuse "expecting ':'"
    advance
    let c ← conditional fuel (idle || a != 0)
    return if a = 0 then c else b

/-- Computes an expression with alternatives. -/
def disjunction : Nat → Bool → Computing Int
  | 0, _ => refuse "expecting primary"
  | fuel + 1, idle => do
    let a ← conjunction fuel idle
    if (← get).current ≠ .operator "||" then return a
    advance
    let b ← disjunction fuel (idle || a != 0)
    return truth (a != 0 || b != 0)

/-- Computes an expression of which all parts must hold. -/
def conjunction : Nat → Bool → Computing Int
  | 0, _ => refuse "expecting primary"
  | fuel + 1, idle => do
    let a ← primary fuel idle
    let a ← operation fuel idle 8 a
    if (← get).current ≠ .operator "&&" then return a
    advance
    let b ← conjunction fuel (idle || a == 0)
    return truth (a != 0 && b != 0)

/-- Goes on behind a number with the operators that bind more tightly than a bound. -/
def operation : Nat → Bool → Nat → Int → Computing Int
  | 0, _, _, _ => refuse "expecting primary"
  | fuel + 1, idle, bound, a => do
    match (← get).current, precedence? (← get).current with
    | .operator text, some precedence =>
      if bound ≤ precedence then return a
      advance
      let b ← primary fuel idle
      let b ← operation fuel idle precedence b
      operation fuel idle bound (← if idle then pure b else apply text a b)
    | _, _ => return a

/-- Computes what operators are put to. -/
def primary : Nat → Bool → Computing Int
  | 0, _ => refuse "expecting primary"
  | fuel + 1, idle => do
    let current := (← get).current
    match current with
    | .number n =>
      advance
      return n
    | .name name =>
      advance
      if idle then return 0 else variableNumber name
    | .operator "(" =>
      advance
      let a ← assignment fuel idle
      if (← get).current ≠ .operator ")" then refuse "expecting ')'"
      advance
      return a
    | .operator "+" =>
      advance
      primary fuel idle
    | .operator "-" =>
      advance
      return wrap (-(← primary fuel idle))
    | .operator "!" =>
      advance
      return truth ((← primary fuel idle) == 0)
    | .operator "~" =>
      advance
      return -(← primary fuel idle) - 1
    | _ => refuse "expecting primary"

end

def compute (s : Octets) : Action Int := do
  let (current, rest) := token s
  let computing : Computing Int := do
    let n ← assignment (8 * s.length + 16) false
    if (← get).current ≠ .ended then refuse "expecting EOF"
    return n
  return (← computing.run ⟨s, rest, current⟩).1

end SkipChecks.Shell.Arithmetic
