import SkipChecks.Json.Token
import SkipChecks.Text.Scan

/-!
# Numbers and dates of TOML

Numbers are read for their form and range only: no setting is a number. An integer fits into 64
bits, and a positive decimal number does not overflow. What begins like a date or a time must be one.
-/

namespace SkipChecks.Toml

open Text (Recogniser)

/-- Reads digits behind a digit, with underscores between two of them. Behind an underscore there
must be a digit. -/
def moreDigits? (isDigit : Char → Bool) : Recogniser Text
  | '_' :: c :: s =>
    if isDigit c then (moreDigits? isDigit s).map fun (digits, rest) => (c :: digits, rest)
    else none
  | ['_'] => none
  | c :: s =>
    if isDigit c then (moreDigits? isDigit s).map fun (digits, rest) => (c :: digits, rest)
    else some ([], c :: s)
  | [] => some ([], [])

/-- Reads one or more digits, with underscores between two of them. -/
def digits? (isDigit : Char → Bool) : Recogniser Text
  | c :: s =>
    if isDigit c then (moreDigits? isDigit s).map fun (digits, rest) => (c :: digits, rest) else none
  | [] => none

/-- Reads the digits in front of a point: more than one only behind a digit that is no zero. -/
def wholeDigits? : Recogniser Text
  | '0' :: s => some (['0'], s)
  | s => digits? Char.isDigit s

/-- The number with these digits. -/
def numberOf (base : Nat) (digits : Text) : Nat :=
  digits.foldl (fun n c => n * base + (Json.Token.hexDigit? c).getD 0) 0

/-- Reads an integer without sign in the base with a letter, if it fits into 63 bits. -/
def based? (base : Nat) (isDigit : Char → Bool) (s : Text) : Option Text := do
  let (digits, s) ← digits? isDigit s
  if numberOf base digits < Nat.pow 2 63 then some s else none

/-- Reads a sign. -/
def sign : Text → Bool × Text
  | '-' :: s => (true, s)
  | '+' :: s => (false, s)
  | s => (false, s)

/-- Whether a decimal number is too large for a double: at least half a unit above the largest. -/
def overflows (digits : Text) (exponent : Int) : Bool :=
  let digits := digits.dropWhile (· == '0')
  let magnitude : Int := digits.length + exponent
  if digits.isEmpty || magnitude < 300 then false
  else if 320 < magnitude then true
  else
    let bound := (Nat.pow 2 54 - 1) * Nat.pow 2 970
    if exponent < 0 then bound * Nat.pow 10 exponent.natAbs ≤ numberOf 10 digits
    else bound ≤ numberOf 10 digits * Nat.pow 10 exponent.natAbs

/-- Reads an exponent, if there is one. -/
def exponent? : Recogniser Int
  | c :: s =>
    if c = 'e' ∨ c = 'E' then
      let (negative, s) := sign s
      (digits? Char.isDigit s).map fun (digits, s) =>
        (if negative then -(numberOf 10 digits : Int) else numberOf 10 digits, s)
    else some (0, c :: s)
  | [] => some (0, [])

/-- Reads what follows the whole digits of a number, which makes it an integer or not. -/
def afterWhole? (negative : Bool) (whole s : Text) : Option Text :=
  match s with
  | '.' :: s => do
    let (fraction, s) ← digits? Char.isDigit s
    let (exponent, s) ← exponent? s
    if !negative && overflows (whole ++ fraction) (exponent - fraction.length) then none else some s
  | 'e' :: _ | 'E' :: _ => do
    let (exponent, s) ← exponent? s
    if !negative && overflows whole exponent then none else some s
  | s =>
    let n := numberOf 10 whole
    if n < Nat.pow 2 63 ∨ (negative ∧ n = Nat.pow 2 63) then some s else none

/-- Reads a number and gives the text behind it. -/
def number? (s : Text) : Option Text :=
  match s with
  | '0' :: 'x' :: s => based? 16 (fun c => (Json.Token.hexDigit? c).isSome) s
  | '0' :: 'o' :: s => based? 8 (fun c => '0' ≤ c && c ≤ '7') s
  | '0' :: 'b' :: s => based? 2 (fun c => c == '0' || c == '1') s
  | s =>
    match sign s with
    | (_, 'i' :: 'n' :: 'f' :: s) => some s
    | (_, 'n' :: 'a' :: 'n' :: s) => some s
    | (negative, s) => do
      let (whole, s) ← wholeDigits? s
      afterWhole? negative whole s

/-- Reads a number of two digits within bounds. -/
def twoDigits? (least greatest : Nat) : Recogniser Nat
  | a :: b :: s =>
    if a.isDigit && b.isDigit then
      let n := numberOf 10 [a, b]
      if least ≤ n ∧ n ≤ greatest then some (n, s) else none
    else none
  | _ => none

def daysOf (year month : Nat) : Nat :=
  if month = 2 then
    if year % 4 = 0 ∧ (year % 100 ≠ 0 ∨ year % 400 = 0) then 29 else 28
  else if [4, 6, 9, 11].contains month then 30
  else 31

/-- How a number of two digits is written. -/
def showTwo (n : Nat) : Text := (if n < 10 then ['0'] else []) ++ Text.ofNat n

/-- Reads the part of a date behind the year and its dash. -/
def date? (year : Text) : Recogniser Text := fun s => do
  let (month, s) ← twoDigits? 1 12 s
  let s ← ['-'].isPrefixOf? s
  let (day, s) ← twoDigits? 1 31 s
  if day ≤ daysOf (numberOf 10 year) month then
    some (year ++ '-' :: showTwo month ++ '-' :: showTwo day, s)
  else none

/-- The fraction of a second as it is shown: nine digits, without zeros at the end. -/
def showFraction (digits : Text) : Text :=
  '.' :: ((digits.take 9).reverse.dropWhile (· == '0')).reverse

/-- Reads the part of a time behind the hour and its colon. -/
def time? (hour : Nat) : Recogniser Text := fun s => do
  let (minute, s) ← twoDigits? 0 59 s
  let s ← [':'].isPrefixOf? s
  let (second, s) ← twoDigits? 0 60 s
  let shown := showTwo hour ++ ':' :: showTwo minute ++ ':' :: showTwo second
  match s with
  | '.' :: s =>
    match s.takeWhile Char.isDigit with
    | [] => none
    | digits =>
      let fraction := if (digits.take 9).all (· == '0') then [] else showFraction digits
      some (shown ++ fraction, s.dropWhile Char.isDigit)
  | s => some (shown, s)

/-- Reads the offset of a time, if there is one. No offset at all is shown with a plus. -/
def offset? : Recogniser Text
  | c :: s =>
    if c = 'Z' ∨ c = 'z' then some (['Z'], s)
    else if c = '+' ∨ c = '-' then
      match twoDigits? 0 23 s with
      | some (hour, ':' :: s) =>
        (twoDigits? 0 59 s).map fun (minute, s) =>
          let sign := if hour = 0 ∧ minute = 0 then '+' else c
          (sign :: showTwo hour ++ ':' :: showTwo minute, s)
      | _ => some ([], c :: s)
    else some ([], c :: s)
  | [] => some ([], [])

/-- Reads a time of day behind a date, if there is one. -/
def timeBehindDate? (date : Text) (s : Text) : Option (Text × Text) :=
  match s with
  | c :: r =>
    if c = 'T' ∨ c = 't' ∨ c = ' ' then
      match twoDigits? 0 23 r with
      | some (hour, ':' :: r) => do
        let (time, r) ← time? hour r
        let (offset, r) ← offset? r
        some (date ++ 'T' :: time ++ offset, r)
      | _ => some (date, s)
    else some (date, s)
  | [] => some (date, s)

/-- What a value begins with that starts with a digit or sign. -/
inductive Moment
  | date (year rest : Text)
  | time (hour rest : Text)
  | neither

/-- Tells dates and times from numbers. -/
def moment (s : Text) : Moment :=
  match s with
  | a :: b :: ':' :: r => if a.isDigit && b.isDigit then .time [a, b] r else .neither
  | a :: b :: c :: d :: '-' :: r =>
    if [a, b, c, d].all Char.isDigit then .date [a, b, c, d] r else .neither
  | _ => .neither

def moment? (s : Text) : Option (Option (Text × Text)) :=
  match moment s with
  | .date year rest => do
    let (date, s) ← date? year rest
    some (← timeBehindDate? date s)
  | .time hour rest => do
    let (hour, _) ← twoDigits? 0 23 hour
    some (← time? hour rest)
  | .neither => some none

end SkipChecks.Toml
