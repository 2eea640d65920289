import SkipChecks.Shell.Directive
import SkipChecks.Shell.Quoted

/-!
# Formats

Printing arguments in a format: a percent sign and what follows print the next argument, and the
format is gone through again as long as there are arguments. The program built into the shell and
the one that stands alone differ in the escapes they know and in their complaints.
-/

namespace SkipChecks.Shell

/-- Which of two programs of one name. -/
inductive Origin
  /-- The one built into the shell. -/
  | builtin
  /-- The one that stands alone. -/
  | standalone
  deriving DecidableEq, Repr

namespace Origin

/-- Escapes in a format. -/
def inFormat : Origin → Escapes
  | builtin => ⟨false, false, false, false, false, false⟩
  | standalone => ⟨false, true, true, true, true, true⟩

/-- Escapes in an argument. -/
def inArgument : Origin → Escapes
  | builtin => ⟨true, true, false, false, false, false⟩
  | standalone => ⟨true, true, true, true, true, true⟩

/-- The status of a program that gives up. -/
def givesUp : Origin → UInt8
  | builtin => 2
  | standalone => 1

/-- How an argument is named. -/
def named (origin : Origin) (s : Text) : Text :=
  match origin with
  | builtin => s ++ [':', ' ']
  | standalone => '\'' :: s.flatMap shown ++ ['\'', ':', ' ']
where
  /-- A character as it is shown between quotes. -/
  shown (c : Char) : Text :=
    if c = '\'' ∨ c = '\\' then ['\\', c]
    else if c = '\n' then ['\\', 'n']
    else if c = '\t' then ['\\', 't']
    else if ' ' ≤ c ∧ c ≤ '~' then [c]
    else (bytesOf [c]).flatMap fun b => '\\' :: padded 8 3 b.toNat

/-- An argument is no number. -/
def notNumber (origin : Origin) (s : Text) : Text :=
  origin.named s ++
    match origin with
    | builtin => "expected numeric value".toList
    | standalone => "expected a numeric value".toList

/-- An argument starts with a number and goes on with something else. -/
def notWholly (origin : Origin) (s : Text) : Text :=
  origin.named s ++
    match origin with
    | builtin => "not completely converted".toList
    | standalone => "value not completely converted".toList

/-- An argument is too large a number. -/
def outOfRange (origin : Origin) (s : Text) : Text :=
  origin.named s ++ "Numerical result out of range".toList

/-- A directive asks for nothing known. -/
def noDirective (origin : Origin) (directive : Text) : Text :=
  match origin with
  | builtin => directive ++ ": invalid directive".toList
  | standalone => directive ++ ": invalid conversion specification".toList

/-- A directive stops short. -/
def shortDirective (origin : Origin) (directive : Text) : Text :=
  match origin with
  | builtin => "missing format character".toList
  | standalone => noDirective standalone directive

/-- Letters for the size of a number, which have no meaning in a directive. -/
def sizes : Origin → Text
  | builtin => []
  | standalone => "hjlLtz".toList

def flags : Origin → Text
  | builtin => "-+ #0".toList
  | standalone => "-+ #0'I".toList

/-- Conversions that cannot be asked for with a flag. -/
def excluded (flag : Char) : Text :=
  match flag with
  | '\'' | 'I' => "aAceEosxX".toList
  | '#' => "cdisu".toList
  | '0' => ['c', 's']
  | _ => []

/-- Whether a conversion can be asked for with some flags, and maybe with a precision. -/
def allows (origin : Origin) (flags : Text) (hasPrecision : Bool) (conversion : Char) : Bool :=
  match origin with
  | builtin => "aAbcdeEfFgGiosuxX".toList.any (· == conversion)
  | standalone =>
    "aAcdeEfFgGiosuxX".toList.any (· == conversion) && !(hasPrecision && conversion == 'c') &&
      !flags.any fun flag => (excluded flag).any (· == conversion)

/-- The floating-point numbers that are printed. -/
def floatingKind : Origin → FloatingKind
  | builtin => .double
  | standalone => .extended

/-- The character behind a quotation mark as a number, and what follows it. -/
def constant? (origin : Origin) : Text → Option (Nat × Text)
  | mark :: s =>
    if mark = '\'' ∨ mark = '"' then
      match origin, s with
      | builtin, s => some ((s.head?.map Char.toNat).getD 0, [])
      | standalone, c :: rest => some (c.toNat, rest)
      | standalone, [] => none
    else none
  | [] => none

/-- Something follows a character that stands for a number. -/
def moreThanConstant (rest : Text) : Text :=
  "warning: ".toList ++ rest ++
    ": character(s) following character constant have been ignored".toList

/-- A width or a precision is too large. -/
def badMeasure (origin : Origin) (isWidth : Bool) (s : Text) : Text :=
  (if isWidth then "invalid field width: " else "invalid precision: ").toList ++
    (origin.named s).dropLast.dropLast

/-- Arguments are left that the format does not take. -/
def tooMuch (origin : Origin) (s : Text) : Text :=
  "warning: ignoring excess arguments, starting with ".toList ++ (origin.named s).dropLast.dropLast

/-- There is no format. -/
def noFormat : Origin → Text
  | builtin => "usage: printf format [arg ...]".toList
  | standalone => "missing operand\nTry 'printf --help' for more information.".toList

end Origin

/-! ## Printing -/

/-- A part of what is printed. -/
inductive Printed
  | bytes (bytes : List UInt8)
  | complaint (words : Text)
  deriving DecidableEq, Repr

/-- What has been printed, last part first. -/
structure Printing where
  parts : List Printed
  arguments : List Text
  status : UInt8
  ended : Bool

namespace Printing

def emit (p : Printing) (bytes : List UInt8) : Printing := { p with parts := .bytes bytes :: p.parts }

/-- The next argument, empty if there is none. -/
def take (p : Printing) : Text × Printing :=
  (p.arguments.headD [], { p with arguments := p.arguments.drop 1 })

def complain (p : Printing) (words : Text) : Printing :=
  { p with parts := .complaint words :: p.parts, status := 1 }

def giveUp (p : Printing) (origin : Origin) (words : Text) : Printing :=
  { p with parts := .complaint words :: p.parts, status := origin.givesUp, ended := true }

/-- Prints what an escape comes to. -/
def escape (p : Printing) (origin : Origin) : Escaped → Printing
  | .bytes bytes => p.emit bytes
  | .stop => { p with ended := true, status := if origin = .standalone then 0 else p.status }
  | .refused words => p.giveUp origin words

/-- Warns, which changes no status. -/
def warn (p : Printing) (words : Text) : Printing := { p with parts := .complaint words :: p.parts }

/-- Complains about an argument that is not a number as a whole, or not one in range. Of both faults, the
program that stands alone tells the latter, and the other one the former. -/
def checked (p : Printing) (origin : Origin) (s rest : Text) (isInRange : Bool) : Printing :=
  if !isInRange && (origin == .standalone || rest == []) then p.complain (origin.outOfRange s)
  else if rest = [] then p
  else p.complain (if rest = s then origin.notNumber s else origin.notWholly s)

/-- The next argument as a number, which is read if it is not a character behind a quotation mark. -/
def takeValue {α : Type} (p : Printing) (origin : Origin) (ofNat : Nat → α)
    (read : Text → (α × Bool) × Text) : α × Printing :=
  let (s, p) := p.take
  match origin.constant? s with
  | some (n, rest) => (ofNat n, if rest = [] then p else p.warn (Origin.moreThanConstant rest))
  | none =>
    let ((value, isInRange), rest) := read s
    (value, p.checked origin s rest isInRange)

def takeNumber (p : Printing) (origin : Origin) (signed : Bool) : Int × Printing :=
  p.takeValue origin (fun n => n) fun s =>
    let (n, rest) := leadingNumber s
    let (least, greatest) := bounds signed
    let nearest := if n < least then (if signed then least else greatest) else min n greatest
    ((nearest, nearest == n), rest)

def takeFloating (p : Printing) (origin : Origin) : Floating × Printing :=
  let kind := origin.floatingKind
  p.takeValue origin (fun n => (Floating.ofQuotient kind false n 1).1) fun s =>
    (Floating.read? kind s).getD ((.finite false 0 kind.least, true), s)

/-- A width or a precision in a format: a number or, for a star, the next argument. The shell takes only the
last four bytes of that. -/
def measure (p : Printing) (origin : Origin) (isWidth : Bool) (s : Text) :
    Option Int × Text × Printing :=
  match s with
  | '*' :: s =>
    let argument := p.arguments.headD []
    let (n, p) := p.takeNumber origin true
    match origin with
    | .builtin => (some (n.bmod (Nat.pow 2 32)), s, p)
    | .standalone =>
      let isTooLarge := Int.pow 2 31 ≤ n || (isWidth && n < -Int.pow 2 31)
      (some n, s,
        if isTooLarge then p.giveUp origin (origin.badMeasure isWidth argument) else p)
  | s =>
    let digits := s.takeWhile Char.isDigit
    (if digits = [] then none else some (numeral 10 digits), s.drop digits.length, p)

/-- Prints the next argument as a directive asks. -/
def convert (p : Printing) (origin : Origin) (d : Directive) (conversion : Char) : Printing :=
  match conversion with
  | 's' =>
    let (s, p) := p.take
    let bytes := bytesOf s
    p.emit (d.fill (d.digits?.elim bytes bytes.take))
  | 'c' =>
    let (s, p) := p.take
    p.emit (d.fill [(bytesOf s).headD 0])
  | 'b' =>
    let (s, p) := p.take
    let (bytes, ending) := origin.inArgument.readAll s.length s
    (p.emit (d.fill (d.digits?.elim bytes bytes.take))).escape origin ending
  | 'd' | 'i' | 'o' | 'u' | 'x' | 'X' =>
    let (n, p) := p.takeNumber origin (conversion == 'd' || conversion == 'i')
    p.emit (d.convert conversion n)
  | _ =>
    let (x, p) := p.takeFloating origin
    p.emit (d.convertFloating origin.floatingKind conversion x)

/-- Prints what stands behind a percent sign, and gives the rest of the format. -/
def directive (p : Printing) (origin : Origin) (s : Text) : Text × Printing :=
  match origin, s with
  | .standalone, 'b' :: rest => (rest, if p.arguments = [] then p else p.convert origin ⟨[], 0, none⟩ 'b')
  | .standalone, 'q' :: rest =>
    if p.arguments = [] then (rest, p)
    else
      let (s, p) := p.take
      (rest, p.emit (bytesOf (Quoted.name false s)))
  | origin, s =>
    let flags := s.takeWhile fun c => origin.flags.any (· == c)
    let (width, rest, p) := p.measure origin true (s.drop flags.length)
    let (precision, rest, p) : Option Int × Text × Printing :=
      match rest with
      | '.' :: rest =>
        if p.ended then (none, rest, p)
        else
          let (n, rest, p) := p.measure origin false rest
          (some (n.getD 0), rest, p)
      | rest => (none, rest, p)
    if p.ended then ([], p)
    else
      match rest.dropWhile (fun c => origin.sizes.any (· == c)) with
      | [] => ([], p.giveUp origin (origin.shortDirective ('%' :: s)))
      | c :: rest =>
        if origin.allows flags precision.isSome c then
          (rest, p.convert origin ⟨flags, width.getD 0, precision⟩ c)
        else
          ([], p.giveUp origin (origin.noDirective ('%' :: s.take (s.length - rest.length))))

/-- Goes through a format once. -/
def pass (origin : Origin) : Nat → Text → Printing → Printing
  | 0, _, p | _, [], p => p
  | fuel + 1, c :: s, p =>
    if p.ended then p
    else
      match c, s with
      | '\\', s =>
        let (escaped, s) := origin.inFormat.read s
        pass origin fuel s (p.escape origin escaped)
      | '%', '%' :: s => pass origin fuel s (p.emit [37])
      | '%', s =>
        let (s, p) := p.directive origin s
        pass origin fuel s p
      | c, s => pass origin fuel s (p.emit (bytesOf [c]))

/-- Goes through a format as long as that takes arguments and some are left. -/
def passes (origin : Origin) (s : Text) : Nat → Printing → Printing
  | 0, p => p
  | fuel + 1, p =>
    let next := pass origin s.length s p
    if next.ended || next.arguments = [] || next.arguments.length = p.arguments.length then next
    else passes origin s fuel next

/-- Prints arguments in a format. -/
def inFormat (origin : Origin) (s : Text) (arguments : List Text) : Printing :=
  let p := passes origin s (arguments.length + 1) ⟨[], arguments, 0, false⟩
  match origin, p.arguments with
  | .standalone, argument :: _ =>
    if p.ended then p else { p.complain (origin.tooMuch argument) with status := p.status }
  | _, _ => p

end Printing

/-- Prints the arguments behind the first one in the format that it is. -/
def printf (origin : Origin) (arguments : List Text) : Printing :=
  match origin, arguments with
  | origin, ['-', '-'] :: s :: arguments => Printing.inFormat origin s arguments
  | origin, [] | origin, [['-', '-']] => nothing.giveUp origin origin.noFormat
  | .builtin, ('-' :: c :: _) :: _ => nothing.giveUp .builtin ("Illegal option -".toList ++ [c])
  | origin, s :: arguments => Printing.inFormat origin s arguments
where
  /-- Nothing is printed. -/
  nothing : Printing := ⟨[], [], 0, false⟩

end SkipChecks.Shell
