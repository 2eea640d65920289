import SkipChecks.Shell.Escape

/-!
# Quoted names

Programs show names in a way that a shell would read back. A name in which nothing is special stands
as it is, and any other one between single quotes; what cannot be shown is written as an escape behind
a dollar sign. A name with single quotes stands between double quotes if nothing in it would then mean
something else.
-/

namespace SkipChecks.Shell.Quoted

/-- The letter of the escape for a character. -/
def letter? : Char → Option Char
  | '\x07' => some 'a'
  | '\x08' => some 'b'
  | '\x0c' => some 'f'
  | '\n' => some 'n'
  | '\r' => some 'r'
  | '\t' => some 't'
  | '\x0b' => some 'v'
  | _ => none

def isShown (c : Char) : Bool := ' ' ≤ c && c ≤ '~'

/-- Characters that mean something anywhere in a name, but that double quotes do not help with. -/
def special : List Char := "?\\!\"$&()*;<=>[^\x60|".toList

/-- Characters that mean something at the start of a name. -/
def leading : List Char := ['#', '~']

/-- Characters that mean something if they are a whole name. -/
def braces : List Char := ['\x7b', '\x7d']

/-- Whether a character asks for quotes, which colons may do. -/
def asks (colons : Bool) (whole : Octets) (first : Bool) (c : Char) : Bool :=
  !isShown c || special.any (· == c) || c == ' ' || c == '\'' || (colons && c == ':') ||
    (first && leading.any (· == c)) || (whole.length == 1 && braces.any (· == c))

/-- Whether a character means the same in single and in double quotes. -/
def isSame (whole : Octets) (first : Bool) (c : Char) : Bool :=
  isShown c && !special.any (· == c) && (first || !leading.any (· == c)) &&
    (whole.length == 1 || !braces.any (· == c))

/-- Whether something holds of all characters, where the first one is told apart. -/
def allOf (holds : Bool → Char → Bool) : Octets → Bool
  | [] => true
  | c :: s => holds true c && s.all (holds false)

/-- A name between single quotes, without the first of them. The flag says that an escape has just been
written. -/
def go : Bool → Octets → Octets
  | _, [] => ['\'']
  | pending, c :: s =>
    if c = '\'' then "'\\''".toList ++ go false s
    else if isShown c then (if pending then ['\'', '\''] else []) ++ c :: go false s
    else
      let escape := match letter? c with
        | some letter => ['\\', letter]
        | none => '\\' :: padded 8 3 c.toNat
      (if pending then [] else ['\'', '$', '\'']) ++ escape ++ go true s

/-- A name as it is shown, where colons may ask for quotes. If it needs single quotes, holds some, and ends
in an escape, then a pair of quotes stands in front. -/
def name (colons : Bool) (s : Octets) : Octets :=
  if s ≠ [] ∧ allOf (fun first c => !asks colons s first c) s then s
  else
    let holds := s.any (· == '\'')
    if holds && allOf (isSame s) s then '"' :: s ++ ['"']
    else '\'' :: go (holds && s.getLast?.any (!isShown ·)) s

example :
    name true "it's".toList = "\"it's\"".toList ∧ name true "a:b".toList = "'a:b'".toList ∧
      name true "a\nb".toList = "'a'$'\\n''b'".toList ∧ name false "a:b".toList = "a:b".toList := by
  decide +kernel

end SkipChecks.Shell.Quoted
