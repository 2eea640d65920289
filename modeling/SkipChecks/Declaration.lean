import SkipChecks.Text.Blank
import SkipChecks.Text.Scan

/-!
# Test declarations

A declaration is a call of `test` with a quoted name and a function. Its body reaches from behind
the opening brace to the brace that closes it; braces are counted wherever they stand, also in
literals and comments. Without a closing brace the body reaches to the end of the text.
-/

namespace SkipChecks

/-- A test declared in a source text. -/
structure Declaration where
  name : Text
  /-- The byte offset behind the opening brace. -/
  bodyStart : Nat
  deriving DecidableEq, Repr

namespace Declaration

/-- Recognises a declaration up to its opening brace and gives the name of the test. -/
def name? : Text.Recogniser Text := fun s => do
  let s ← "test(".toList.isPrefixOf? s
  let (name, s) ← Text.quotedName? s
  let s ← [','].isPrefixOf? s
  let s ← "function".toList.isPrefixOf? (Text.trimStart s)
  let s ← ['('].isPrefixOf? (Text.trimStart s)
  let s ← [')'].isPrefixOf? (s.dropWhile (· != ')'))
  let s ← ['{'].isPrefixOf? (Text.trimStart s)
  return (name, s)

/-- The declarations in a source text, from left to right. -/
def locate (source : Text) : List Declaration :=
  (Text.findAll name? source).map fun (name, rest) =>
    ⟨name, Text.byteLength source - Text.byteLength rest⟩

/-- The text up to the brace that closes `depth` inner blocks and the block around them. -/
def upToClose : Nat → Text → Text
  | _, [] => []
  | depth, '{' :: s => '{' :: upToClose (depth + 1) s
  | 0, '}' :: _ => []
  | depth + 1, '}' :: s => '}' :: upToClose depth s
  | depth, c :: s => c :: upToClose depth s

/-- The body of a block whose opening brace ends at a byte offset. There is none at an offset that
does not split the text. -/
def bodyAt? (source : Text) (start : Nat) : Option Text :=
  (Text.splitAtByte? source start).map fun (_, rest) => upToClose 0 rest

example :
    locate "test('a', function () { }".toList = [⟨['a'], 23⟩] ∧
      bodyAt? "{a{b}c}d".toList 1 = some "a{b}c".toList := by
  decide +kernel

end Declaration

end SkipChecks
