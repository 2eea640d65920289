import SkipChecks.Text.Blank
import SkipChecks.Text.Phrase
import SkipChecks.Text.Word

/-!
# Method declarations

A method is declared by the word `function`, blanks, perhaps an ampersand, its name and an opening
parenthesis. Case does not matter.
-/

namespace SkipChecks.MethodDeclaration

/-- Whether a text is a name that a method can have here: ASCII letters, digits and underscores. -/
def isName (name : Text) : Bool := !name.isEmpty && name.all fun c => c.isAlphanum || c == '_'

/-- Whether a text begins with a declaration of a method. Both are in lower case. -/
def beginsWith (name s : Text) : Bool :=
  match "function".toList.isPrefixOf? s with
  | some (c :: s) =>
    Text.isBlank c &&
      match name.isPrefixOf? (dropMark (Text.trimStart s)) with
      | some s => ['('].isPrefixOf (Text.trimStart s)
      | none => false
  | _ => false
where
  /-- The text behind an ampersand, if it begins with one. -/
  dropMark : Text → Text
    | '&' :: s => s
    | s => s

/-- Whether a declaration stands in a text, which is preceded by part of a word or not. Both are in
lower case. -/
def occurs (name : Text) : Bool → Text → Bool
  | _, [] => false
  | inWord, c :: s => (!inWord && beginsWith name (c :: s)) || occurs name (Text.isWord c) s

/-- Whether a source declares a method. The search compiles a pattern that holds the name, and takes a
name for undeclared when the pattern gets larger than its compiler allows (ten megabytes). That bound
is not kept here: names may be as long as they like. -/
def declares (source name : Text) : Bool :=
  isName name && occurs (name.map Text.foldCase) false (source.map Text.foldCase)

example :
    declares "public FUNCTION  &getName (".toList "getname".toList ∧
      ¬ declares "myfunction getName()".toList "getName".toList := by
  decide +kernel

end SkipChecks.MethodDeclaration
