import SkipChecks.Path

/-!
# Autoloading

Classes are found by rules that give directories to the beginnings of class names. Rules with longer
beginnings come first, and the first one that fits counts. What follows it in the name of a class are
the steps to its file.
-/

namespace SkipChecks

/-- Where the classes lie whose names begin in some way. -/
structure Rule where
  /-- How the names begin, with a backslash at the end. -/
  beginning : Text
  directory : Path
  deriving DecidableEq, Repr

/-- A root directory, and rules for directories below it. -/
structure Autoload where
  root : Path
  /-- The rules, the longest beginnings first. -/
  rules : List Rule
  deriving DecidableEq, Repr

namespace Rule

/-- A rule for a namespace, which may be written with or without a backslash at its end. -/
def ofNamespace (space : Text) (directory : Path) : Rule :=
  ⟨if space.getLast? = some '\\' then space else space ++ ['\\'], directory⟩

/-- How long the beginning is, in bytes. -/
def size (rule : Rule) : Nat := Text.byteLength rule.beginning

/-- Puts a rule behind those with longer beginnings. -/
def insert (rule : Rule) : List Rule → List Rule
  | [] => [rule]
  | other :: rules =>
    if rule.size < other.size then other :: insert rule rules else rule :: other :: rules

/-- Puts the longest beginnings first. Rules with equally long ones stay in their order. -/
def sort : List Rule → List Rule
  | [] => []
  | rule :: rules => insert rule (sort rules)

end Rule

namespace Autoload

/-- Rules for namespaces and their directories. -/
def ofNamespaces (root : Path) (namespaces : List (Text × Path)) : Autoload :=
  ⟨root, Rule.sort (namespaces.map fun (space, directory) => Rule.ofNamespace space directory)⟩

/-- The name of a class without the backslashes in front. -/
def className (name : Text) : Text := name.dropWhile (· == '\\')

/-- The rule for a class. -/
def rule? (autoload : Autoload) (name : Text) : Option Rule :=
  autoload.rules.find? (·.beginning.isPrefixOf (className name))

/-- The file that a class lies in, whether or not it exists. -/
def file? (autoload : Autoload) (name : Text) : Option Path := do
  let rule ← autoload.rule? name
  let inside ← rule.beginning.isPrefixOf? (className name)
  let steps := (Text.split '\\' inside).map Path.mk
  return (steps.foldl Path.join (autoload.root.join rule.directory)).withExtension "php".toList

example :
    (ofNamespaces ⟨['.']⟩ [("A".toList, ⟨['a']⟩), ("A\\B\\".toList, ⟨['b']⟩)]).file?
      "\\A\\B\\C\\D".toList = some ⟨"./b/C/D.php".toList⟩ := by
  decide +kernel

end Autoload

end SkipChecks
