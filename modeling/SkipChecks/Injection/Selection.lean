import SkipChecks.Path

/-!
# Selection of test files

Which files get guards: those with the right extension, below a directory with the right name, whose
own name is not excluded.
-/

namespace SkipChecks

/-- Which files get guards. -/
structure Selection where
  /-- The name of a directory that a file must lie below. -/
  targetSubdir : Text
  /-- Names of files that are left alone. -/
  excludedFiles : List Text
  /-- The extension, without its dot. -/
  extension : Text
  deriving DecidableEq, Repr

namespace Selection

/-- Sources below a `Browser` directory, without the bootstrap file and the base of the tests. -/
def standard : Selection :=
  ⟨"Browser".toList, ["Pest.php".toList, "TestCase.php".toList], "php".toList⟩

/-- Whether a path goes through a directory with the right name before its last step. -/
def isBelowTarget (selection : Selection) (p : Path) : Bool :=
  match p.parent? with
  | some parent => parent.parts.any (·.text == selection.targetSubdir)
  | none => false

/-- Whether the file at a path gets guards. -/
def isEligible (selection : Selection) (p : Path) : Bool :=
  match p.fileName? with
  | some n =>
    p.extension? == some selection.extension && !selection.excludedFiles.contains n &&
      selection.isBelowTarget p
  | none => false

example :
    standard.isEligible ⟨"tests/Browser/Auth/LoginTest.php".toList⟩ ∧
      ¬ standard.isEligible ⟨"tests/Browser/Pest.php".toList⟩ ∧
      ¬ standard.isEligible ⟨"tests/Browser.php".toList⟩ := by
  decide +kernel

end Selection

end SkipChecks
