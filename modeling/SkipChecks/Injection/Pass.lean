import SkipChecks.Injection.Basic
import SkipChecks.Injection.Selection
import SkipChecks.Tree.Replacement

/-!
# Injection into the files of a tree

A pass goes through the eligible files below a directory and rewrites those that get guards. Each
rewritten file is announced as soon as it is in place. The first file that cannot be read or
rewritten stops the pass; what it did before stays.
-/

namespace SkipChecks.Injection

/-- What a pass has done. -/
structure Report where
  filesScanned : Nat
  /-- The files that were rewritten, in the order of the pass. -/
  updated : List Path
  guards : Nat
  deriving DecidableEq, Repr

/-- How a pass ended. -/
structure Pass where
  tree : Tree
  report : Report
  /-- The files that were announced, in the order in which they were. -/
  announced : List Path
  /-- What stopped it, unless it went through all files. -/
  stop : Option Failure

variable (disk : Disk)

/-- Goes through the files that a walk from a directory comes to. -/
def visit (root : Path) : List (Except Path Path) → Tree → Report → List Path → Pass
  | [], t, report, announced => ⟨t, report, announced, none⟩
  | .error p :: _, t, report, announced =>
    ⟨t, report, announced, some (.walk root p .nameTooLong)⟩
  | .ok p :: ps, t, report, announced =>
    let report := { report with filesScanned := report.filesScanned + 1 }
    match t.readText p with
    | .error fault => ⟨t, report, announced, some (.file .read p fault)⟩
    | .ok source =>
      let injection := ofSource source
      if injection.content = source then
        visit root ps t report announced
      else
        match t.replaceFile disk p (Bytes.ofText injection.content) with
        | (.error failure, t) => ⟨t, report, announced, some failure⟩
        | (.ok (), t) =>
          let report :=
            { report with
              updated := report.updated ++ [p]
              guards := report.guards + injection.guards }
          visit root ps t report (announced ++ [p])

/-- The eligible files below a directory, in the order of a pass, and where the walk to them ends. -/
def targets (selection : Selection) (t : Tree) (root : Path) : List (Except Path Path) :=
  (t.walk root).filter fun
    | .ok p => selection.isEligible p
    | .error _ => true

/-- Goes through the eligible files below a directory. -/
def pass (selection : Selection) (t : Tree) (root : Path) : Pass :=
  if t.isDirectory root then visit disk root (targets selection t root) t ⟨0, [], 0⟩ []
  else ⟨t, ⟨0, [], 0⟩, [], some (.directoryNotFound root)⟩

end SkipChecks.Injection
