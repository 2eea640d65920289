import SkipChecks.Helper.Assets
import SkipChecks.Helper.Block
import SkipChecks.Tree.Replacement

/-!
# Helpers in the bootstrap file

Helper blocks are appended to the bootstrap file of a test suite, once: a file that declares the
marker function is left alone.
-/

namespace SkipChecks.Helper

/-- What is appended, and where. -/
structure Appender where
  bootstrap : Path
  blocks : List Text
  /-- The location of the manifest as seen from the directory of the bootstrap file. -/
  location : Text
  deriving DecidableEq, Repr

/-- What appending did. -/
inductive Appending
  | appended
  | alreadyApplied
  deriving DecidableEq, Repr

namespace Appender

/-- Appends blocks that read the manifest from its usual place. -/
def ofBlocks (bootstrap : Path) (blocks : List Text) : Appender :=
  ⟨bootstrap, blocks, "Browser/.route-manifest.json".toList⟩

def standard (bootstrap : Path) : Appender := ofBlocks bootstrap [skipHelpers, pageErrorHelpers]

/-- Lets the helpers read the manifest from another place. -/
def reading (appender : Appender) (manifest : Path) : Appender :=
  { appender with location := Helper.location manifest }

def appendix (appender : Appender) : Text :=
  appender.blocks.flatMap fun block => "\n\n".toList ++ render appender.location block

/-- Appends the blocks to the bootstrap file. -/
def append (appender : Appender) (disk : Disk) (t : Tree) : Except Failure Appending × Tree :=
  let p := appender.bootstrap
  if t.isFile p then
    match t.readText p with
    | .error fault => (.error (.file .read p fault), t)
    | .ok content =>
      if Text.contains marker content then (.ok .alreadyApplied, t)
      else
        match t.replaceFile disk p (Bytes.ofText (content ++ appender.appendix)) with
        | (.error failure, t) => (.error failure, t)
        | (.ok (), t) => (.ok .appended, t)
  else
    (.error (.bootstrapNotFound p), t)

end Appender

end SkipChecks.Helper
