import SkipChecks.Failure
import SkipChecks.Tree.Edit

/-!
# Files put in place of others

A new content goes to a temporary file first, which lies in the same directory and is then renamed. So
the file has its old content until it has the new one. When any of this fails, the temporary file is
taken away again, which is taken for something that the system never refuses. Of the permissions, which
the new file takes over from the old one, nothing is kept here but that the system may refuse to set
them.
-/

namespace SkipChecks.Tree

variable (disk : Disk) (t : Tree) (p : Path)

/-- The path of the temporary file for a path, from the root on. -/
def temporaryPath : Path :=
  (t.homePath.join p.directory).join ⟨".tmp".toList ++ (disk.draw p).val⟩

/-- Makes an empty temporary file for a path. -/
def createTemporary : Except Fault (Location × Tree) := do
  let directory ← t.absolute p.directory
  let temporary := t.temporaryPath disk p
  match t.resolve temporary with
  | .error fault => throw (.atPath temporary fault)
  | .ok l =>
    if (t.find? l).isSome then throw (.atPath directory .noFreeName)
    if let some fault := disk.refusal? .create p then throw (.atPath temporary fault)
    return (l, t.put l (.file .empty))

/-- Gives a temporary file its content, and the permissions of the file in whose place it is to
come. -/
def fillTemporary (l : Location) (content : Bytes) : Except Failure Tree := do
  let temporary := t.temporaryPath disk p
  if let some fault := disk.refusal? .write p then
    throw (.file .write temporary (.atPath temporary fault))
  let t := t.put l (.file content)
  if (t.reached? p).isSome then
    if let some fault := disk.refusal? .setPermissions p then
      throw (.file .setPermissions temporary fault)
  return t

/-- Puts a file with this content in the place a path leads to. -/
def replaceFile (content : Bytes) : Except Failure Unit × Tree :=
  match t.createTemporary disk p with
  | .error fault => (.error (.file .createTemporary p.directory fault), t)
  | .ok (l, created) =>
    match created.fillTemporary disk p l content with
    | .error failure => (.error failure, created.erase l)
    | .ok filled =>
      match filled.moveFile disk l p with
      | .error fault => (.error (.file .replace p fault), filled.erase l)
      | .ok moved => (.ok (), moved)

end SkipChecks.Tree
