import SkipChecks.Tree.Resolve

/-!
# Edits of a file tree

Making directories, and moving files to where paths lead. Faults come in the order in which the
system finds them: first those that the tree shows, then those that only the disk knows of.
-/

namespace SkipChecks

/-- What the system is asked to do for an edit. -/
inductive Operation
  | makeDirectory
  | create
  | write
  | setPermissions
  | rename
  deriving DecidableEq, Repr

/-- What is drawn by chance for the name of a temporary file. -/
abbrev Draw := { s : Text // s.length = 6 ∧ s.all Char.isAlphanum }

/-- What a tree does not show of the disk that it is on. No path is edited twice in a run, so the
disk tells once for each path what comes of an edit there. -/
structure Disk where
  /-- What is drawn for the temporary file of a path, at the last try. -/
  draw : Path → Draw
  /-- Why an operation is refused for a path although the tree allows it: for want of rights or of
  room. -/
  refusal? : Operation → Path → Option Fault

/-- A disk that refuses nothing. -/
def Disk.obliging : Disk := ⟨fun _ => ⟨"000000".toList, by decide⟩, fun _ _ => none⟩

/-- A path cut before the last piece that is not empty. -/
structure Path.Cut where
  /-- The pieces in front. -/
  before : List Text
  /-- The last piece that is not empty, if there is one. -/
  last : Option Text
  /-- Whether slashes follow it. -/
  slashed : Bool

/-- Cuts a path before its last piece. -/
def Path.cut (p : Path) : Path.Cut :=
  let pieces := p.pieces.reverse
  let rest := pieces.dropWhile (·.isEmpty)
  ⟨(rest.drop 1).reverse, rest.head?, rest.length < pieces.length⟩

/-- The paths of the directories a path goes through, itself first. -/
def Path.ancestors (p : Path) : List Path := go p.pieces.reverse
where
  /-- Works on the pieces, last one first. -/
  go : List Text → List Path
    | [] => []
    | piece :: before =>
      if piece = [] ∨ piece = ['.'] ∧ before ≠ [] then go before
      else ofPieces (piece :: before) :: go before

namespace Tree

/-- The directory a path's last piece is looked up in. -/
def holder (t : Tree) (p : Path) (cut : Path.Cut) : Except Fault Location := do
  let l ← t.follow p cut.before
  t.step l []

variable (disk : Disk)

def makeDirectory (t : Tree) (p : Path) : Except Fault Tree := do
  if let some fault := p.fault? then throw fault
  let cut := p.cut
  let above ← t.holder p cut
  match cut.last with
  | none | some ['.'] | some ['.', '.'] => throw .fileExists
  | some n =>
    let l ← t.step above n
    if (t.find? l).isSome then throw .fileExists
    if let some fault := disk.refusal? .makeDirectory p then throw fault
    return t.put l .directory

/-- Makes a directory, unless there is one. -/
def ensureDirectory (t : Tree) (p : Path) : Except Fault Unit × Tree :=
  match t.makeDirectory disk p with
  | .ok t => (.ok (), t)
  | .error fault => (if t.isDirectory p then .ok () else .error fault, t)

/-- Makes the first of the paths, the ones after it before it where they are missing. What was made
before a fault stays. -/
def makeChain (t : Tree) : List Path → Except Fault Unit × Tree
  | [] => (.ok (), t)
  | p :: above =>
    match t.makeDirectory disk p with
    | .error .notFound =>
      match t.makeChain above with
      | (.ok (), t) => t.ensureDirectory disk p
      | (.error fault, t) => (.error fault, t)
    | _ => t.ensureDirectory disk p

/-- Makes a directory and what it lies in. -/
def makeDirectories (t : Tree) (p : Path) : Except Fault Unit × Tree :=
  t.makeChain disk p.ancestors

/-- Moves a file to where a path leads, over the file that was there. -/
def moveFile (t : Tree) (source : Location) (p : Path) : Except Fault Tree := do
  if let some fault := p.fault? then throw (if fault = .endInPath then .invalid else fault)
  let cut := p.cut
  let above ← t.holder p cut
  match cut.last with
  | none | some ['.'] | some ['.', '.'] => throw .busy
  | some n =>
    let l ← t.step above n
    if cut.slashed then throw .notDirectory
    if let some fault := disk.refusal? .rename p then throw fault
    match t.find? l with
    | some .directory => throw .isDirectory
    | _ => return t.move source l

end Tree

end SkipChecks
