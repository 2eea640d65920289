import SkipChecks.Tree.Basic
import SkipChecks.Tree.Fault
import SkipChecks.Path

/-!
# Where paths lead

A path is followed piece by piece, from the root or from the working directory. Every piece but the
last must lead to a directory, which a trailing slash or dot asks of the last one as well.
-/

namespace SkipChecks

namespace Path

/-- Whether a path holds the character that ends texts for the system, so that it leads nowhere. -/
def isBroken (p : Path) : Bool := p.text.any (· == '\x00')

/-- The longest path the system takes, in bytes. -/
def longest : Nat := 4095

/-- What is wrong with a path, wherever it leads. -/
def fault? (p : Path) : Option Fault :=
  if p.isBroken then some .endInPath
  else if p.text = [] then some .notFound
  else if longest < Text.byteLength p.text then some .nameTooLong
  else none

end Path

namespace Tree

/-- The longest name the file system takes, in bytes. -/
def longestName : Nat := 255

/-- Follows one piece from a directory. Two dots stay in the root. -/
def step (t : Tree) (l : Location) (piece : Text) : Except Fault Location :=
  match t.find? l with
  | none => .error .notFound
  | some (.file _) => .error .notDirectory
  | some .directory =>
    match piece with
    | [] | ['.'] => .ok l
    | ['.', '.'] => .ok l.dropLast
    | n => if Text.byteLength n ≤ longestName then .ok (l ++ [n]) else .error .nameTooLong

/-- Follows pieces from where a path starts. -/
def follow (t : Tree) (p : Path) (pieces : List Text) : Except Fault Location :=
  pieces.foldlM t.step (if p.isRooted then [] else t.home)

/-- Where a path leads. There need not be an entry, but there is a directory to hold one. -/
def resolve (t : Tree) (p : Path) : Except Fault Location :=
  match p.fault? with
  | some fault => .error fault
  | none => t.follow p p.pieces

/-- What a path leads to. -/
def reached? (t : Tree) (p : Path) : Option Entry := (t.resolve p).toOption.bind t.find?

def isDirectory (t : Tree) (p : Path) : Bool := t.reached? p == some .directory

/-- The content of the file a path leads to. -/
def read (t : Tree) (p : Path) : Except Fault Bytes :=
  match t.resolve p with
  | .ok l =>
    match t.find? l with
    | some (.file content) => .ok content
    | some .directory => .error .isDirectory
    | none => .error .notFound
  | .error fault => .error fault

def isFile (t : Tree) (p : Path) : Bool := (t.read p).isOk

def readText (t : Tree) (p : Path) : Except Fault Text :=
  match t.read p with
  | .ok content =>
    match content.text? with
    | some s => .ok s
    | none => .error .notText
  | .error fault => .error fault

/-- The files below a directory in the order of a depth-first walk, each with its path as seen
through the path of the directory. The walk ends at a directory whose path leads nowhere since it is
too long: its path is told in place of what follows. -/
def walk (t : Tree) (root : Path) : List (Except Path Path) :=
  match t.resolve root with
  | .ok l => (t.below l).filterMap fun (names, entry) =>
    let p := root.under names
    match entry with
    | .file _ => some (.ok p)
    | .directory => if Path.longest < Text.byteLength p.text then some (.error p) else none
  | .error _ => []

/-! ## Paths from the root -/

/-- The path of the working directory. -/
def homePath (t : Tree) : Path := (Path.mk ['/']).under t.home

/-- A path as it is told from the root on. There is none where the working directory is gone. -/
def absolute (t : Tree) (p : Path) : Except Fault Path :=
  if p.isRooted ∨ t.find? t.home = some .directory then .ok (t.homePath.join p)
  else .error .notFound

/-- The working directory and those above it, nearest first, as paths. -/
def upward (t : Tree) : List Path :=
  ((List.range (t.home.length + 1)).reverse.map t.home.take).map (Path.mk ['/']).under

/-- The paths under which a file is looked for that need not lie in the working directory itself but
in one above it. -/
def candidates (t : Tree) (p : Path) : List Path :=
  if p.isRooted then [p]
  else if t.find? t.home = some .directory then t.upward.map (·.join p)
  else []

end Tree

end SkipChecks
