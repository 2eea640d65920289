import SkipChecks.Text.Basic

/-!
# Paths

A path keeps the text it was given, which is also how it is shown. What it names depends on its
parts only: slashes may be repeated, a trailing slash adds nothing, and a dot counts only at the
start of a path that has no root.
-/

namespace SkipChecks

/-- A path, as written. -/
structure Path where
  text : Text
  deriving DecidableEq, Repr

/-- One step of a path. -/
inductive Part
  | root
  | here
  | up
  | name (name : Text)
  deriving DecidableEq, Repr

namespace Part

/-- A step as it is written. -/
def text : Part → Text
  | root => ['/']
  | here => ['.']
  | up => ['.', '.']
  | name n => n

/-- The step a piece between slashes stands for, when it is not the first piece. -/
def ofPiece? : Text → Option Part
  | [] | ['.'] => none
  | ['.', '.'] => some up
  | n => some (name n)

end Part

namespace Path

/-- The pieces between slashes. -/
def pieces (p : Path) : List Text := Text.split '/' p.text

def isRooted (p : Path) : Bool := p.text.head? == some '/'

/-- The steps of a path. -/
def parts (p : Path) : List Part :=
  if p.isRooted then
    .root :: p.pieces.filterMap Part.ofPiece?
  else if p.pieces.head? = some ['.'] then
    .here :: p.pieces.filterMap Part.ofPiece?
  else
    p.pieces.filterMap Part.ofPiece?

/-- The name a path ends in; none when it ends in the root, a dot or two dots. -/
def fileName? (p : Path) : Option Text :=
  match p.parts.getLast? with
  | some (.name n) => some n
  | _ => none

/-- A file name cut at its last dot. A name without a dot, or with its only dot in front, has no
extension. -/
def splitName (n : Text) : Text × Option Text :=
  match n.reverse.dropWhile (· != '.') with
  | _ :: before@(_ :: _) => (before.reverse, some (n.reverse.takeWhile (· != '.')).reverse)
  | _ => (n, none)

def extension? (p : Path) : Option Text := p.fileName?.bind fun n => (splitName n).2

/-- Pieces, last one first, from the last one on that is a step. The first piece of a path always
stays. -/
def dropIdle : List Text → List Text
  | piece :: next :: pieces =>
    if piece = [] ∨ piece = ['.'] then dropIdle (next :: pieces) else piece :: next :: pieces
  | pieces => pieces

/-- A path of pieces, last one first. -/
def ofPieces (pieces : List Text) : Path := ⟨Text.join ['/'] pieces.reverse⟩

/-- The path without its last step. The empty path and the root have none. -/
def parent? (p : Path) : Option Path :=
  match dropIdle p.pieces.reverse with
  | [] | [[]] => none
  | [_] => some ⟨[]⟩
  | _ :: before =>
    match dropIdle before with
    | [[]] => some ⟨['/']⟩
    | pieces => some (ofPieces pieces)

/-- The path `q` as seen from `p`: behind a slash, or alone when it starts at the root. -/
def join (p q : Path) : Path :=
  if q.isRooted ∨ p.text = [] then q
  else if p.text.getLast? = some '/' then ⟨p.text ++ q.text⟩
  else ⟨p.text ++ '/' :: q.text⟩

/-- The path of an entry as seen through the path of a directory above it. -/
def under (root : Path) (names : List Text) : Path := names.foldl (fun p n => p.join ⟨n⟩) root

/-- The path with another extension on the name it ends in; a path that ends in no name stays. -/
def withExtension (p : Path) (extension : Text) : Path :=
  match p.fileName?, dropIdle p.pieces.reverse with
  | some n, _ :: before => ofPieces (((splitName n).1 ++ '.' :: extension) :: before)
  | _, _ => p

/-- The steps of a path behind those of `base`, when it starts with them. -/
def relativeTo? (p base : Path) : Option (List Part) := base.parts.isPrefixOf? p.parts

/-- Steps with a slash between each two. -/
def showParts (parts : List Part) : Text := Text.join ['/'] (parts.map Part.text)

/-- The directory a path lies in, as it is handed to the system: a dot for the working directory. -/
def directory (p : Path) : Path :=
  match p.parent? with
  | some ⟨[]⟩ | none => ⟨['.']⟩
  | some parent => parent

example :
    (Path.mk "a//b/./".toList).parts = [.name ['a'], .name ['b']] ∧
      (Path.mk "./a/.".toList).parent? = some ⟨['.']⟩ ∧
      (Path.mk "/x.tar.gz/".toList).withExtension ['z'] = ⟨"/x.tar.z".toList⟩ := by
  decide +kernel

end Path

end SkipChecks
