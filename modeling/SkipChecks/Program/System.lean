import SkipChecks.Tree.Resolve

/-!
# What every system has

Away from the working directory a tree lists little. What it does not list is known all the same: the
directories that every system has, and the programs and files in them that can be relied on.
-/

namespace SkipChecks.System

/-- What lies at a path of the system. -/
inductive Kind
  | directory
  | program
  | file
  /-- Something that can be read or written but holds nothing. -/
  | device
  /-- A buffer between processes. -/
  | pipe
  deriving DecidableEq, Repr

/-- The directories of a system, in which programs are looked for in this order. -/
def searched : List Text :=
  ["/usr/local/sbin", "/usr/local/bin", "/usr/sbin", "/usr/bin", "/sbin", "/bin"].map String.toList

def directories : List Text :=
  searched ++
    ["/boot", "/dev", "/dev/fd", "/dev/pts", "/dev/shm", "/etc", "/home", "/lib", "/media", "/mnt",
      "/opt", "/proc", "/root", "/run", "/srv", "/sys", "/tmp", "/usr", "/usr/include", "/usr/lib",
      "/usr/local", "/usr/local/etc",
      "/usr/local/include", "/usr/local/lib", "/usr/local/share", "/usr/share", "/usr/src", "/var",
      "/var/cache", "/var/lib", "/var/log", "/var/tmp"].map String.toList

def programs : List Text :=
  ["cat", "dash", "echo", "false", "printf", "sh", "true"].map String.toList

def files : List Text :=
  ["/etc/passwd", "/etc/group", "/etc/hosts", "/etc/hostname", "/etc/resolv.conf"].map String.toList

def devices : List Text :=
  ["/dev/null", "/dev/zero", "/dev/full", "/dev/random", "/dev/urandom", "/dev/tty"].map String.toList

/-- Paths of a system that only lead to others. -/
def links : List Text :=
  ["/bin", "/bin/sh", "/dev/fd", "/dev/stderr", "/dev/stdin", "/dev/stdout", "/lib", "/sbin",
    "/usr/bin/sh"].map String.toList

/-- Directories of a system in which all may write, but remove only what is theirs. -/
def sticky : List Text := ["/dev/shm", "/tmp", "/var/tmp"].map String.toList

/-- What every system has at a location. -/
def standard? (l : Location) : Option Kind :=
  let path := l.flatMap ('/' :: ·)
  if directories.contains path then some .directory
  else if files.contains path then some .file
  else if devices.contains path then some .device
  else
    match l with
    | [['b', 'i', 'n'], name] | [['u', 's', 'r'], ['b', 'i', 'n'], name] =>
      if programs.contains name then some .program else none
    | _ => none

/-- What lies at a location. -/
def kind? (t : Tree) (l : Location) : Option Kind :=
  match t.find? l with
  | some (.file _) => some .file
  | some .directory => some .directory
  | none => standard? l

/-- Whether a location is the working directory or lies below it. -/
def isOwn (t : Tree) (l : Location) : Bool := t.home.isPrefixOf l

/-- Follows one piece from a directory. -/
def step (t : Tree) (l : Location) (piece : Text) : Except Fault Location :=
  match kind? t l with
  | none => .error .notFound
  | some .directory =>
    match piece with
    | [] | ['.'] => .ok l
    | ['.', '.'] => .ok l.dropLast
    | n =>
      if Text.byteLength n ≤ Tree.longestName then .ok (l ++ [n]) else .error .nameTooLong
  | some _ => .error .notDirectory

/-- Where a path leads from a directory under another path. -/
def locate (t : Tree) (directory : Text) (p : Path) : Except Fault Location :=
  match p.fault? with
  | some fault => .error fault
  | none => do
    let start ← if p.isRooted then pure [] else (Path.mk directory).pieces.foldlM (step t) []
    p.pieces.foldlM (step t) start

end SkipChecks.System
