import SkipChecks.Program.System
import SkipChecks.Shell.Machine

/-!
# Files of processes

Paths lead from the directory of a process. Some lead to its own streams. What is opened becomes a
channel of the machine.
-/

namespace SkipChecks.Shell

open Action

/-- The stream that a path leads to. -/
def ownStream? (path : Octets) : Option Nat :=
  match String.ofList path with
  | "/dev/stdin" => some 0
  | "/dev/stdout" => some 1
  | "/dev/stderr" => some 2
  | _ =>
    match ["/dev/fd/", "/proc/self/fd/"].findSome? fun front => front.toList.isPrefixOf? path with
    | some [c] => if c.isDigit then some (c.toNat - '0'.toNat) else none
    | _ => none

/-- Where a path leads. -/
def spot (path : Octets) : Action (Except Fault Location) := do
  let m ← get
  return System.locate m.tree (Octets.text m.directory) ⟨Octets.text path⟩

def Target.kind? (t : Tree) : Target → Option System.Kind
  | .file l => System.kind? t l
  | .directory => some .directory
  | .buffer _ => some .pipe
  | .nothing | .full => some .device

/-- What a path leads to. -/
def kind? (path : Octets) : Action (Option System.Kind) := do
  let m ← get
  match ownStream? path with
  | some stream =>
    return (← channel? stream).bind fun (_, channel) => channel.target.kind? m.tree
  | none => pure ()
  match ← spot path with
  | .ok l => return System.kind? (← get).tree l
  | .error _ => return none

/-- What is opened away from the working directory. There is no terminal. -/
def openOutside (l : Location) (atEnd reads writes : Bool) : Except Fault Channel :=
  match l.map String.ofList with
  | ["dev", "tty"] => .error (.other "No such device or address".toList)
  | ["dev", "full"] => .ok ⟨.full, 0, atEnd, reads, writes⟩
  | _ => .ok ⟨.nothing, 0, atEnd, reads, writes⟩

def openInput (path : Octets) : Action (Except Fault Channel) := do
  match ownStream? path with
  | some stream =>
    match ← channel? stream with
    | some (_, channel) =>
      return .ok <| match channel.target with
        | .file _ => { channel with place := 0, reads := true, writes := false }
        | _ => channel
    | none => return .error .notFound
  | none =>
    let t := (← get).tree
    match ← spot path with
    | .error fault => return .error fault
    | .ok l =>
      match System.kind? t l with
      | none => return .error .notFound
      | some .directory => return .ok ⟨.directory, 0, false, true, false⟩
      | some _ =>
        return if System.isOwn t l then .ok ⟨.file l, 0, false, true, false⟩
          else openOutside l false true true

/-- Opens a file to write it, and makes it where there is none. It is emptied unless it is kept. -/
def openOutput (path : Octets) (atEnd reads keeps : Bool) : Action (Except Fault Channel) := do
  match ownStream? path with
  | some stream =>
    match ← channel? stream with
    | some (_, channel) =>
      match channel.target with
      | .file l =>
        if !keeps then modify fun m => { m with tree := m.tree.put l (.file .empty) }
        return .ok ⟨.file l, 0, atEnd, reads, true⟩
      | .directory => return .error .isDirectory
      | _ => return .ok channel
    | none => return .error .notFound
  | none =>
    let t := (← get).tree
    match ← spot path with
    | .error .notFound =>
      let cut := (path.reverse.dropWhile (· == '/')).reverse
      if cut = path then return .error .notFound
      match ← spot cut with
      | .ok _ => return .error .isDirectory
      | .error fault => return .error fault
    | .error fault => return .error fault
    | .ok l =>
      match System.kind? t l with
      | some .directory => return .error .isDirectory
      | known =>
        if System.isOwn t l then
          if known.isNone || !keeps then
            modify fun m => { m with tree := m.tree.put l (.file .empty) }
          return .ok ⟨.file l, 0, atEnd, reads, true⟩
        else
          return match known with
            | some .file | some .device => openOutside l atEnd reads true
            | _ => .error .denied

/-- What is said about a fault where nothing is found at all. -/
def faultWords (missing : String) (fault : Fault) : Octets :=
  if fault = .notFound ∨ fault = .notDirectory then missing.toList else fault.words.1

/-- The names in a directory, in ascending order, if it is one. -/
def namesIn? (path : Octets) : Action (Option (List Octets)) := do
  let m ← get
  match ← spot path with
  | .ok l =>
    if System.isOwn m.tree l ∧ m.tree.find? l = some .directory then
      return some ((m.tree.below l).filterMap fun
        | ([name], _) => some (Octets.ofText name)
        | _ => none)
    else return none
  | _ => return none

end SkipChecks.Shell
