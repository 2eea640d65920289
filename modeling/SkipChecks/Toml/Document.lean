import SkipChecks.Toml.Values

/-!
# Documents of TOML

A document is read line by line: keys with values, and headers that say in which table the keys
below them stand. Only a value may go over several lines.
-/

namespace SkipChecks.Toml

/-- What has been read. -/
structure Document where
  nodes : Nodes
  /-- The path of the last header. -/
  header : List Text

namespace Document

/-- Sets a key below the last header. -/
def setKey (document : Document) (path : List Text) (v : Value) : Option Document := do
  let nodes ← Node.change false
    (fun _ entries => Node.set path.dropLast (path.getLast?.getD []) v entries)
    document.header false document.nodes
  return { document with nodes }

/-- Opens a table. One that was only implied by other headers becomes one of its own. -/
def openTable (document : Document) (path : List Text) : Option Document := do
  let key := path.getLast?.getD []
  let nodes ← Node.change false
    (fun _ entries =>
      match entries.lookup key with
      | none => some (Value.put key (.table false false []) entries)
      | some (.table true false inner) => some (Value.put key (.table false false inner) entries)
      | some _ => none)
    path.dropLast false document.nodes
  return ⟨nodes, path⟩

/-- Opens one more table of an array. -/
def openItem (document : Document) (path : List Text) : Option Document := do
  let key := path.getLast?.getD []
  let nodes ← Node.change false
    (fun _ entries =>
      match entries.lookup key with
      | none => some (Value.put key (.tables [[]]) entries)
      | some (.tables list) => some (Value.put key (.tables (list ++ [[]])) entries)
      | some _ => none)
    path.dropLast false document.nodes
  return ⟨nodes, path⟩

/-- Reads what stands in a line that is not empty. -/
def statement? (document : Document) (s : Text) : Option (Document × Text) :=
  match s with
  | '[' :: '[' :: s => do
    let (path, s) ← path? s
    let s ← [']', ']'].isPrefixOf? s
    return (← document.openItem path, s)
  | '[' :: s => do
    let (path, s) ← path? s
    let s ← [']'].isPrefixOf? s
    return (← document.openTable path, s)
  | s => do
    let (path, s) ← path? s
    let s ← ['='].isPrefixOf? s
    let (v, s) ← value? (2 * s.length + 2) 0 (skipSpaces s)
    return (← document.setKey path v, s)

/-- Whether nothing but blanks and a comment follow in a line. -/
def atLineEnd (s : Text) : Bool :=
  match skipSpaces s with
  | [] | '#' :: _ | '\n' :: _ | '\r' :: '\n' :: _ => true
  | _ => false

/-- Reads the lines of a document, at most so many. -/
def lines? : Nat → Document → Text → Option Document
  | 0, _, _ => none
  | fuel + 1, document, s => do
    match ← skipLines false s with
    | [] => some document
    | s =>
      let (document, s) ← document.statement? s
      if atLineEnd s then lines? fuel document s else none

/-- The entries of the table that a text stands for. A byte order mark in front is passed over. -/
def ofText? (s : Text) : Option Value.Entries :=
  let s := match s with
    | '\ufeff' :: s => s
    | s => s
  (lines? (s.length + 1) ⟨[], []⟩ s).bind fun document =>
    Value.settleEntries? (Node.toEntries document.nodes)

end Document

end SkipChecks.Toml
