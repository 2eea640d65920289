import SkipChecks.Settings.Value
import SkipChecks.Toml.Number
import SkipChecks.Toml.Strings

/-!
# Values of TOML

A value may hold others, up to a limit of depth. Arrays may go over several lines, with comments;
tables within a line may not. Tables are put together from keys with dots: each key is set once, and
a table written in one place is not added to from another.
-/

namespace SkipChecks.Toml

open Text (Recogniser)

/-- What stands under a key while a document is read. -/
inductive Node
  | value (v : Value)
  /-- A table, which may only be implied by the keys of others, with dots or in headers. -/
  | table (implied dotted : Bool) (entries : List (Text × Node))
  /-- The tables of an array, each under a header of its own. -/
  | tables (list : List (List (Text × Node)))

/-- What stands in a table while a document is read, in ascending order of the keys. -/
abbrev Nodes := List (Text × Node)

namespace Node

mutual

/-- The value that something stands for. -/
def toValue : Node → Value
  | value v => v
  | table _ _ entries => .table (toEntries entries)
  | tables list => .list (toItems list)

def toEntries : Nodes → Value.Entries
  | [] => []
  | (key, node) :: rest => (key, toValue node) :: toEntries rest

/-- The tables of an array. -/
def toItems : List Nodes → List Value
  | [] => []
  | entries :: rest => .table (toEntries entries) :: toItems rest

end

/-- Changes the table under a path of keys. Tables that are missing are implied; in an array of
tables the last one counts. A path of dotted keys does not lead into a table written elsewhere. The
change is told whether the table was made by dotted keys. -/
def change (dotted : Bool) (f : Bool → Nodes → Option Nodes) :
    List Text → Bool → Nodes → Option Nodes
  | [], isDotted, entries => f isDotted entries
  | key :: keys, _, entries =>
    match entries.lookup key with
    | none => do return Value.put key (.table true dotted (← change dotted f keys dotted [])) entries
    | some (.value _) => none
    | some (.tables list) => do
      let last ← list.getLast?
      return Value.put key (.tables (list.dropLast ++ [← change dotted f keys false last])) entries
    | some (.table implied isDotted inner) =>
      if dotted && !implied then none
      else do
        return Value.put key (.table implied isDotted (← change dotted f keys isDotted inner)) entries

/-- Sets a key with dots in front of it. -/
def set (keys : List Text) (key : Text) (v : Value) (entries : Nodes) : Option Nodes :=
  change true
    (fun isDotted entries =>
      if isDotted == keys.isEmpty || (entries.lookup key).isSome then none
      else some (Value.put key (.value v) entries))
    keys false entries

end Node

/-- The text behind blanks, line breaks and comments. A comment ends with its line. -/
def skipLines (inComment : Bool) : Text → Option Text
  | [] => some []
  | '\n' :: s => skipLines false s
  | '\r' :: '\n' :: s => skipLines false s
  | c :: s =>
    if inComment then
      if isPrintable c then skipLines true s else none
    else if isSpace c then skipLines false s
    else if c = '#' then skipLines true s
    else some (c :: s)

mutual

/-- Reads a value. The first number bounds the steps, the second one is the depth so far. -/
def value? : Nat → Nat → Recogniser Value
  | 0, _, _ => none
  | fuel + 1, depth, s =>
    match s with
    | '"' :: _ | '\'' :: _ => (string? s).map fun (content, s) => (.text content, s)
    | '[' :: s =>
      if depth + 1 < depthLimit then
        (items? fuel (depth + 1) s).map fun (items, s) => (.list items, s)
      else none
    | '{' :: s =>
      if depth + 1 < depthLimit then
        match skipSpaces s with
        | '}' :: s => some (.table [], s)
        | s =>
          (members? fuel (depth + 1) [] s).map fun (entries, s) =>
            (.table (Node.toEntries entries), s)
      else none
    | 't' :: 'r' :: 'u' :: 'e' :: s => some (.flag true, s)
    | 'f' :: 'a' :: 'l' :: 's' :: 'e' :: s => some (.flag false, s)
    | s => do
      match ← moment? s with
      | some (shown, s) => some (.table [("$__toml_private_datetime".toList, .text shown)], s)
      | none => (number? s).map fun s => (.number, s)

def items? : Nat → Nat → Recogniser (List Value)
  | 0, _, _ => none
  | fuel + 1, depth, s => do
    match ← skipLines false s with
    | ']' :: s => some ([], s)
    | s =>
      let (item, s) ← value? fuel depth s
      match ← skipLines false s with
      | ',' :: s => (items? fuel depth s).map fun (items, s) => (item :: items, s)
      | ']' :: s => some ([item], s)
      | _ => none

/-- Reads the members of a table within a line up to its end. -/
def members? : Nat → Nat → Nodes → Recogniser Nodes
  | 0, _, _, _ => none
  | fuel + 1, depth, entries, s => do
    let (path, s) ← path? s
    let s ← ['='].isPrefixOf? s
    let (v, s) ← value? fuel depth (skipSpaces s)
    let entries ← Node.set path.dropLast (path.getLast?.getD []) v entries
    match skipSpaces s with
    | ',' :: s => members? fuel depth entries s
    | '}' :: s => some (entries, s)
    | _ => none

end

end SkipChecks.Toml
