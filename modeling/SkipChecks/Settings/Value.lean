import SkipChecks.Text.Basic

/-!
# Values of settings

What a layer of settings can say before anyone has asked what it means. The entries of a table are
in ascending order of their keys, each key once. Layers are merged key by key as deep as both have
tables; anywhere else the later layer wins.
-/

namespace SkipChecks

/-- A value that a layer gives. -/
inductive Value
  | text (s : Text)
  | flag (b : Bool)
  | number
  | list (items : List Value)
  | table (entries : List (Text × Value))

namespace Value

/-- The entries of a table. -/
abbrev Entries := List (Text × Value)

/-- Puts something under a key, over what was there. -/
def put {α : Type} (key : Text) (a : α) : List (Text × α) → List (Text × α)
  | [] => [(key, a)]
  | (k, b) :: rest =>
    if key < k then (key, a) :: (k, b) :: rest
    else if key = k then (key, a) :: rest
    else (k, b) :: put key a rest

/-- A table of entries in any order; of those with one key the last one stays. -/
def tableOf (entries : Entries) : Value :=
  table (entries.foldl (fun entries (key, v) => put key v entries) [])

mutual

/-- A value under one of a later layer. -/
def merge : Value → Value → Value
  | table entries, table others => table (mergeEntries entries others)
  | _, other => other

/-- The entries of a table under those of a later layer. -/
def mergeEntries : Entries → Entries → Entries
  | entries, [] => entries
  | entries, (key, v) :: others =>
    mergeEntries
      (put key
        (match entries.lookup key with
          | some below => merge below v
          | none => v) entries) others

end

/-- The key of a table that stands for the value under it. -/
def standInKey : Text := "___figment_value_value".toList

/-- A key that no table below the first one can have. -/
def reservedKey : Text := "___figment_value_id".toList

mutual

/-- A value with all the tables in it replaced that stand for a value of theirs. -/
def settle? : Value → Option Value
  | table entries => do
    let entries ← settleEntries? entries
    if (entries.lookup reservedKey).isSome then none
    else return (entries.lookup standInKey).getD (table entries)
  | list items => do return list (← settleItems? items)
  | v => some v

/-- The entries of a table, settled one by one. -/
def settleEntries? : Entries → Option Entries
  | [] => some []
  | (key, v) :: entries => do return (key, ← settle? v) :: (← settleEntries? entries)

/-- The items of a list, settled one by one. -/
def settleItems? : List Value → Option (List Value)
  | [] => some []
  | v :: items => do return (← settle? v) :: (← settleItems? items)

end

end Value

end SkipChecks
