import SkipChecks.Text.Utf8

/-!
# File trees

A file tree lists what lies below the root, each entry under the names that lead to it, in ascending
order. Comparing the lists of names one after the other puts a directory right before its contents
and the contents of a directory in the order of their names: the order of a depth-first walk. One of
the directories is the one that work goes on in.
-/

namespace SkipChecks

/-- The names that lead from the root to an entry. -/
abbrev Location := List Text

/-- What can lie at a location. -/
inductive Entry
  | file (content : Bytes)
  | directory
  deriving DecidableEq

/-- What lies below the root, as it is seen from a working directory. -/
structure Tree where
  entries : List (Location × Entry)
  /-- The working directory. -/
  home : Location
  deriving DecidableEq

namespace Tree

def empty : Tree := ⟨[], []⟩

/-- The entry at a location. The root is a directory. -/
def find? (t : Tree) : Location → Option Entry
  | [] => some .directory
  | l => t.entries.lookup l

theorem find?_of_ne_nil {t : Tree} {l : Location} (hl : l ≠ []) :
    t.find? l = t.entries.lookup l := by
  cases l with
  | nil => exact absurd rfl hl
  | cons n l => rfl

/-- Puts an entry in its place, over the one that was there. -/
def putEntry (l : Location) (e : Entry) : List (Location × Entry) → List (Location × Entry)
  | [] => [(l, e)]
  | (m, f) :: rest =>
    if l < m then (l, e) :: (m, f) :: rest
    else if l = m then (l, e) :: rest
    else (m, f) :: putEntry l e rest

/-- Puts an entry at a location, over the one that was there. -/
def put (t : Tree) (l : Location) (e : Entry) : Tree :=
  { t with entries := putEntry l e t.entries }

@[simp] theorem put_home (t : Tree) (l : Location) (e : Entry) : (t.put l e).home = t.home := rfl

theorem lookup_putEntry (l m : Location) (e : Entry) (entries : List (Location × Entry)) :
    (putEntry l e entries).lookup m = if m = l then some e else entries.lookup m := by
  induction entries with
  | nil =>
    by_cases h : m = l
    · simp [putEntry, h]
    · have h' : (m == l) = false := beq_false_of_ne h
      simp [putEntry, List.lookup_cons, h, h']
  | cons entry rest ih =>
    obtain ⟨k, f⟩ := entry
    rw [putEntry]
    by_cases hm : m = l
    · subst hm
      split
      · simp
      · split
        · simp
        · rename_i hk
          have h' : (m == k) = false := beq_false_of_ne hk
          simp [List.lookup_cons, h', ih]
    · have h' : (m == l) = false := beq_false_of_ne hm
      split
      · simp [List.lookup_cons, h']
      · split
        · rename_i hk
          subst hk
          simp [List.lookup_cons, h']
        · simp [List.lookup_cons, ih, hm]

/-- A put shows at its location and nowhere else. -/
theorem find?_put {l : Location} (hl : l ≠ []) (t : Tree) (e : Entry) (m : Location) :
    (t.put l e).find? m = if m = l then some e else t.find? m := by
  cases m with
  | nil => simp [find?, hl.symm]
  | cons n ns => simp [find?, put, lookup_putEntry]

/-- Takes away one entry. -/
def erase (t : Tree) (l : Location) : Tree :=
  { t with entries := t.entries.filter (·.1 ≠ l) }

/-- Moves an entry, over the one that was there. -/
def move (t : Tree) (source target : Location) : Tree :=
  match t.find? source with
  | some e => (t.erase source).put target e
  | none => t

/-- The entries below a location, under the names that lead on from there. -/
def below (t : Tree) (l : Location) : List (Location × Entry) :=
  t.entries.filterMap fun (m, e) =>
    match l.isPrefixOf? m with
    | some (n :: ns) => some (n :: ns, e)
    | _ => none

/-- How an entry is listed: the names with slashes, a slash behind a directory, and the content of
a file. -/
def line : Location × Entry → Text × Option Bytes
  | (l, .file content) => (Text.join ['/'] l, some content)
  | (l, .directory) => (Text.join ['/'] l ++ ['/'], none)

/-- Every entry below the working directory as it is listed, in the order of the listed texts. -/
def listing (t : Tree) : List (Text × Option Bytes) :=
  ((t.below t.home).map line).mergeSort fun a b => !decide (b.1 < a.1)

/-- The listed entries that are new or differ, and the texts of those that are gone. -/
def changes (before after : Tree) : List (Text × Option Bytes) × List Text :=
  (after.listing.filter (!before.listing.contains ·),
    (before.listing.map (·.1)).filter fun text => !(after.listing.map (·.1)).contains text)

end Tree

end SkipChecks
