import SkipChecks.Proofs.Settings.Layering

/-!
# Directories of namespaces in layers

A layer gives directories to namespaces in a table. Merging layers merges these tables key by key,
unless a layer has something else in place of its table: that hides what is below it. What is read
from merged layers is then, for each way to write a namespace, the directory of the highest layer
that writes it in this way.
-/

namespace SkipChecks.Settings

open SkipChecks.Entries (Tidy)

/-! ## Directories in a layer -/

/-- The entries of a value that is a table. -/
def entriesOf : Option Value → Value.Entries
  | some (.table entries) => entries
  | _ => []

/-- What a layer gives to namespaces, as they are written there. -/
def namespacesOf (layer : Value.Entries) : Value.Entries :=
  entriesOf (layer.lookup "autoload".toList)

variable {below above : Value.Entries} {space key : Text} {s : Text} {u : Value}

/-- A text is not merged from anything. -/
theorem text_of_onto {found : Option Value} {v : Value} (h : Value.onto found v = .text s) :
    v = .text s := by
  cases v with
  | table entries =>
      cases found with
      | none => cases h
      | some below => cases below <;> cases h
  | _ =>
      cases found with
      | none => exact h
      | some below => cases below <;> exact h

/-- Under a layer whose directories are a table, namespace by namespace. -/
theorem lookup_entriesOf_onto {entries : Value.Entries} (h : entries.Pairwise (·.1 < ·.1))
    (found : Option Value) (key : Text) :
    (entriesOf (some (Value.onto found (.table entries)))).lookup key =
      ((entries.lookup key).map (Value.onto ((entriesOf found).lookup key))).or
        ((entriesOf found).lookup key) := by
  have halone : ((entries.lookup key).map (Value.onto none)).or none = entries.lookup key := by
    cases entries.lookup key <;> rfl
  match found with
  | some (.table others) => exact Value.lookup_mergeEntries h others key
  | none | some (.text _) | some (.flag _) | some .number | some (.list _) => exact halone.symm

/-- Directories are merged one by one, unless the upper layer has something else in their place:
then no directories are left. -/
theorem lookup_namespacesOf_mergeEntries (h : Tidy Value.Ordered above) (below : Value.Entries) :
    (∀ key, (namespacesOf (Value.mergeEntries below above)).lookup key =
      (((namespacesOf above).lookup key).map (Value.onto ((namespacesOf below).lookup key))).or
        ((namespacesOf below).lookup key)) ∨
    namespacesOf above = [] ∧
      ∀ entries, (Value.mergeEntries below above).lookup "autoload".toList ≠
        some (.table entries) := by
  unfold namespacesOf
  rw [Value.lookup_mergeEntries h.ascending]
  match hlayer : above.lookup "autoload".toList with
  | none => exact .inl fun key => rfl
  | some (.table entries) =>
      have hentries := (Value.ordered_table_iff.mp (h.of_lookup hlayer)).ascending
      exact .inl fun key => lookup_entriesOf_onto hentries _ key
  | some (.text _) | some (.flag _) | some .number | some (.list _) =>
      refine .inr ⟨rfl, fun entries heq => ?_⟩
      cases hbelow : below.lookup "autoload".toList with
      | none => rw [hbelow] at heq; cases heq
      | some v => rw [hbelow] at heq; cases v <;> cases heq

theorem exists_table (hkey : (namespacesOf above).lookup key = some u) :
    ∃ entries, above.lookup "autoload".toList = some (.table entries) := by
  unfold namespacesOf at hkey
  match hlayer : above.lookup "autoload".toList with
  | some (.table entries) => exact ⟨entries, rfl⟩
  | none | some (.text _) | some (.flag _) | some .number | some (.list _) =>
      rw [hlayer] at hkey
      cases hkey

/-- A directory in merged layers is the one of the upper layer, or of the lower one where the upper
one has none under the same key. -/
theorem text_of_mergeEntries (h : Tidy Value.Ordered above)
    (hkey : (namespacesOf (Value.mergeEntries below above)).lookup key = some (.text s)) :
    (namespacesOf above).lookup key = some (.text s) ∨
      (namespacesOf above).lookup key = none ∧
        (namespacesOf below).lookup key = some (.text s) := by
  rcases lookup_namespacesOf_mergeEntries h below with hmerge | ⟨-, hnone⟩
  · rw [hmerge] at hkey
    cases hfound : (namespacesOf above).lookup key with
    | none =>
        rw [hfound] at hkey
        exact .inr ⟨rfl, hkey⟩
    | some v =>
        rw [hfound, Option.map_some, Option.some_or, Option.some.injEq] at hkey
        exact .inl (congrArg some (text_of_onto hkey))
  · obtain ⟨entries, hentries⟩ := exists_table hkey
    exact absurd hentries (hnone entries)

theorem exists_of_above (h : Tidy Value.Ordered above) (below : Value.Entries)
    (hkey : (namespacesOf above).lookup key = some u) :
    ∃ v, (namespacesOf (Value.mergeEntries below above)).lookup key = some v := by
  rcases lookup_namespacesOf_mergeEntries h below with hmerge | ⟨hnil, -⟩
  · exact ⟨_, by rw [hmerge, hkey, Option.map_some, Option.some_or]⟩
  · rw [hnil] at hkey
    cases hkey

theorem exists_of_below (h : Tidy Value.Ordered above) {entries : Value.Entries}
    (hmerged : (Value.mergeEntries below above).lookup "autoload".toList = some (.table entries))
    (hkey : (namespacesOf below).lookup key = some u) :
    ∃ v, (namespacesOf (Value.mergeEntries below above)).lookup key = some v := by
  rcases lookup_namespacesOf_mergeEntries h below with hmerge | ⟨-, hnone⟩
  · rw [hmerge, hkey]
    cases (namespacesOf above).lookup key <;> exact ⟨_, rfl⟩
  · exact absurd hmerged (hnone entries)

/-! ## Directories that were read -/

variable {autoload : List (Text × Path)} {settings start : Settings}

/-- Reading the value under a name changes the directories only where the name is theirs. -/
theorem autoload_of_readEntry {name : Text} {v : Value}
    (h : readEntry start name v = .ok settings) :
    (name = "autoload".toList ∧ v = directories settings.autoload) ∨
      (name ≠ "autoload".toList ∧ settings.autoload = start.autoload) := by
  have hname {word : String} (heq : String.ofList name = word) : name = word.toList := by
    rw [← heq, String.toList_ofList]
  unfold readEntry at h
  split at h
  case h_1 heq =>
    obtain ⟨autoload, hread, rfl⟩ := exists_of_map h
    exact .inl ⟨hname heq, eq_directories_of_readPaths hread⟩
  case h_9 => cases h
  all_goals
    rename_i heq
    obtain ⟨read, -, rfl⟩ := exists_of_map h
    refine .inr ⟨?_, rfl⟩
    rw [hname heq]
    decide

/-- Where merged values are read, the directories are those under their name. -/
theorem lookup_of_foldlM {entries : Value.Entries} (hentries : entries.Pairwise (·.1 ≠ ·.1))
    (h : entries.foldlM (fun settings (name, v) => readEntry settings name v) start =
      .ok settings) :
    match entries.lookup "autoload".toList with
    | some v => v = directories settings.autoload
    | none => settings.autoload = start.autoload := by
  induction entries generalizing start with
  | nil =>
      cases h
      rfl
  | cons first rest ih =>
      obtain ⟨name, u⟩ := first
      obtain ⟨hfirst, hrest⟩ := List.pairwise_cons.mp hentries
      rw [List.foldlM_cons] at h
      obtain ⟨next, hnext, h⟩ := exists_of_bind h
      have hothers := ih hrest h
      rw [Entries.lookup_cons]
      rcases autoload_of_readEntry hnext with ⟨rfl, hu⟩ | ⟨hname, hkept⟩
      · -- the name does not come again
        rw [Entries.lookup_eq_none hfirst] at hothers
        rw [if_pos rfl, hothers]
        exact hu
      · rwa [if_neg hname.symm, ← hkept]

theorem lookup_loaded {file : Value.Entries} {environment : Environment}
    (hfile : Tidy Value.Ordered file) (h : ofLayers file environment = .ok settings) :
    (Value.mergeEntries (Value.mergeEntries standard.toEntries file)
      (Environment.layer names environment)).lookup "autoload".toList =
        some (directories settings.autoload) := by
  have hupper := Environment.tidy_layer names environment
  have htidy := Value.tidy_merge (Value.tidy_merge (tidy_toEntries ascending_standard) hfile) hupper
  have hread := lookup_of_foldlM (htidy.ascending.imp ne_of_lt) h
  have hstandard : standard.toEntries.lookup "autoload".toList =
      some (directories standard.autoload) := rfl
  obtain ⟨v, hv⟩ : ∃ v, (Value.mergeEntries (Value.mergeEntries standard.toEntries file)
      (Environment.layer names environment)).lookup "autoload".toList = some v := by
    rw [Value.lookup_mergeEntries hupper.ascending, Value.lookup_mergeEntries hfile.ascending,
      hstandard]
    cases (Environment.layer names environment).lookup "autoload".toList <;>
      cases file.lookup "autoload".toList <;> exact ⟨_, rfl⟩
  rw [hv] at hread
  rw [hv, hread]

theorem lookup_texts (autoload : List (Text × Path)) (space : Text) :
    (autoload.map fun entry => (entry.1, Value.text entry.2.text)).lookup space =
      (autoload.lookup space).map fun directory => .text directory.text := by
  induction autoload with
  | nil => rfl
  | cons first rest ih =>
      rw [List.map_cons, Entries.lookup_cons, Entries.lookup_cons, ih]
      split <;> rfl

/-! ## Layers below each other -/

/-- Directories come from two layers over the stock ones, each for a namespace as it is written. -/
structure Stacked (upper lower : Value.Entries) (autoload : List (Text × Path)) : Prop where
  ascending : autoload.Pairwise (·.1 < ·.1)
  given : ∀ entry ∈ autoload,
    (namespacesOf upper).lookup entry.1 = some (.text entry.2.text) ∨
      (namespacesOf upper).lookup entry.1 = none ∧
        ((namespacesOf lower).lookup entry.1 = some (.text entry.2.text) ∨
          (namespacesOf lower).lookup entry.1 = none ∧ entry ∈ standard.autoload)
  listed : ∀ layer ∈ [upper, lower], ∀ space v, (namespacesOf layer).lookup space = some v →
    ∃ directory, (space, directory) ∈ autoload

theorem lookup_standard {space : Text} {directory : Path} :
    (namespacesOf standard.toEntries).lookup space = some (.text directory.text) ↔
      (space, directory) ∈ standard.autoload := by
  have hstandard : namespacesOf standard.toEntries =
      standard.autoload.map fun entry => (entry.1, Value.text entry.2.text) := rfl
  rw [hstandard, lookup_texts, Option.map_eq_some_iff,
    ← Entries.lookup_eq_some_iff (ascending_standard.imp ne_of_lt)]
  constructor
  · rintro ⟨⟨s⟩, hlookup, hs⟩
    obtain rfl : s = directory.text := Value.text.inj hs
    exact hlookup
  · exact fun hlookup => ⟨directory, hlookup, rfl⟩

theorem stacked_of_ofLayers {file : Value.Entries} {environment : Environment}
    (hfile : Tidy Value.Ordered file) (h : ofLayers file environment = .ok settings) :
    Stacked (Environment.layer names environment) file settings.autoload := by
  have hupper := Environment.tidy_layer names environment
  have hlower := Value.tidy_merge (tidy_toEntries ascending_standard) hfile
  have hloaded := lookup_loaded hfile h
  have hlookup (space : Text) : (namespacesOf (Value.mergeEntries
      (Value.mergeEntries standard.toEntries file) (Environment.layer names environment))).lookup
        space = (settings.autoload.lookup space).map fun directory => .text directory.text := by
    rw [namespacesOf, hloaded]
    exact lookup_texts settings.autoload space
  have hascending : settings.autoload.Pairwise (·.1 < ·.1) := by
    have hordered := (Value.tidy_merge hlower hupper).of_lookup hloaded
    have hascending := (Value.ordered_table_iff.mp hordered).ascending
    rwa [List.pairwise_map] at hascending
  have hlisted {space : Text} (hsome : ∃ v, (namespacesOf (Value.mergeEntries
      (Value.mergeEntries standard.toEntries file) (Environment.layer names environment))).lookup
        space = some v) : ∃ directory, (space, directory) ∈ settings.autoload := by
    obtain ⟨v, hv⟩ := hsome
    rw [hlookup] at hv
    obtain ⟨directory, hdirectory, -⟩ := Option.map_eq_some_iff.mp hv
    exact ⟨directory, Entries.mem_of_lookup hdirectory⟩
  refine ⟨hascending, fun entry hentry => ?_, fun layer hlayer space v hv => hlisted ?_⟩
  · obtain ⟨space, directory⟩ := entry
    have hdirectory := (Entries.lookup_eq_some_iff (hascending.imp ne_of_lt)).mpr hentry
    have hmerged := hlookup space
    rw [hdirectory, Option.map_some] at hmerged
    refine (text_of_mergeEntries hupper hmerged).imp_right fun ⟨hnone, hbelow⟩ => ⟨hnone, ?_⟩
    exact (text_of_mergeEntries hfile hbelow).imp_right fun ⟨hnone, hstock⟩ =>
      ⟨hnone, lookup_standard.mp hstock⟩
  · rcases List.mem_pair.mp hlayer with rfl | rfl
    · exact exists_of_above hupper _ hv
    · obtain ⟨u, hu⟩ := exists_of_above hfile standard.toEntries hv
      exact exists_of_below hupper hloaded hu

end SkipChecks.Settings
