import SkipChecks.Proofs.Settings.Ordered
import SkipChecks.Settings.Layers

/-!
# Settings under a layer

A layer that gives nothing but settings, each with a value of the right kind, is put over settings
key by key: merging their values and reading them again gives settings with those of the layer in
place. Only directories of namespaces are put among those that are there.
-/

namespace SkipChecks

/-- The settings that a layer gives. -/
structure Settings.Overrides where
  manifestPath : Option Path
  testDir : Option Path
  targetSubdir : Option Text
  excludedFiles : Option (List Text)
  extension : Option Text
  bootstrapFile : Option Path
  routesCommand : Option (List Text)
  autoload : Option (List (Text × Path))
  deriving DecidableEq, Repr

namespace Settings

open SkipChecks.Entries (Tidy)

/-- A table of directories. -/
def directories (autoload : List (Text × Path)) : Value :=
  .table (autoload.map fun entry => (entry.1, .text entry.2.text))

/-- What a layer has under a key when it gives these settings. -/
def Overrides.value? (given : Overrides) (key : Text) : Option Value :=
  match String.ofList key with
  | "autoload" => given.autoload.map directories
  | "bootstrap_file" => given.bootstrapFile.map fun p => .text p.text
  | "excluded_files" => given.excludedFiles.map fun names => .list (names.map .text)
  | "extension" => given.extension.map .text
  | "manifest_path" => given.manifestPath.map fun p => .text p.text
  | "routes_command" => given.routesCommand.map fun words => .list (words.map .text)
  | "target_subdir" => given.targetSubdir.map .text
  | "test_dir" => given.testDir.map fun p => .text p.text
  | _ => none

/-- The names of settings in ascending order. -/
def keys : List Text :=
  ["autoload", "bootstrap_file", "excluded_files", "extension", "manifest_path", "routes_command",
    "target_subdir", "test_dir"].map String.toList

/-- The table of a layer that gives these settings. -/
def Overrides.toEntries (given : Overrides) : Value.Entries :=
  keys.filterMap fun key => (given.value? key).map fun v => (key, v)

/-- A layer with nothing but settings, each with a value of the right kind. -/
def Gives (entries : Value.Entries) (given : Overrides) : Prop :=
  ∀ key, entries.lookup key = given.value? key

/-- Directories are put over those below them one by one. -/
def spread (below others : List (Text × Path)) : List (Text × Path) :=
  others.foldl (fun entries other => Value.put other.1 other.2 entries) below

/-- Settings with those of a layer over them. -/
def override (settings : Settings) (given : Overrides) : Settings where
  manifestPath := given.manifestPath.getD settings.manifestPath
  testDir := given.testDir.getD settings.testDir
  targetSubdir := given.targetSubdir.getD settings.targetSubdir
  excludedFiles := given.excludedFiles.getD settings.excludedFiles
  extension := given.extension.getD settings.extension
  bootstrapFile := given.bootstrapFile.getD settings.bootstrapFile
  routesCommand := given.routesCommand.getD settings.routesCommand
  autoload := spread settings.autoload (given.autoload.getD [])

/-- All settings, as a layer that gives every one of them. -/
def all (settings : Settings) : Overrides where
  manifestPath := some settings.manifestPath
  testDir := some settings.testDir
  targetSubdir := some settings.targetSubdir
  excludedFiles := some settings.excludedFiles
  extension := some settings.extension
  bootstrapFile := some settings.bootstrapFile
  routesCommand := some settings.routesCommand
  autoload := some settings.autoload

variable {settings : Settings} {given : Overrides} {key : Text}

/-! ## Tables of settings -/

theorem ofList_ne {name : String} (hmem : name.toList ∈ names) (h : key ∉ names) :
    ¬ String.ofList key = name := by
  rintro rfl
  rw [String.toList_ofList] at hmem
  exact h hmem

theorem mem_keys_iff : key ∈ keys ↔ key ∈ names := by
  have hperm : keys.Perm names := by
    decide
  exact hperm.mem_iff

theorem value?_of_notMem (h : key ∉ names) : given.value? key = none := by
  unfold Overrides.value?
  split
  case h_9 => rfl
  all_goals
    rename_i heq
    exact absurd heq (ofList_ne (by decide) h)

theorem lookup_filterMap (f : Text → Option Value) (names : List Text) :
    (names.filterMap fun name => (f name).map fun v => (name, v)).lookup key =
      if key ∈ names then f key else none := by
  induction names with
  | nil => rfl
  | cons name names ih =>
      rw [List.filterMap_cons]
      cases hv : f name with
      | none =>
          rw [Option.map_none, ih]
          by_cases heq : key = name
          · simp [heq, hv]
          · simp [heq]
      | some v =>
          rw [Option.map_some, Entries.lookup_cons, ih]
          by_cases heq : key = name
          · simp [heq, hv]
          · simp [heq]

theorem gives_toEntries (given : Overrides) : Gives given.toEntries given := by
  intro key
  rw [Overrides.toEntries, lookup_filterMap]
  split
  next => rfl
  next hkey => rw [value?_of_notMem (mem_keys_iff.not.mp hkey)]

theorem toEntries_eq (settings : Settings) : settings.toEntries = settings.all.toEntries := rfl

/-! ## Reading merged values -/

theorem readItems_texts (keys : List Text) (n : Nat) (texts : List Text) :
    readItems keys n (texts.map .text) = .ok texts := by
  induction texts generalizing n with
  | nil => rfl
  | cons s texts ih =>
      rw [List.map_cons, readItems, ih]
      rfl

theorem readPaths_directories (keys : List Text) (autoload : List (Text × Path)) :
    readPaths keys (directories autoload) = .ok autoload := by
  rw [directories, readPaths]
  induction autoload with
  | nil => rfl
  | cons first rest ih =>
      rw [List.map_cons, List.mapM_cons, ih]
      rfl

theorem eq_directories_of_readPaths {keys : List Text} {v : Value} {autoload : List (Text × Path)}
    (h : readPaths keys v = .ok autoload) : v = directories autoload := by
  unfold readPaths at h
  split at h
  next entries =>
    rw [directories, Value.table.injEq]
    induction entries generalizing autoload with
    | nil =>
        cases h
        rfl
    | cons first rest ih =>
        obtain ⟨key, v⟩ := first
        rw [List.mapM_cons] at h
        obtain ⟨entry, hentry, h⟩ := exists_of_bind h
        obtain ⟨others, hothers, h⟩ := exists_of_bind h
        obtain ⟨s, htext, rfl⟩ := exists_of_map hentry
        cases h
        cases v with
        | text _ =>
            cases htext
            rw [List.map_cons, ← ih hothers]
        | _ => cases htext
  next => cases h

theorem ofEntries_toEntries (settings : Settings) : ofEntries settings.toEntries = .ok settings := by
  have hautoload (keys : List Text) :
      readPaths keys (.table (settings.autoload.map fun entry => (entry.1, .text entry.2.text))) =
        .ok settings.autoload :=
    readPaths_directories keys settings.autoload
  simp [ofEntries, toEntries, readEntry, hautoload, readText, readTexts, readItems_texts, Except.map,
    bind, Except.bind, pure, Except.pure]

theorem readEntry_of_notMem {v : Value} (h : key ∉ names) :
    readEntry settings key v = .error (.unknownName key) := by
  unfold readEntry
  split
  case h_9 => rfl
  all_goals
    rename_i heq
    exact absurd heq (ofList_ne (by decide) h)

/-- One name that is no setting is enough. -/
theorem exists_of_unknown {entries : Value.Entries} {v : Value} (hmem : (key, v) ∈ entries)
    (hkey : key ∉ names) (start : Settings) :
    ∃ cause, entries.foldlM (fun settings (name, v) => readEntry settings name v) start =
      .error cause := by
  induction entries generalizing start with
  | nil => cases hmem
  | cons first rest ih =>
      obtain ⟨name, u⟩ := first
      rw [List.foldlM_cons]
      dsimp only
      cases hread : readEntry start name u with
      | error cause => exact ⟨cause, rfl⟩
      | ok next =>
          rcases List.mem_cons.mp hmem with heq | hrest
          · cases heq
            rw [readEntry_of_notMem hkey] at hread
            cases hread
          · exact ih hrest next

/-! ## Merging layers -/

theorem merge_text (below : Value) (s : Text) : Value.merge below (.text s) = .text s := by
  cases below <;> rfl

theorem merge_list (below : Value) (items : List Value) :
    Value.merge below (.list items) = .list items := by
  cases below <;> rfl

theorem put_directories (space : Text) (directory : Path) (below : List (Text × Path)) :
    Value.put space (.text directory.text) (below.map fun entry => (entry.1, Value.text entry.2.text)) =
      (Value.put space directory below).map fun entry => (entry.1, Value.text entry.2.text) := by
  induction below with
  | nil => rfl
  | cons first rest ih =>
      rw [List.map_cons, Value.put, Value.put]
      split
      next => rfl
      next =>
        split
        next => rfl
        next => rw [ih, List.map_cons]

theorem merge_directories (below others : List (Text × Path)) :
    Value.merge (directories below) (directories others) = directories (spread below others) := by
  rw [directories, directories, Value.merge, directories, Value.table.injEq]
  induction others generalizing below with
  | nil => rw [List.map_nil, Value.mergeEntries, spread, List.foldl_nil]
  | cons other rest ih =>
      rw [List.map_cons, Value.mergeEntries_cons, spread, List.foldl_cons, ← spread, ← ih,
        ← put_directories]
      have hover (found : Option Value) :
          Value.onto found (.text other.2.text) = .text other.2.text := by
        cases found with
        | none => rfl
        | some found => exact merge_text found _
      rw [hover]

/-- Where values replace those below them. -/
theorem replaced {α : Type} (value : α → Value)
    (hmerge : ∀ below a, Value.merge below (value a) = value a) (given : Option α) (a : α) :
    ((given.map value).map (Value.onto (some (value a)))).or (some (value a)) =
      some (value (given.getD a)) := by
  cases given with
  | none => rfl
  | some above => exact congrArg some (hmerge _ above)

theorem value?_override (settings : Settings) (given : Overrides) (key : Text) :
    ((given.value? key).map (Value.onto (settings.all.value? key))).or (settings.all.value? key) =
      (settings.override given).all.value? key := by
  unfold Overrides.value?
  split
  case h_1 =>
    cases hautoload : given.autoload with
    | none => simp [all, override, hautoload, spread]
    | some others => simp [all, override, hautoload, Value.onto, merge_directories]
  case h_2 | h_5 | h_8 => exact replaced (fun p : Path => .text p.text) (fun _ _ => merge_text _ _) _ _
  case h_3 | h_6 =>
    exact replaced (fun texts : List Text => .list (texts.map .text)) (fun _ _ => merge_list _ _) _ _
  case h_4 | h_7 => exact replaced .text merge_text _ _
  case h_9 => rfl

theorem ascending_spread {below : List (Text × Path)} (h : below.Pairwise (·.1 < ·.1))
    (others : List (Text × Path)) : (spread below others).Pairwise (·.1 < ·.1) := by
  refine List.foldlRecOn others _ h fun entries hentries other _ => ?_
  rw [Value.put_eq_insert]
  exact Entries.insert_pairwise hentries

theorem lookup_spread {others : List (Text × Path)} (h : others.Pairwise (·.1 ≠ ·.1))
    (below : List (Text × Path)) (space : Text) :
    (spread below others).lookup space = (others.lookup space).or (below.lookup space) := by
  induction others generalizing below with
  | nil => rfl
  | cons other rest ih =>
      obtain ⟨hother, hrest⟩ := List.pairwise_cons.mp h
      rw [spread, List.foldl_cons, ← spread, ih hrest, Value.lookup_put, Entries.lookup_cons]
      split
      next heq =>
        have hnone : rest.lookup space = none :=
          Entries.lookup_eq_none fun entry hentry => heq ▸ hother entry hentry
        rw [hnone, Option.none_or, Option.some_or]
      next => rfl

theorem ordered_texts (texts : List Text) : (Value.list (texts.map .text)).Ordered := by
  refine .list fun v hv => ?_
  obtain ⟨s, -, rfl⟩ := List.mem_map.mp hv
  exact .text s

theorem ordered_directories {autoload : List (Text × Path)} (h : autoload.Pairwise (·.1 < ·.1)) :
    (directories autoload).Ordered := by
  refine .table (List.pairwise_map.mpr h) fun entry hentry => ?_
  obtain ⟨source, -, rfl⟩ := List.mem_map.mp hentry
  exact .text _

theorem tidy_toEntries (h : settings.autoload.Pairwise (·.1 < ·.1)) :
    Tidy Value.Ordered settings.toEntries := by
  constructor
  · have hkeys : keys.Pairwise (· < ·) := by
      decide
    exact List.pairwise_map.mp hkeys
  · rw [toEntries]
    simp only [List.forall_mem_cons]
    exact ⟨ordered_directories h, .text _, ordered_texts _, .text _, .text _, ordered_texts _,
      .text _, .text _, nofun⟩

/-- Merging values into those of settings gives the values of settings again. -/
theorem mergeEntries_toEntries {entries : Value.Entries}
    (hautoload : settings.autoload.Pairwise (·.1 < ·.1)) (htidy : Tidy Value.Ordered entries)
    (hgives : Gives entries given) :
    Value.mergeEntries settings.toEntries entries = (settings.override given).toEntries := by
  refine Entries.eq_of_lookup (Value.tidy_merge (tidy_toEntries hautoload) htidy).ascending
    (tidy_toEntries (ascending_spread hautoload _)).ascending fun key => ?_
  rw [Value.lookup_mergeEntries htidy.ascending, hgives key, toEntries_eq, gives_toEntries,
    value?_override, toEntries_eq, gives_toEntries]

end Settings

end SkipChecks
