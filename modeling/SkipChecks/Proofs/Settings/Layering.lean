import SkipChecks.Proofs.Environment.Layer
import SkipChecks.Proofs.Settings.Override
import SkipChecks.Proofs.Text.ByteOrder
import SkipChecks.Proofs.Toml.Document
import SkipChecks.Proofs.Tree.Hindrance

/-!
# Layers combine key by key

A setting has the value of the highest layer that gives it; the directories of namespaces are taken
together. Other names in the file are refused, and of an environment nothing matters but the texts
that it has for the settings. The file is the one that is named, unless its path gets too long when it
is told from the root on: then another one is taken that lies further up, or none.
-/

namespace SkipChecks.Settings

open SkipChecks.Entries (Tidy)

variable {settings other : Settings} {lower upper : Overrides}

/-- Settings in which each has the value of the highest layer that gives it. Directories are given
namespace by namespace, and listed in the order of the bytes of the namespaces. -/
structure Combines (lower upper : Overrides) (settings : Settings) : Prop where
  manifestPath : settings.manifestPath =
    (upper.manifestPath.or lower.manifestPath).getD standard.manifestPath
  testDir : settings.testDir = (upper.testDir.or lower.testDir).getD standard.testDir
  targetSubdir : settings.targetSubdir =
    (upper.targetSubdir.or lower.targetSubdir).getD standard.targetSubdir
  excludedFiles : settings.excludedFiles =
    (upper.excludedFiles.or lower.excludedFiles).getD standard.excludedFiles
  extension : settings.extension =
    (upper.extension.or lower.extension).getD standard.extension
  bootstrapFile : settings.bootstrapFile =
    (upper.bootstrapFile.or lower.bootstrapFile).getD standard.bootstrapFile
  routesCommand : settings.routesCommand =
    (upper.routesCommand.or lower.routesCommand).getD standard.routesCommand
  autoload : ∀ space, settings.autoload.lookup space =
    ((upper.autoload.getD []).lookup space).or
      (((lower.autoload.getD []).lookup space).or (standard.autoload.lookup space))
  ascending : settings.autoload.Pairwise fun first second =>
    Bytes.numbers first.1 < Bytes.numbers second.1

theorem getD_override {α : Type} (upper lower : Option α) (a : α) :
    upper.getD (lower.getD a) = (upper.or lower).getD a := by
  cases upper <;> rfl

theorem ascending_standard : standard.autoload.Pairwise (·.1 < ·.1) := by
  decide

theorem combines_override (hlower : (lower.autoload.getD []).Pairwise (·.1 < ·.1))
    (hupper : (upper.autoload.getD []).Pairwise (·.1 < ·.1)) :
    Combines lower upper ((standard.override lower).override upper) where
  manifestPath := getD_override _ _ _
  testDir := getD_override _ _ _
  targetSubdir := getD_override _ _ _
  excludedFiles := getD_override _ _ _
  extension := getD_override _ _ _
  bootstrapFile := getD_override _ _ _
  routesCommand := getD_override _ _ _
  autoload := fun space => by
    rw [override, lookup_spread (hupper.imp ne_of_lt), override,
      lookup_spread (hlower.imp ne_of_lt)]
  ascending := by
    have hascending := ascending_spread (ascending_spread ascending_standard (lower.autoload.getD []))
      (upper.autoload.getD [])
    exact hascending.imp Bytes.numbers_lt_iff.mpr

/-- Layers combine in one way only. -/
theorem Combines.eq (h : Combines lower upper settings)
    (hother : Combines lower upper other) : settings = other := by
  have hautoload : settings.autoload = other.autoload :=
    Entries.eq_of_lookup (h.ascending.imp Bytes.numbers_lt_iff.mp)
      (hother.ascending.imp Bytes.numbers_lt_iff.mp)
      fun space => (h.autoload space).trans (hother.autoload space).symm
  cases settings
  cases other
  rw [mk.injEq]
  exact ⟨h.manifestPath.trans hother.manifestPath.symm, h.testDir.trans hother.testDir.symm,
    h.targetSubdir.trans hother.targetSubdir.symm, h.excludedFiles.trans hother.excludedFiles.symm,
    h.extension.trans hother.extension.symm, h.bootstrapFile.trans hother.bootstrapFile.symm,
    h.routesCommand.trans hother.routesCommand.symm, hautoload⟩

theorem ascending_of_gives {entries : Value.Entries} {given : Overrides}
    (htidy : Tidy Value.Ordered entries) (hgives : Gives entries given) :
    (given.autoload.getD []).Pairwise (·.1 < ·.1) := by
  cases hautoload : given.autoload with
  | none => exact .nil
  | some autoload =>
      have hlookup : entries.lookup "autoload".toList = some (directories autoload) := by
        rw [hgives, Overrides.value?]
        simp [hautoload]
      have hascending := (Value.ordered_table_iff.mp (htidy.of_lookup hlookup)).ascending
      rw [List.pairwise_map] at hascending
      exact hascending

/-! ## Files -/

/-- What the file of settings gives: nothing where none is asked for and none is there, and nothing
either where the one that is there is not found under its whole path. -/
inductive FileGives (t : Tree) (asked : Option Path) : Value.Entries → Prop
  | absent (hasked : asked = none) (hfile : ¬ t.isFile standardFile) : FileGives t asked []
  | lost (hfile : t.isFile (asked.getD standardFile))
      (hlost : nearest? t (asked.getD standardFile) = none) : FileGives t asked []
  | read {found : Path} {s : Text} {entries : Value.Entries}
      (hfile : t.isFile (asked.getD standardFile))
      (hfound : nearest? t (asked.getD standardFile) = some found)
      (hread : t.readText found = .ok s)
      (hentries : Toml.Document.ofText? s = some entries) : FileGives t asked entries

variable {t : Tree} {asked : Option Path} {entries : Value.Entries}

/-- What is looked for first is the path itself, as it is told from the root on. -/
theorem exists_candidates_eq {p : Path} (hstart : p.isRooted ∨ t.find? t.home = some .directory) :
    ∃ further, t.candidates p = t.homePath.join p :: further := by
  rw [Tree.candidates]
  by_cases hrooted : p.isRooted
  · refine ⟨[], ?_⟩
    rw [if_pos hrooted, Path.join, if_pos (.inl hrooted)]
  · rw [if_neg hrooted, if_pos (hstart.resolve_left hrooted), Tree.upward, List.range_succ,
      List.reverse_concat, List.map_cons, List.map_cons, List.map_cons, List.take_length]
    exact ⟨_, rfl⟩

/-- A file is found under its path and read, unless the path gets too long. -/
theorem exists_nearest? (hwell : t.WellFormed) {p : Path} {s : Text} (hread : t.readText p = .ok s)
    (hlength : Text.byteLength (t.homePath.join p).text ≤ Path.longest) :
    ∃ found, nearest? t p = some found ∧ t.readText found = .ok s := by
  have hjoin := Tree.readText_join_homePath hwell hread hlength
  have hfile : t.isFile (t.homePath.join p) := by
    rw [Tree.isFile, Tree.readText_eq_ok_iff.mp hjoin]
    rfl
  -- the directories above are not come to, since the first candidate is there
  obtain ⟨further, hcandidates⟩ := exists_candidates_eq (Tree.start_of_readText hread)
  refine ⟨_, ?_, hjoin⟩
  rw [nearest?, hcandidates, List.find?_cons_of_pos hfile]

theorem FileGives.fileLayer_eq (h : FileGives t asked entries) : fileLayer t asked = .ok entries := by
  unfold fileLayer
  dsimp only
  cases h with
  | absent hasked hfile =>
      subst hasked
      exact if_neg hfile
  | lost hfile hlost => rw [if_pos hfile, hlost]
  | read hfile hfound hread hentries =>
      rw [if_pos hfile, hfound]
      dsimp only
      rw [hread]
      dsimp only
      rw [hentries]

theorem fileGives_of_fileLayer (h : fileLayer t asked = .ok entries) : FileGives t asked entries := by
  unfold fileLayer at h
  dsimp only at h
  split at h
  next hfile =>
    split at h
    next hlost =>
      cases h
      exact .lost hfile hlost
    next found hfound =>
      split at h
      next => cases h
      next s hread =>
        split at h
        next read hentries =>
          cases h
          exact .read hfile hfound hread hentries
        next => cases h
  next hfile =>
    cases asked with
    | some p => cases h
    | none =>
        cases h
        exact .absent rfl hfile

theorem FileGives.tidy (h : FileGives t asked entries) : Tidy Value.Ordered entries := by
  cases h with
  | absent | lost => exact .nil
  | read _ _ _ hentries => exact Toml.Document.tidy_ofText? hentries

/-! ## Loading -/

variable {environment otherEnvironment : Environment}

/-- Settings are loaded when the file could be read, the merged values are settings, and these make
sense. -/
theorem exists_of_load {settings : Settings} (h : load t asked environment = .ok settings) :
    ∃ file, fileLayer t asked = .ok file ∧ ofLayers file environment = .ok settings ∧
      settings.fault? = none := by
  obtain ⟨file, hfile, h⟩ := exists_of_bind h
  split at h
  next => cases h
  next read hread =>
    split at h
    next => cases h
    next hfault =>
      cases h
      exact ⟨file, hfile, hread, hfault⟩

theorem load_of_fileLayer (h : fileLayer t asked = .ok entries) (environment : Environment) :
    load t asked environment =
      match ofLayers entries environment with
      | .error cause => .error (.unreadable cause)
      | .ok settings =>
        match settings.fault? with
        | some fault => .error fault
        | none => .ok settings := by
  rw [load, h]
  rfl

theorem ofLayers_of_gives (htidy : Tidy Value.Ordered entries) (hfile : Gives entries lower)
    (hupper : Gives (Environment.layer names environment) upper) :
    ofLayers entries environment = .ok ((standard.override lower).override upper) := by
  rw [ofLayers, mergeEntries_toEntries ascending_standard htidy hfile,
    mergeEntries_toEntries (ascending_spread ascending_standard _)
      (Environment.tidy_layer names environment) hupper, ofEntries_toEntries]

theorem exists_of_layers {key : Text} {v : Value} (htidy : Tidy Value.Ordered entries)
    (hmem : (key, v) ∈ entries) (hkey : key ∉ names) (environment : Environment) :
    ∃ cause, ofLayers entries environment = .error cause := by
  have hfile := (Entries.lookup_eq_some_iff (htidy.ascending.imp ne_of_lt)).mpr hmem
  obtain ⟨u, hu⟩ : ∃ u, (Value.mergeEntries (Value.mergeEntries standard.toEntries entries)
      (Environment.layer names environment)).lookup key = some u := by
    rw [Value.lookup_mergeEntries (Environment.tidy_layer names environment).ascending,
      Value.lookup_mergeEntries htidy.ascending, hfile, Option.map_some, Option.some_or]
    cases (Environment.layer names environment).lookup key <;> exact ⟨_, rfl⟩
  exact exists_of_unknown (Entries.mem_of_lookup hu) hkey standard

/-- What a file with texts only says, told by what is read from it as a table of paths. -/
theorem ofText?_of_readPaths {s : Text} (texts : List (Text × Path))
    (h : (Toml.Document.ofText? s).map (readPaths [] ∘ .table) = some (.ok texts)) :
    Toml.Document.ofText? s = some (texts.map fun entry => (entry.1, .text entry.2.text)) := by
  obtain ⟨entries, hentries, hread⟩ := Option.map_eq_some_iff.mp h
  rw [hentries, Value.table.inj (eq_directories_of_readPaths hread)]

/-- Layers combine key by key: whatever the file and the environment give, as long as it is settings
with values of the right kind, the settings that are loaded are those in which the layers combine,
and they are refused only where they make no sense. A file with another name is refused. Environments
that have the same texts for each setting give the same settings, or the same fault. The file is the
one that its path leads to, unless this gets too long when it is told from the root on. -/
theorem layers_combine (t : Tree) (asked : Option Path) :
    (t.WellFormed → ∀ p s, t.readText p = .ok s →
        Text.byteLength (t.homePath.join p).text ≤ Path.longest →
        ∃ found, nearest? t p = some found ∧ t.readText found = .ok s) ∧
      (∀ entries lower upper environment, FileGives t asked entries → Gives entries lower →
        Gives (Environment.layer names environment) upper →
        ∃ settings, Combines lower upper settings ∧
          (∀ other, Combines lower upper other → other = settings) ∧
          load t asked environment =
            match settings.fault? with
            | some fault => .error fault
            | none => .ok settings) ∧
      (∀ entries key v environment, FileGives t asked entries → (key, v) ∈ entries → key ∉ names →
        ∃ cause, load t asked environment = .error (.unreadable cause)) ∧
      (∀ environment other : Environment,
        (∀ setting ∈ names, environment.textsFor setting = other.textsFor setting) →
        load t asked environment = load t asked other) := by
  refine ⟨fun hwell p s hread hlength => exists_nearest? hwell hread hlength, ?_, ?_, ?_⟩
  · intro entries lower upper environment hfile hlower hupper
    have hcombines := combines_override (ascending_of_gives hfile.tidy hlower)
      (ascending_of_gives (Environment.tidy_layer names environment) hupper)
    refine ⟨_, hcombines, fun other hother => hother.eq hcombines, ?_⟩
    rw [load_of_fileLayer hfile.fileLayer_eq, ofLayers_of_gives hfile.tidy hlower hupper]
  · intro entries key v environment hfile hmem hkey
    obtain ⟨cause, hcause⟩ := exists_of_layers hfile.tidy hmem hkey environment
    refine ⟨cause, ?_⟩
    rw [load_of_fileLayer hfile.fileLayer_eq, hcause]
  · intro environment other hsame
    unfold load ofLayers
    rw [Environment.layer_congr hsame]

/-- A file that sets the extension, under an environment that adds a namespace; a file with a name
that is no setting; and environments that differ in the case of a name, in blanks around it and in
variables that are no settings. -/
theorem layers_combine_extension :
    load ⟨[(["skipguard.toml".toList], .file (Bytes.ofText "extension='inc'".toList))], []⟩ none
        [("Skipguard_Autoload".toList, "\x7bApp=\"lib\"\x7d".toList)] =
        .ok { standard with
          extension := "inc".toList
          autoload := ("App".toList, ⟨"lib".toList⟩) :: standard.autoload } ∧
      (∃ cause, load
          ⟨[(["skipguard.toml".toList], .file (Bytes.ofText "dir='inc'".toList))], []⟩ none [] =
        .error (.unreadable cause)) ∧
      load .empty none
          [("TOKEN".toList, "x".toList), (" skipguard_EXTENSION".toList, "inc".toList)] =
        load .empty none [("SKIPGUARD_EXTENSION".toList, "inc".toList)] := by
  have hfile (content : Text) {entries : Value.Entries}
      (hread : Tree.readText ⟨[(["skipguard.toml".toList], .file (Bytes.ofText content))], []⟩
        standardFile = .ok content)
      (hentries : Toml.Document.ofText? content = some entries) :
      FileGives ⟨[(["skipguard.toml".toList], .file (Bytes.ofText content))], []⟩ none entries := by
    have hwell : Tree.WellFormed
        ⟨[(["skipguard.toml".toList], .file (Bytes.ofText content))], []⟩ := by
      refine ⟨List.pairwise_singleton _ _, fun entry hentry => ?_⟩
      obtain rfl := List.mem_singleton.mp hentry
      exact ⟨⟨_, rfl, by decide⟩, rfl⟩
    have hlength : Text.byteLength ((Path.mk ['/']).join standardFile).text ≤ Path.longest := by
      decide
    obtain ⟨found, hfound, hsame⟩ :=
      (layers_combine _ none).1 hwell standardFile content hread hlength
    have hisFile := Tree.readText_eq_ok_iff.mp hread
    exact .read (by rw [Tree.isFile, Option.getD_none, hisFile]; rfl) hfound hsame hentries
  refine ⟨?_, ?_, ?_⟩
  · have hentries : Toml.Document.ofText? "extension='inc'".toList =
        some [("extension".toList, .text "inc".toList)] :=
      ofText?_of_readPaths [("extension".toList, ⟨"inc".toList⟩)] (by decide +kernel)
    have hlower : Gives [("extension".toList, .text "inc".toList)]
        ⟨none, none, none, none, some "inc".toList, none, none, none⟩ :=
      gives_toEntries ⟨none, none, none, none, some "inc".toList, none, none, none⟩
    have hsetting : Environment.settingOf? names "Skipguard_Autoload".toList =
        some "autoload".toList := by
      decide +kernel
    have hvalue : Environment.ofText "\x7bApp=\"lib\"\x7d".toList =
        directories [("App".toList, ⟨"lib".toList⟩)] :=
      eq_directories_of_readPaths (by decide +kernel : readPaths [] _ = _)
    have hupper : Gives
        (Environment.layer names [("Skipguard_Autoload".toList, "\x7bApp=\"lib\"\x7d".toList)])
        ⟨none, none, none, none, none, none, none, some [("App".toList, ⟨"lib".toList⟩)]⟩ := by
      rw [Environment.layer_eq, List.foldl_cons, List.foldl_nil, Environment.step, hsetting]
      dsimp only
      rw [hvalue]
      exact gives_toEntries
        ⟨none, none, none, none, none, none, none, some [("App".toList, ⟨"lib".toList⟩)]⟩
    obtain ⟨settings, -, hone, hload⟩ := (layers_combine _ none).2.1 _ _ _ _
      (hfile "extension='inc'".toList (by decide +kernel) hentries) hlower hupper
    have hsettings := hone _ (combines_override .nil (List.pairwise_singleton _ _))
    rw [hload, ← hsettings]
    decide +kernel
  · have hentries : Toml.Document.ofText? "dir='inc'".toList =
        some [("dir".toList, .text "inc".toList)] :=
      ofText?_of_readPaths [("dir".toList, ⟨"inc".toList⟩)] (by decide +kernel)
    exact (layers_combine _ none).2.2.1 _ "dir".toList _ []
      (hfile "dir='inc'".toList (by decide +kernel) hentries) List.mem_cons_self (by decide)
  · exact (layers_combine _ none).2.2.2 _ _ (by decide +kernel)

/-- A variable counts although there is a blank behind its name. A file that is there and can be read
does not count when its path is too long once it is told from the root on. -/
theorem blank_name_counts_and_long_path_does_not :
    (¬ ∀ environment other : Environment,
      (∀ setting ∈ names,
        environment.filter (fun given => given.1.map Char.toLower = "skipguard_".toList ++ setting) =
          other.filter fun given => given.1.map Char.toLower = "skipguard_".toList ++ setting) →
      load .empty none environment = load .empty none other) ∧
    let home : Location := ["home".toList]
    let t : Tree := ⟨[(home, .directory),
      (home ++ ["c.toml".toList], .file (Bytes.ofText "extension='inc'".toList))], home⟩
    let p : Path := .behindDots 2043 "c.toml".toList
    t.readText p = .ok "extension='inc'".toList ∧
      Toml.Document.ofText? "extension='inc'".toList =
        some [("extension".toList, .text "inc".toList)] ∧
      load t (some p) [] = .ok standard := by
  refine ⟨fun h => ?_, ?_, ?_, ?_⟩
  · have hsame := h [("SKIPGUARD_EXTENSION ".toList, "inc".toList)] [] (by decide +kernel)
    revert hsame
    decide +kernel
  · decide +kernel
  · exact ofText?_of_readPaths [("extension".toList, ⟨"inc".toList⟩)] (by decide +kernel)
  · decide +kernel

end SkipChecks.Settings
