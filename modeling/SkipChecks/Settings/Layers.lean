import SkipChecks.Environment.Layer
import SkipChecks.Settings.Basic
import SkipChecks.Toml.Document
import SkipChecks.Tree.Resolve

/-!
# Layers of settings

Settings come from three layers: the stock settings, a file, and the environment. They are merged
key by key before anything is made of them. The merged values are then read in ascending order of
their keys, and the first that cannot be read is told.
-/

namespace SkipChecks.Settings

def names : List Text :=
  ["manifest_path", "test_dir", "target_subdir", "excluded_files", "extension", "bootstrap_file",
    "routes_command", "autoload"].map String.toList

/-- Settings as the values of a layer. -/
def toEntries (settings : Settings) : Value.Entries :=
  [("autoload".toList,
      .table (settings.autoload.map fun (space, directory) => (space, .text directory.text))),
    ("bootstrap_file".toList, .text settings.bootstrapFile.text),
    ("excluded_files".toList, .list (settings.excludedFiles.map .text)),
    ("extension".toList, .text settings.extension),
    ("manifest_path".toList, .text settings.manifestPath.text),
    ("routes_command".toList, .list (settings.routesCommand.map .text)),
    ("target_subdir".toList, .text settings.targetSubdir),
    ("test_dir".toList, .text settings.testDir.text)]

def readText (keys : List Text) : Value → Except Cause Text
  | .text s => .ok s
  | _ => .error (.wrongKind keys)

/-- Reads texts, of which the first has this number. -/
def readItems (keys : List Text) : Nat → List Value → Except Cause (List Text)
  | _, [] => .ok []
  | n, v :: vs => do
    let s ← readText (keys ++ [Text.ofNat n]) v
    return s :: (← readItems keys (n + 1) vs)

def readTexts (keys : List Text) : Value → Except Cause (List Text)
  | .list items => readItems keys 0 items
  | _ => .error (.wrongKind keys)

/-- Reads a path for each key of a table. -/
def readPaths (keys : List Text) : Value → Except Cause (List (Text × Path))
  | .table entries =>
    entries.mapM fun (key, v) => (readText (keys ++ [key]) v).map fun s => (key, Path.mk s)
  | _ => .error (.wrongKind keys)

/-- Settings with one of them read from a value. -/
def readEntry (settings : Settings) (name : Text) (v : Value) : Except Cause Settings :=
  match String.ofList name with
  | "autoload" => (readPaths [name] v).map fun autoload => { settings with autoload }
  | "bootstrap_file" => (readText [name] v).map fun s => { settings with bootstrapFile := ⟨s⟩ }
  | "excluded_files" =>
    (readTexts [name] v).map fun excludedFiles => { settings with excludedFiles }
  | "extension" => (readText [name] v).map fun extension => { settings with extension }
  | "manifest_path" => (readText [name] v).map fun s => { settings with manifestPath := ⟨s⟩ }
  | "routes_command" =>
    (readTexts [name] v).map fun routesCommand => { settings with routesCommand }
  | "target_subdir" => (readText [name] v).map fun targetSubdir => { settings with targetSubdir }
  | "test_dir" => (readText [name] v).map fun s => { settings with testDir := ⟨s⟩ }
  | _ => .error (.unknownName name)

/-- The settings that merged values stand for. -/
def ofEntries (entries : Value.Entries) : Except Cause Settings :=
  entries.foldlM (fun settings (name, v) => readEntry settings name v) standard

/-- The settings that a file and an environment stand for. -/
def ofLayers (file : Value.Entries) (environment : Environment) : Except Cause Settings :=
  ofEntries
    (Value.mergeEntries (Value.mergeEntries standard.toEntries file)
      (Environment.layer names environment))

/-- The file that is read where none is asked for. -/
def standardFile : Path := ⟨"skipguard.toml".toList⟩

/-- The file that a path names: in the working directory, or else in the nearest directory above it
that has one. -/
def nearest? (t : Tree) (p : Path) : Option Path := (t.candidates p).find? t.isFile

/-- The values in the file of settings. One that is asked for must exist. It is looked for under its
whole path then, and there are no values where nothing is found. -/
def fileLayer (t : Tree) (asked : Option Path) : Except SettingsFault Value.Entries :=
  let p := asked.getD standardFile
  if t.isFile p then
    match nearest? t p with
    | none => .ok []
    | some found =>
      match t.readText found with
      | .error fault => .error (.unreadable (.file fault.message))
      | .ok s =>
        match Toml.Document.ofText? s with
        | some entries => .ok entries
        | none => .error (.unreadable (.file "invalid syntax".toList))
  else
    match asked with
    | some p => .error (.fileNotFound p)
    | none => .ok []

/-- The settings of a project. -/
def load (t : Tree) (asked : Option Path) (environment : Environment) :
    Except SettingsFault Settings := do
  let file ← fileLayer t asked
  match ofLayers file environment with
  | .error cause => .error (.unreadable cause)
  | .ok settings =>
    match settings.fault? with
    | some fault => .error fault
    | none => .ok settings

end SkipChecks.Settings
