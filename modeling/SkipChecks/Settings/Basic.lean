import SkipChecks.Injection.Selection
import SkipChecks.Reflection.Autoload
import SkipChecks.Text.Blank

/-!
# Settings

What a project can set, what holds where it sets nothing, and what does not make sense.
-/

namespace SkipChecks

/-- What a project can set. -/
structure Settings where
  /-- Where the manifest is written and looked up. -/
  manifestPath : Path
  /-- Where tests lie that get guards. -/
  testDir : Path
  targetSubdir : Text
  excludedFiles : List Text
  extension : Text
  /-- The file that helpers are appended to. -/
  bootstrapFile : Path
  /-- The command line that lists the routes. -/
  routesCommand : List Text
  /-- The directories of namespaces. -/
  autoload : List (Text × Path)
  deriving DecidableEq, Repr

/-- Why settings cannot be read. -/
inductive Settings.Cause
  /-- The value at a path of keys is of the wrong kind. -/
  | wrongKind (keys : List Text)
  /-- No setting has this name. -/
  | unknownName (name : Text)
  /-- The file cannot be read at all. -/
  | file (words : Text)
  deriving DecidableEq, Repr

/-- Why there are no settings. -/
inductive SettingsFault
  | fileNotFound (path : Path)
  | unreadable (cause : Settings.Cause)
  | missing (setting hint : Text)
  | senseless (setting value hint : Text)
  deriving DecidableEq, Repr

def Settings.Cause.message : Settings.Cause → Text
  | wrongKind keys => "wrong kind of value for ".toList ++ Text.join ['.'] keys
  | unknownName name => "unknown setting ".toList ++ name
  | file words => words

def SettingsFault.message : SettingsFault → Text
  | fileNotFound path =>
    "Config file not found: ".toList ++ path.text ++
      "\n\nHint: Create a skipguard.toml file or drop --config".toList
  | unreadable cause =>
    "Invalid configuration: ".toList ++ cause.message ++
      "\n\nHint: Check skipguard.toml syntax and SKIPGUARD_* variables".toList
  | missing setting hint =>
    "Missing required field: ".toList ++ setting ++ "\n\nHint: ".toList ++ hint
  | senseless setting value hint =>
    "Invalid value for '".toList ++ setting ++ "': ".toList ++ value ++ "\n\nHint: ".toList ++ hint

namespace Settings

def standard : Settings where
  manifestPath := ⟨"tests/Browser/.route-manifest.json".toList⟩
  testDir := ⟨"tests/Browser".toList⟩
  targetSubdir := Selection.standard.targetSubdir
  excludedFiles := Selection.standard.excludedFiles
  extension := Selection.standard.extension
  bootstrapFile := ⟨"tests/Pest.php".toList⟩
  routesCommand := ["php".toList, "artisan".toList, "route:list".toList, "--json".toList]
  autoload :=
    [("App\\".toList, ⟨"app/".toList⟩),
      ("Database\\Factories\\".toList, ⟨"database/factories/".toList⟩),
      ("Database\\Seeders\\".toList, ⟨"database/seeders/".toList⟩),
      ("Tests\\".toList, ⟨"tests/".toList⟩)]

/-- Which files get guards. -/
def selection (settings : Settings) : Selection :=
  ⟨settings.targetSubdir, settings.excludedFiles, settings.extension⟩

/-- Where classes are found below a root. -/
def autoloadFrom (settings : Settings) (root : Path) : Autoload :=
  Autoload.ofNamespaces root settings.autoload

/-- What does not make sense, the first such thing. -/
def fault? (settings : Settings) : Option SettingsFault :=
  if Text.trim (settings.routesCommand.headD []) = [] then
    some (.missing "routes_command".toList
      "Provide the command that prints the route list as JSON, e.g. [\"php\", \"artisan\", \"route:list\", \"--json\"]".toList)
  else if settings.extension = [] then
    some (.missing "extension".toList "Set extension = \"php\"".toList)
  else if settings.extension.head? = some '.' then
    some (.senseless "extension".toList settings.extension
      "Give the extension without the leading dot".toList)
  else if settings.targetSubdir = [] then
    some (.missing "target_subdir".toList
      "Set target_subdir to the directory holding browser tests, e.g. \"Browser\"".toList)
  else if settings.targetSubdir.any fun c => c == '/' || c == '\\' then
    some (.senseless "target_subdir".toList settings.targetSubdir
      "target_subdir is a single directory name, not a path".toList)
  else none

end Settings

end SkipChecks
