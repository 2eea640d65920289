import SkipChecks.CommandLine.Basic
import SkipChecks.Helper.Bootstrap
import SkipChecks.Injection.Pass
import SkipChecks.Session
import SkipChecks.Settings.Layers
import SkipChecks.Status

/-!
# Carrying out a command

Every command loads the settings first and then does its work in the tree. What scripts read goes to
the output; status lines go to the messages.
-/

namespace SkipChecks

/-- Why a command did not succeed. -/
inductive CommandFailure
  | work (failure : Failure)
  | settings (fault : SettingsFault)
  /-- What was checked does not hold, for this reason. -/
  | checkFailed (reason : Text)
  deriving DecidableEq

namespace CommandFailure

variable (complaint : Bytes → Text)

def message : CommandFailure → Text
  | work failure => failure.message complaint
  | settings fault => "Configuration error: ".toList ++ fault.message
  | checkFailed reason => reason

/-- A failure as it is reported at the end. A program that gave no routes comes with a hint. -/
def report : CommandFailure → Text
  | work (.routeCommand command fault) =>
    "Route command `".toList ++ showCommand command ++ "` failed: ".toList ++
      fault.message complaint ++
      "\n\nHint: Set routes_command in skipguard.toml if the application is not started with `php artisan`".toList
  | failure => failure.message complaint

end CommandFailure

/-- What a command left behind. -/
structure Execution where
  result : Except CommandFailure Unit
  output : Text
  messages : Text
  tree : Tree

/-- What a command finds around it. -/
structure Surroundings where
  programs : Programs
  disk : Disk
  /-- The time of day, as it goes into manifests. -/
  time : Text
  environment : Environment
  status : Status

namespace Execution

def success (output messages : Text) (t : Tree) : Execution := ⟨.ok (), output, messages, t⟩

def stopped (failure : CommandFailure) (output messages : Text) (t : Tree) : Execution :=
  ⟨.error failure, output, messages, t⟩

def router? (settings : Settings) : Except CommandFailure Router :=
  match Router.ofCommand? settings.routesCommand with
  | some router => .ok router
  | none =>
    .error (.settings (.missing "routes_command".toList
      "Provide the command that prints the route list as JSON".toList))

/-- Writes the manifest. -/
def manifest (around : Surroundings) (settings : Settings) (t : Tree) (output : Option Path) :
    Execution :=
  match router? settings with
  | .error failure => stopped failure [] [] t
  | .ok router =>
    let p := output.getD settings.manifestPath
    match Manifest.generate around.disk around.programs around.time t router p with
    | (.error failure, _, t) => stopped (.work failure) [] [] t
    | (.ok manifest, _, t) =>
      success
        ("Generated route manifest with ".toList ++ Text.ofNat manifest.routeCount.toNat ++
          " routes at ".toList ++ p.text ++ ['\n'])
        (if manifest.isEmpty then
          around.status.warning
            "No named routes found; every route guard will fall back to live lookups".toList
        else [])
        t

def inject (around : Surroundings) (settings : Settings) (t : Tree) (directory : Option Path) :
    Execution :=
  let pass := Injection.pass around.disk settings.selection t (directory.getD settings.testDir)
  let updates := pass.announced.flatMap fun p => "Updated: ".toList ++ p.text ++ ['\n']
  match pass.stop with
  | some failure => stopped (.work failure) updates [] pass.tree
  | none => success (updates ++ "Done injecting skip checks\n".toList) [] pass.tree

/-- The manifest as seen from the directory of the bootstrap file, if it lies below. -/
def manifestFrom? (bootstrap manifest : Path) : Option Path :=
  (manifest.relativeTo? (bootstrap.parent?.getD ⟨[]⟩)).map fun parts => ⟨Path.showParts parts⟩

def appendHelpers (around : Surroundings) (settings : Settings) (t : Tree) (file : Option Path) :
    Execution :=
  let bootstrap := file.getD settings.bootstrapFile
  let standard := Helper.Appender.standard bootstrap
  let (appender, messages) :=
    match manifestFrom? bootstrap settings.manifestPath with
    | some manifest => (standard.reading manifest, [])
    | none =>
      (standard, around.status.warning
        (settings.manifestPath.text ++ " is outside the directory of ".toList ++ bootstrap.text ++
          "; helpers will read the default manifest location".toList))
  match appender.append around.disk t with
  | (.error failure, t) => stopped (.work failure) [] messages t
  | (.ok .appended, t) =>
    success ("Helpers appended to ".toList ++ bootstrap.text ++ ['\n']) messages t
  | (.ok .alreadyApplied, t) =>
    success ("Helpers already appended to ".toList ++ bootstrap.text ++ ", skipping\n".toList)
      messages t

/-- The predicate for what is checked. -/
def predicate : CheckTarget → Predicate
  | .route name => .skipIfRouteMissing name
  | .method method => .skipIfMethodMissing method
  | .starterKit => .skipIfNotStarterKit

/-- What is checked, in words. -/
def subject : CheckTarget → Text
  | .route name => "Route [".toList ++ name ++ [']']
  | .method method =>
    "Method [".toList ++ method.className ++ "::".toList ++ method.name ++ "()]".toList
  | .starterKit => "Starter kit".toList

def check (around : Surroundings) (settings : Settings) (t : Tree) (target : CheckTarget) :
    Execution :=
  match router? settings with
  | .error failure => stopped failure [] [] t
  | .ok router =>
    let session : Session :=
      ⟨t, (Snapshot.ofPath settings.manifestPath).load t |>.2, router,
        .sources (settings.autoloadFrom ⟨['.']⟩), []⟩
    match session.ask around.programs (predicate target) with
    | (.skipped reason, session) => stopped (.checkFailed reason) "no\n".toList [] session.tree
    | (_, session) =>
      success "yes\n".toList (around.status.success (subject target ++ " available".toList))
        session.tree

/-- Carries out a command with given settings. -/
def withSettings (around : Surroundings) (settings : Settings) (t : Tree) : Command → Execution
  | .manifest output => manifest around settings t output
  | .inject directory => inject around settings t directory
  | .appendHelpers file => appendHelpers around settings t file
  | .check target => check around settings t target

/-- Carries out what a command line asks for. -/
def ofInvocation (programs : Programs) (disk : Disk) (time : Text) (environment : Environment)
    (terminal : Bool) (t : Tree) (invocation : Invocation) : Execution :=
  let options := invocation.options
  let status := Status.decide options.noColor options.quiet environment terminal
  match Settings.load t options.config environment with
  | .error fault => stopped (.settings fault) [] [] t
  | .ok settings =>
    withSettings ⟨programs, disk, time, environment, status⟩ settings t invocation.command

def exitCode (execution : Execution) : UInt8 :=
  match execution.result with
  | .ok () => 0
  | .error _ => 1

end Execution

end SkipChecks
