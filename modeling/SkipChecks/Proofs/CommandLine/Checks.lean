import SkipChecks.CommandLine.Execution
import SkipChecks.Proofs.Route.Outputs
import SkipChecks.Proofs.Session.Findings
import SkipChecks.Proofs.Settings.Layering

/-!
# Checks agree

A check is a run of its own, with its own settings and its own session. What it says still depends on
no more than the routes and the sources of the project: runs on different occasions agree as long as
they find the same settings, the same files and the same listing.
-/

namespace SkipChecks

/-- Why a check does not hold. -/
def CheckTarget.reason : CheckTarget → Text
  | .route name => Session.routeReason name
  | .method wanted => Session.methodReason wanted
  | .starterKit => Session.starterKitReason

namespace Execution

/-- The names that a run of the listing program gives. -/
def listedBy : Except Fault Run → List Text
  | .error _ => []
  | .ok run => if run.ending.isSuccess then (Listing.ofOutput? run.output).getD [] else []

/-- The routes of a project: those in its manifest, and where it has none, those that are listed. -/
def knownRoutes (t : Tree) (settings : Settings) (run : Except Fault Run) : List Text :=
  match Manifest.read? t settings.manifestPath with
  | some manifest => if manifest.routes = [] then listedBy run else manifest.routes
  | none => listedBy run

/-- A check says whether something holds, and if not, why. -/
structure Says (execution : Execution) (holds : Bool) (reason : Text) : Prop where
  output_eq : execution.output = if holds then "yes\n".toList else "no\n".toList
  result_eq : execution.result = if holds then .ok () else .error (.checkFailed reason)
  exitCode_eq : execution.exitCode = if holds then 0 else 1

/-- What a check is run with. -/
structure Occasion where
  programs : Programs
  disk : Disk
  time : Text
  environment : Environment
  terminal : Bool
  options : GlobalOptions

/-- A check on some occasion. -/
def Occasion.check (o : Occasion) (t : Tree) (target : CheckTarget) : Execution :=
  ofInvocation o.programs o.disk o.time o.environment o.terminal t ⟨o.options, .check target⟩

/-- The settings that are loaded, and what the listing program does. -/
structure Occasion.Meets (o : Occasion) (t : Tree) (settings : Settings) (run : Except Fault Run) :
    Prop where
  load_eq : Settings.load t o.options.config o.environment = .ok settings
  run_eq : (o.programs settings.routesCommand t).1 = run

variable {o : Occasion} {t : Tree} {settings : Settings} {run : Except Fault Run}

/-! ## The session of a check -/

theorem getD_answer (run : Except Fault Run) :
    (Router.answer run).toOption.getD [] = listedBy run := by
  unfold Router.answer listedBy
  cases run with
  | error fault => rfl
  | ok run =>
      by_cases hsuccess : run.ending.isSuccess
      · simp only [hsuccess, if_true]
        cases Listing.ofOutput? run.output <;> rfl
      · simp [hsuccess, Except.toOption]

/-- An unreadable manifest counts as an empty one. -/
theorem knownRoutes_eq (t : Tree) (settings : Settings) (run : Except Fault Run) :
    knownRoutes t settings run =
      if ((Manifest.read? t settings.manifestPath).getD .empty).isEmpty then listedBy run
      else ((Manifest.read? t settings.manifestPath).getD .empty).routes := by
  unfold knownRoutes
  cases Manifest.read? t settings.manifestPath with
  | none => rfl
  | some manifest => simp [Manifest.isEmpty]

/-- Settings without a listing program do not load. -/
theorem router?_of_load {asked : Option Path} {environment : Environment}
    (hload : Settings.load t asked environment = .ok settings) :
    router? settings = .ok (.command settings.routesCommand none) := by
  have hne : settings.routesCommand ≠ [] := by
    intro hnil
    have hblank : Text.trim (settings.routesCommand.headD []) = [] := by
      rw [hnil]
      rfl
    obtain ⟨-, -, -, hfault⟩ := Settings.exists_of_load hload
    rw [Settings.fault?, if_pos hblank] at hfault
    cases hfault
  simp [router?, Router.ofCommand?, hne]

/-- What a check asks its predicate of. -/
def checked (t : Tree) (settings : Settings) : Session :=
  ⟨t, (Snapshot.ofPath settings.manifestPath).load t |>.2, .command settings.routesCommand none,
    .sources (settings.autoloadFrom ⟨['.']⟩), []⟩

theorem tell_predicate (target : CheckTarget) (holds : Bool) :
    (predicate target).tell holds = if holds then .proceed else .skipped target.reason := by
  cases target <;> rfl

/-- A check says what its predicate is told. -/
theorem says_of_ask (hmeets : o.Meets t settings run) (target : CheckTarget) {s : Session}
    {holds : Bool} (hask : (checked t settings).ask o.programs (predicate target) =
      s.noted ((predicate target).tell holds)) :
    Says (o.check t target) holds target.reason ∧ (o.check t target).tree = s.tree := by
  have hcheck : o.check t target = check
      ⟨o.programs, o.disk, o.time, o.environment,
        Status.decide o.options.noColor o.options.quiet o.environment o.terminal⟩
      settings t target := by
    unfold Occasion.check ofInvocation
    simp only [hmeets.load_eq]
    rfl
  unfold checked at hask
  rw [hcheck, check, router?_of_load hmeets.load_eq]
  simp only [hask, tell_predicate]
  cases holds with
  | true => exact ⟨⟨rfl, rfl, rfl⟩, rfl⟩
  | false => exact ⟨⟨rfl, rfl, rfl⟩, rfl⟩

/-- Names are found among the known routes; only the listing program may change the tree. -/
theorem lookup_checked (hmeets : o.Meets t settings run) :
    (checked t settings).finds o.programs = (knownRoutes t settings run).contains ∧
      (((checked t settings).lookedUp o.programs).tree = t ∨
        ((checked t settings).lookedUp o.programs).tree =
          (o.programs settings.routesCommand t).2) := by
  have hload : (checked t settings).snapshot.load t =
      ((Manifest.read? t settings.manifestPath).getD .empty, (checked t settings).snapshot) :=
    Snapshot.load_again _ t t
  cases hempty : ((Manifest.read? t settings.manifestPath).getD .empty).isEmpty with
  | false =>
      obtain ⟨hfinds, hafter⟩ : (checked t settings).finds o.programs = _ ∧
          (checked t settings).lookedUp o.programs = _ :=
        Session.lookup_of_routes hload hempty
      constructor
      · rw [hfinds, knownRoutes_eq, hempty]
        rfl
      · rw [hafter]
        exact .inl rfl
  | true =>
      obtain ⟨hfinds, hafter⟩ : (∀ name, (checked t settings).finds o.programs name = _) ∧
          (checked t settings).lookedUp o.programs = _ :=
        Session.lookup_of_unlisted hload hempty rfl
      constructor
      · have hrun : (o.programs settings.routesCommand (checked t settings).tree).1 = run :=
          hmeets.run_eq
        funext name
        rw [hfinds, hrun, knownRoutes_eq, hempty, if_pos rfl, ← getD_answer]
        cases (Router.answer run).toOption with
        | none => rfl
        | some names => rfl
      · rw [hafter]
        exact .inr rfl

/-! ## Targets -/

theorem says_of_routes (hmeets : o.Meets t settings run) (target : CheckTarget)
    (hroutes : (predicate target).routes ≠ []) :
    Says (o.check t target)
        ((predicate target).routes.all (knownRoutes t settings run).contains) target.reason ∧
      ((o.check t target).tree = t ∨
        (o.check t target).tree = (o.programs settings.routesCommand t).2) := by
  obtain ⟨hfinds, htree⟩ := lookup_checked hmeets
  have hask : (checked t settings).ask o.programs (predicate target) = _ :=
    Session.ask_eq hroutes
  rw [hfinds] at hask
  obtain ⟨hanswer, hafter⟩ := says_of_ask hmeets target hask
  exact ⟨hanswer, by rwa [hafter]⟩

theorem says_of_method (hmeets : o.Meets t settings run) (method : Method) :
    Says (o.check t (.method method))
        ((Reflection.sources (settings.autoloadFrom ⟨['.']⟩)).hasMethod t method)
        (Session.methodReason method) ∧
      (o.check t (.method method)).tree = t :=
  says_of_ask hmeets (.method method) (Session.demand_eq _ _)

theorem Says.output_eq_yes_iff {execution : Execution} {holds : Bool} {reason : Text}
    (h : Says execution holds reason) : execution.output = "yes\n".toList ↔ holds = true := by
  rw [h.output_eq]
  cases holds with
  | true => simp
  | false => decide

/-- What checks say, for a project whose settings load. A route is there when it is among the known
routes, the starter kit when its routes are there for checks of their own, on whatever occasions,
and a method when the sources declare it, whatever the routes are. No check changes a file, unless
the listing program does. -/
theorem checks_agree (hmeets : o.Meets t settings run) :
    (∀ name, Says (o.check t (.route name)) ((knownRoutes t settings run).contains name)
      (Session.routeReason name)) ∧
    Says (o.check t .starterKit)
      (Session.starterKitRoutes.all (knownRoutes t settings run).contains)
      Session.starterKitReason ∧
    (∀ others : Text → Occasion, (∀ name, (others name).Meets t settings run) →
      ((o.check t .starterKit).output = "yes\n".toList ↔ ∀ name ∈ Session.starterKitRoutes,
        ((others name).check t (.route name)).output = "yes\n".toList)) ∧
    (∀ method, Says (o.check t (.method method))
        ((Reflection.sources (settings.autoloadFrom ⟨['.']⟩)).hasMethod t method)
        (Session.methodReason method) ∧
      (o.check t (.method method)).tree = t) ∧
    ∀ target, (o.check t target).tree = t ∨
      (o.check t target).tree = (o.programs settings.routesCommand t).2 := by
  have hroute {o : Occasion} (hmeets : o.Meets t settings run) (name : Text) :
      Says (o.check t (.route name)) ((knownRoutes t settings run).contains name)
        (Session.routeReason name) := by
    simpa [predicate, Predicate.routes, CheckTarget.reason] using
      (says_of_routes hmeets (.route name) (List.cons_ne_nil _ _)).1
  obtain ⟨hkit, hkitTree⟩ :=
    says_of_routes hmeets .starterKit (List.cons_ne_nil _ _)
  refine ⟨hroute hmeets, hkit, ?_, says_of_method hmeets, ?_⟩
  · intro others hothers
    rw [hkit.output_eq_yes_iff, List.all_eq_true]
    apply forall_congr'
    intro name
    rw [(hroute (hothers name) name).output_eq_yes_iff]
    rfl
  · intro target
    cases target with
    | route name => exact (says_of_routes hmeets (.route name) (List.cons_ne_nil _ _)).2
    | method method => exact .inl (says_of_method hmeets method).2
    | starterKit => exact hkitTree

/-- A manifest that cannot be read leaves it to the listing. -/
theorem checks_agree_broken_manifest :
    let listing : Programs := fun _ t =>
      (.ok ⟨.exited 0, Bytes.ofText "[[\"home\"]]".toList, Bytes.ofText []⟩, t)
    let o : Occasion :=
      ⟨listing, .obliging, [], [("SKIPGUARD_MANIFEST_PATH".toList, "routes.json".toList)], false,
        .none⟩
    let t := Tree.empty.put ["routes.json".toList] (.file (Bytes.ofText "[null,1,".toList))
    let settings := { Settings.standard with manifestPath := ⟨"routes.json".toList⟩ }
    o.Meets t settings (listing [] t).1 ∧
      Says (o.check t (.route "home".toList)) true (Session.routeReason "home".toList) ∧
      Says (o.check t .starterKit) false Session.starterKitReason ∧
      (o.check t .starterKit).tree = t := by
  intro listing o t settings
  have hmeets : o.Meets t settings (listing [] t).1 := ⟨by decide +kernel, rfl⟩
  have hknown : knownRoutes t settings (listing [] t).1 = ["home".toList] := by
    have hread : Manifest.read? t settings.manifestPath = none := by decide +kernel
    have hlisted : listedBy (listing [] t).1 = ["home".toList] := by
      rw [listedBy, Listing.ofOutput?_ofText]
      decide +kernel
    simp only [knownRoutes, hread, hlisted]
  obtain ⟨hroute, hkit, -, -, htree⟩ := checks_agree hmeets
  rw [hknown] at hkit
  have hhome := hroute "home".toList
  rw [hknown] at hhome
  exact ⟨hmeets, hhome, hkit, (htree .starterKit).elim id id⟩

end Execution

end SkipChecks
