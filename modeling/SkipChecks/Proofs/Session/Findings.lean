import SkipChecks.Proofs.Session.Lookup

/-!
# What a session finds

A lookup leaves the same session behind whatever name is looked up, and once a name was found, the
next lookup finds the same names and leaves the session as it is. So a predicate about several routes
asks as much of the manifest and of the router as one lookup does.
-/

namespace SkipChecks

/-- The routes that a predicate looks up, if it looks up any. -/
def Predicate.routes : Predicate → List Text
  | routeExists name | skipIfRouteMissing name | skipWhenRouteMissing name => [name]
  | isStarterKitProject | skipIfNotStarterKit => Session.starterKitRoutes
  | methodExists _ | skipIfMethodMissing _ | skipIfContentMissing _ _ | skipWhenMethodMissing _ => []

/-- What a test is told when what it asks about is there, or is not. -/
def Predicate.tell (holds : Bool) : Predicate → Answer
  | routeExists _ | methodExists _ | isStarterKitProject => .holds holds
  | skipIfRouteMissing name => if holds then .proceed else .skipped (Session.routeReason name)
  | skipIfMethodMissing method => if holds then .proceed else .skipped (Session.methodReason method)
  | skipIfNotStarterKit => if holds then .proceed else .skipped Session.starterKitReason
  | skipIfContentMissing _ _ => .proceed
  | skipWhenRouteMissing _ | skipWhenMethodMissing _ => .holds !holds

/-- Why the test is skipped, if it is. -/
def Answer.reasons : Answer → List Text
  | holds _ | proceed => []
  | skipped reason => [reason]

namespace Session

variable (programs : Programs) (s : Session)

/-- An answer, recorded in the session when it skips the test. -/
def noted (answer : Answer) : Answer × Session :=
  (answer, { s with marks := s.marks ++ answer.reasons })

/-- The manifest that is loaded, or will be. -/
def manifest : Manifest := (s.snapshot.load s.tree).1

/-- Whether a lookup finds a name now. -/
def finds (name : Text) : Bool :=
  if s.manifest.isEmpty then (s.router.has programs s.tree name).1 else s.manifest.contains name

/-- What a lookup leaves behind. -/
def lookedUp : Session :=
  if s.manifest.isEmpty then
    { s with
      snapshot := (s.snapshot.load s.tree).2
      router := (s.router.names programs s.tree).2.1
      tree := (s.router.names programs s.tree).2.2 }
  else { s with snapshot := (s.snapshot.load s.tree).2 }

variable {programs s}

theorem routeExists_eq (name : Text) :
    s.routeExists programs name = (s.finds programs name, s.lookedUp programs) := by
  unfold routeExists finds lookedUp
  have hload : s.manifest = (s.snapshot.load s.tree).1 := rfl
  rw [hload]
  split
  next manifest snapshot heq =>
    rw [heq]
    dsimp only
    by_cases hempty : manifest.isEmpty
    · have hhas : s.router.has programs s.tree name =
          ((s.router.has programs s.tree name).1, (s.router.names programs s.tree).2) := by
        unfold Router.has
        split <;> simp [*]
      rw [if_pos hempty, if_pos hempty, if_pos hempty, hhas]
    · simp [hempty]

/-- A name is found with the router only when that lists its routes, and then it lists them again. -/
theorem again_of_finds {name : Text} (h : s.finds programs name = true) :
    (s.lookedUp programs).finds programs = s.finds programs ∧
      (s.lookedUp programs).lookedUp programs = s.lookedUp programs := by
  have hmanifest (t : Tree) : ((s.snapshot.load s.tree).2.load t).1 = s.manifest := by
    rw [Snapshot.load_again]
    rfl
  by_cases hempty : s.manifest.isEmpty
  · -- the router answers, and it has listed its routes
    obtain ⟨names, router, t, hnames⟩ : ∃ names router t,
        s.router.names programs s.tree = (.ok names, router, t) := by
      rw [finds, if_pos hempty, Router.has] at h
      split at h
      next names router t hnames => exact ⟨names, router, t, hnames⟩
      next => cases h
    have hagain := Router.names_again hnames t
    have hlooked : s.lookedUp programs =
        ⟨t, (s.snapshot.load s.tree).2, router, s.reflection, s.marks⟩ := by
      rw [lookedUp, if_pos hempty, hnames]
    have hkept : (s.lookedUp programs).manifest = s.manifest := by
      rw [hlooked]
      exact hmanifest t
    constructor
    · funext other
      rw [finds, finds, hkept, if_pos hempty, if_pos hempty, hlooked, Router.has, Router.has, hagain,
        hnames]
    · rw [lookedUp, hkept, if_pos hempty, hlooked]
      simp only [Snapshot.load_again, hagain]
  · have hlooked : s.lookedUp programs = { s with snapshot := (s.snapshot.load s.tree).2 } := by
      rw [lookedUp, if_neg hempty]
    have hkept : (s.lookedUp programs).manifest = s.manifest := by
      rw [hlooked]
      exact hmanifest s.tree
    constructor
    · funext other
      rw [finds, finds, hkept, if_neg hempty, if_neg hempty]
    · rw [lookedUp, hkept, if_neg hempty, hlooked]
      simp only [Snapshot.load_again]

theorem allExist_eq {names : List Text} (hne : names ≠ []) :
    s.allExist programs names = (names.all (s.finds programs), s.lookedUp programs) := by
  induction names generalizing s with
  | nil => exact absurd rfl hne
  | cons name names ih =>
      unfold allExist
      rw [routeExists_eq, List.all_cons]
      cases hfinds : s.finds programs name with
      | false => rfl
      | true =>
          obtain ⟨hagain, hlooked⟩ := again_of_finds hfinds
          cases names with
          | nil => rfl
          | cons next names =>
              dsimp only
              rw [ih (List.cons_ne_nil next names), hagain, hlooked]
              rfl

/-! ## Where names are looked up -/

section Lookups

variable {line : List Text} {manifest : Manifest} {next : Snapshot}

theorem lookup_of_routes (hload : s.snapshot.load s.tree = (manifest, next))
    (hroutes : manifest.isEmpty = false) :
    s.finds programs = manifest.contains ∧ s.lookedUp programs = { s with snapshot := next } := by
  have hmanifest : s.manifest = manifest := by rw [Session.manifest, hload]
  constructor
  · funext name
    simp [finds, hmanifest, hroutes]
  · simp [lookedUp, hmanifest, hroutes, hload]

theorem lookup_of_listed {names : List Text} (hload : s.snapshot.load s.tree = (manifest, next))
    (hempty : manifest.isEmpty = true) (hrouter : s.router = .command line (some names)) :
    s.finds programs = names.contains ∧ s.lookedUp programs = { s with snapshot := next } := by
  have hmanifest : s.manifest = manifest := by rw [Session.manifest, hload]
  constructor
  · funext name
    simp [finds, hmanifest, hempty, hrouter, Router.has, Router.names]
  · simp [lookedUp, hmanifest, hempty, hload, hrouter, Router.names]

/-- The program is run once. What it lists is kept, and a failure is not. -/
theorem lookup_of_unlisted (hload : s.snapshot.load s.tree = (manifest, next))
    (hempty : manifest.isEmpty = true) (hrouter : s.router = .command line none) :
    (∀ name, s.finds programs name =
      (Router.answer (programs line s.tree).1).toOption.any (·.contains name)) ∧
    s.lookedUp programs = { s with
      tree := (programs line s.tree).2
      snapshot := next
      router := .command line (Router.answer (programs line s.tree).1).toOption } := by
  have hmanifest : s.manifest = manifest := by rw [Session.manifest, hload]
  simp only [finds, lookedUp, hmanifest, hempty, hload, hrouter, if_true, Router.has, Router.names]
  cases Router.answer (programs line s.tree).1 with
  | ok names => exact ⟨fun name => rfl, rfl⟩
  | error fault => exact ⟨fun name => rfl, rfl⟩

end Lookups

/-! ## Predicates -/

theorem noted_holds (value : Bool) : s.noted (.holds value) = (.holds value, s) := by
  simp [noted, Answer.reasons]

theorem demand_eq (reason : Text) (found : Bool) :
    demand reason (found, s) = s.noted (if found then .proceed else .skipped reason) := by
  cases found <;> simp [demand, noted, Answer.reasons]

/-- A predicate about routes is told by what lookups find, and leaves what a lookup leaves. -/
theorem ask_eq {question : Predicate} (hroutes : question.routes ≠ []) :
    s.ask programs question =
      (s.lookedUp programs).noted (question.tell (question.routes.all (s.finds programs))) := by
  have hone (name : Text) : [name].all (s.finds programs) = s.finds programs name := by simp
  have hkit : s.allExist programs starterKitRoutes =
      (starterKitRoutes.all (s.finds programs), s.lookedUp programs) :=
    allExist_eq (List.cons_ne_nil _ _)
  cases question with
  | routeExists name =>
      rw [ask, routeExists_eq, Predicate.routes, hone]
      exact (noted_holds _).symm
  | isStarterKitProject =>
      rw [ask, hkit]
      exact (noted_holds _).symm
  | skipIfRouteMissing name =>
      rw [ask, routeExists_eq, Predicate.routes, hone]
      exact demand_eq _ _
  | skipIfNotStarterKit =>
      rw [ask, hkit]
      exact demand_eq _ _
  | skipWhenRouteMissing name =>
      rw [ask, routeExists_eq, Predicate.routes, hone]
      exact (noted_holds _).symm
  | methodExists method => exact absurd rfl hroutes
  | skipIfMethodMissing method => exact absurd rfl hroutes
  | skipIfContentMissing url expected => exact absurd rfl hroutes
  | skipWhenMethodMissing method => exact absurd rfl hroutes

/-- Any other predicate looks nothing up. -/
theorem ask_of_routes_eq_nil {question : Predicate} (hroutes : question.routes = []) :
    ∃ holds, ∀ programs, s.ask programs question = s.noted (question.tell holds) := by
  cases question with
  | methodExists method => exact ⟨_, fun _ => (noted_holds _).symm⟩
  | skipIfMethodMissing method => exact ⟨_, fun _ => demand_eq _ _⟩
  | skipIfContentMissing url expected =>
      exact ⟨true, fun _ => by simp [ask, noted, Predicate.tell, Answer.reasons]⟩
  | skipWhenMethodMissing method => exact ⟨s.methodExists method, fun _ => (noted_holds _).symm⟩
  | routeExists name => cases hroutes
  | isStarterKitProject => cases hroutes
  | skipIfRouteMissing name => cases hroutes
  | skipIfNotStarterKit => cases hroutes
  | skipWhenRouteMissing name => cases hroutes

end Session

end SkipChecks
