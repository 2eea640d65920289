import SkipChecks.Proofs.Manifest.RoundTrip
import SkipChecks.Session

/-!
# Routes looked up in a manifest and with the router

A session whose manifest was generated from its router answers alike in both ways: the manifest has
just the names that the router lists, and where there are none, the router has none either. What a
session is asked before does not matter.
-/

namespace SkipChecks

/-! ## The router -/

/-- A router that has listed its routes lists them from there on, and touches nothing. -/
theorem Router.names_again {programs : Programs} {t u : Tree} {router next : Router}
    {names : List Text} (h : router.names programs t = (.ok names, next, u)) (v : Tree) :
    next.names programs v = (.ok names, next, v) := by
  cases router with
  | fixed listed =>
      cases h
      rfl
  | command line answered =>
      cases answered with
      | some listed =>
          cases h
          rfl
      | none =>
          rw [Router.names] at h
          split at h
          split at h
          next =>
            cases h
            rfl
          next => cases h

theorem Manifest.mem_routes_ofNames {time name : Text} {names : List Text} :
    name ∈ (ofNames time names).routes ↔ name ∈ names :=
  List.mem_eraseDups

theorem Snapshot.load_again (snapshot : Snapshot) (t u : Tree) :
    (snapshot.load t).2.load u = snapshot.load t := by
  rcases snapshot with ⟨p, _ | manifest⟩ <;> rfl

namespace Session

variable {programs : Programs} {names : List Text} {s : Session}

/-! ## Sessions that know their routes -/

/-- The router lists these names without asking a program, and the manifest that is loaded, or will
be, has just them. -/
structure Settled (programs : Programs) (names : List Text) (s : Session) : Prop where
  lists : ∀ t, s.router.names programs t = (.ok names, s.router, t)
  mem_routes_iff : ∀ name, name ∈ (s.snapshot.load s.tree).1.routes ↔ name ∈ names

/-- The session with its manifest loaded. -/
def warmed (s : Session) : Session := { s with snapshot := (s.snapshot.load s.tree).2 }

namespace Settled

theorem has_eq (h : Settled programs names s) (t : Tree) (name : Text) :
    s.router.has programs t name = (names.contains name, s.router, t) := by
  rw [Router.has, h.lists]

theorem contains_eq (h : Settled programs names s) (name : Text) :
    (s.snapshot.load s.tree).1.contains name = names.contains name := by
  rw [Bool.eq_iff_iff, Manifest.contains, List.contains_iff_mem, List.contains_iff_mem]
  exact h.mem_routes_iff name

/-- Whichever way the routes are looked up, the answer is what the router lists. -/
theorem routeExists_eq (h : Settled programs names s) (name : Text) :
    s.routeExists programs name = (names.contains name, s.warmed) := by
  rw [routeExists]
  split
  next manifest snapshot hload =>
    have hfst : (s.snapshot.load s.tree).1 = manifest := by rw [hload]
    have hsnd : (s.snapshot.load s.tree).2 = snapshot := by rw [hload]
    split
    · -- no route in the manifest: the router answers, and lists what it listed before
      rw [h.has_eq]
      simp only [warmed, hsnd]
    · rw [← hfst, h.contains_eq]
      simp only [warmed, hsnd]

theorem warmed (h : Settled programs names s) : Settled programs names s.warmed where
  lists := h.lists
  mem_routes_iff name := by
    have hload : s.warmed.snapshot.load s.warmed.tree = s.snapshot.load s.tree :=
      s.snapshot.load_again s.tree s.tree
    rw [hload]
    exact h.mem_routes_iff name

theorem exists_of_allExist (h : Settled programs names s) (routes : List Text) :
    ∃ u, s.allExist programs routes = (routes.all names.contains, u) ∧
      Settled programs names u := by
  induction routes generalizing s with
  | nil => exact ⟨s, rfl, h⟩
  | cons name routes ih =>
      rw [Session.allExist, h.routeExists_eq, List.all_cons]
      cases names.contains name with
      | true => exact ih h.warmed
      | false => exact ⟨s.warmed, rfl, h.warmed⟩

theorem demand {outcome : Bool × Session} (h : Settled programs names outcome.2)
    (reason : Text) : Settled programs names (demand reason outcome).2 := by
  obtain ⟨_ | _, u⟩ := outcome
  · exact ⟨h.lists, h.mem_routes_iff⟩
  · exact h

/-- No question changes what a session knows. -/
theorem ask (h : Settled programs names s) (question : Predicate) :
    Settled programs names (s.ask programs question).2 := by
  have hlookup (name : Text) : Settled programs names (s.routeExists programs name).2 := by
    rw [h.routeExists_eq]
    exact h.warmed
  have hkit : Settled programs names (s.allExist programs starterKitRoutes).2 := by
    obtain ⟨u, hall, hu⟩ := h.exists_of_allExist starterKitRoutes
    rw [hall]
    exact hu
  cases question with
  | routeExists name => exact hlookup name
  | methodExists method => exact h
  | isStarterKitProject => exact hkit
  | skipIfRouteMissing name => exact (hlookup name).demand _
  | skipIfMethodMissing method => exact demand h _
  | skipIfNotStarterKit => exact hkit.demand _
  | skipIfContentMissing url expected => exact h
  | skipWhenRouteMissing name => exact hlookup name
  | skipWhenMethodMissing method => exact h

end Settled

/-! ## Runs of questions -/

/-- The session after these questions, one after the other. -/
def asked (programs : Programs) (s : Session) (questions : List Predicate) : Session :=
  questions.foldl (fun s question => (s.ask programs question).2) s

theorem Settled.asked (h : Settled programs names s) (questions : List Predicate) :
    Settled programs names (s.asked programs questions) := by
  induction questions generalizing s with
  | nil => exact h
  | cons question questions ih => exact ih (h.ask question)

/-- A fresh snapshot of a manifest that was generated from the router knows the routes, as long as
the file holds what was put there. -/
theorem settled_of_generate {disk : Disk} {time : Text} {t middle u : Tree} {router next : Router}
    {output : Path} {manifest : Manifest} (hnames : (router.names programs t).1 = .ok names)
    (hgenerate : Manifest.generate disk programs time t router output = (.ok manifest, next, middle))
    (hread : u.read output = middle.read output) (reflection : Reflection) (marks : List Text) :
    Settled programs names ⟨u, .ofPath output, next, reflection, marks⟩ := by
  obtain ⟨listed, between, hlisted, rfl, hfile⟩ := Manifest.exists_of_generate hgenerate
  obtain rfl : listed = names := by
    rw [hlisted] at hnames
    exact Except.ok.inj hnames
  refine ⟨Router.names_again hlisted, fun name => ?_⟩
  have hload : ((Snapshot.ofPath output).load u).1 = Manifest.ofNames time listed := by
    simp only [Snapshot.load, Snapshot.ofPath, Manifest.read?_of_read (hread.trans hfile),
      Option.getD_some]
  rw [hload]
  exact Manifest.mem_routes_ofNames

/-- A session with a fresh snapshot of a generated manifest and the router it was generated from:
after any questions, a name is found where the router has it, that is where the router lists it, and
the starter kit is found where the router lists its routes. -/
theorem lookups_agree {disk : Disk} {time : Text} {t middle u : Tree} {router next : Router}
    {output : Path} {manifest : Manifest} (hnames : (router.names programs t).1 = .ok names)
    (hgenerate : Manifest.generate disk programs time t router output = (.ok manifest, next, middle))
    (hread : u.read output = middle.read output) (reflection : Reflection) (marks : List Text)
    (questions : List Predicate) :
    let s := asked programs ⟨u, .ofPath output, next, reflection, marks⟩ questions
    (∀ name, (s.ask programs (.routeExists name)).1 = .holds (names.contains name) ∧
      (s.router.has programs s.tree name).1 = names.contains name) ∧
    (s.ask programs .isStarterKitProject).1 = .holds (starterKitRoutes.all names.contains) := by
  intro s
  have hs : Settled programs names s :=
    (settled_of_generate hnames hgenerate hread reflection marks).asked questions
  refine ⟨fun name => ⟨?_, ?_⟩, ?_⟩
  · rw [Session.ask, hs.routeExists_eq]
    rfl
  · rw [hs.has_eq]
  · obtain ⟨u, hall, -⟩ := hs.exists_of_allExist starterKitRoutes
    rw [Session.ask, hall]
    rfl

theorem lookups_agree_escaped_name :
    let programs : Programs := fun _ t => (.error .notFound, t)
    let names : List Text := ["home".toList, [], "a\n\"b".toList, "home".toList]
    let output : Path := ⟨"build/routes.json".toList⟩
    let generated :=
      Manifest.generate .obliging programs "now".toList .empty (.fixed names) output
    let s : Session := ⟨generated.2.2, .ofPath output, generated.2.1, .listed [], []⟩
    generated.1.isOk ∧ (s.ask programs (.routeExists "a\n\"b".toList)).1 = .holds true ∧
      (s.ask programs .isStarterKitProject).1 = .holds false := by
  intro programs names output generated s
  have hdone : generated.1 = .ok (Manifest.ofNames "now".toList names) := by decide +kernel
  have hrouter : generated.2.1 = .fixed names := by decide +kernel
  have hgenerate : generated =
      (.ok (Manifest.ofNames "now".toList names), .fixed names, generated.2.2) := by
    rw [← hdone, ← hrouter]
  have hnames : ((Router.fixed names).names programs .empty).1 = .ok names := rfl
  obtain ⟨hexists, hkit⟩ := lookups_agree hnames hgenerate rfl (.listed []) [] []
  refine ⟨by rw [hdone]; rfl, (hexists "a\n\"b".toList).1.trans ?_, hkit.trans ?_⟩
  · decide
  · decide

end Session

end SkipChecks
