import Mathlib.Data.List.Induction
import SkipChecks.Proofs.Route.Names
import SkipChecks.Proofs.Session.Findings

/-!
# One manifest and one listing

A session is used from time to time, while files change and the program that lists the routes may say
something else each time it is run. What the session then answers is told by what happened before:
the first use that needs the manifest settles it, for want of a readable one as the empty manifest,
and the first listing that succeeds settles the routes of an empty manifest. A listing that fails
settles nothing.
-/

namespace SkipChecks.Session

/-- What is done with a session. -/
inductive Use
  | isLoaded
  | load
  | ask (question : Predicate)

/-- A use of a session, with the files and the programs as they are by then. -/
structure Moment where
  tree : Tree
  programs : Programs
  use : Use

/-- What a use shows. -/
inductive Seen
  | loaded (value : Bool)
  | manifest (manifest : Manifest)
  | answer (answer : Answer)

namespace Moment

/-- Whether routes are looked up. -/
def looksUp (m : Moment) : Bool :=
  match m.use with
  | .ask question => !question.routes.isEmpty
  | _ => false

/-- Whether the manifest is needed. -/
def needsManifest (m : Moment) : Bool :=
  match m.use with
  | .load => true
  | _ => m.looksUp

end Moment

/-- What a use shows, and the session behind it. -/
def meet (s : Session) (m : Moment) : Seen × Session :=
  let s := { s with tree := m.tree }
  match m.use with
  | .isLoaded => (.loaded s.snapshot.isLoaded, s)
  | .load => (.manifest s.manifest, { s with snapshot := (s.snapshot.load s.tree).2 })
  | .ask question => (s.ask m.programs question).map .answer id

/-- The session behind a run of uses. -/
def after (s : Session) (past : List Moment) : Session := past.foldl (fun s m => (s.meet m).2) s

/-- No program is run: the files stay, and whatever the programs do, it comes to the same. -/
def RunsNothing (s : Session) (m : Moment) : Prop :=
  (s.meet m).2.tree = m.tree ∧ ∀ programs, s.meet { m with programs } = s.meet m

/-- The manifest that a snapshot holds: the one it had from the start, or else what was in the file
when the manifest was needed first. -/
def held (snapshot : Snapshot) (past : List Moment) : Option Manifest :=
  snapshot.loaded.or ((past.find? Moment.needsManifest).map fun m =>
    (Manifest.read? m.tree snapshot.path).getD .empty)

/-- What was listed first. As long as nothing is, every lookup runs the program. -/
def listed (line : List Text) (past : List Moment) : Option (List Text) :=
  (past.filter Moment.looksUp).findSome? fun m =>
    (Router.answer (m.programs line m.tree).1).toOption

variable {snapshot : Snapshot} {line : List Text} {past : List Moment} {m : Moment} {s : Session}

/-! ## What another moment adds -/

theorem held_concat (snapshot : Snapshot) (past : List Moment) (m : Moment) :
    held snapshot (past ++ [m]) =
      if m.needsManifest then
        some ((held snapshot past).getD ((Manifest.read? m.tree snapshot.path).getD .empty))
      else held snapshot past := by
  unfold held
  rw [List.find?_append]
  cases snapshot.loaded with
  | some manifest => simp
  | none =>
      cases past.find? Moment.needsManifest with
      | some first => simp
      | none => by_cases hneeds : m.needsManifest <;> simp [hneeds]

theorem listed_concat (line : List Text) (past : List Moment) (m : Moment) :
    listed line (past ++ [m]) =
      if m.looksUp then
        (listed line past).or (Router.answer (m.programs line m.tree).1).toOption
      else listed line past := by
  unfold listed
  rw [List.filter_append, List.findSome?_append]
  by_cases hlooks : m.looksUp <;> simp [hlooks]

theorem needsManifest_of_looksUp (h : m.looksUp) : m.needsManifest := by
  unfold Moment.needsManifest
  split
  · rfl
  · exact h

/-- Before the manifest is settled, nothing was looked up. -/
theorem listed_eq_none (h : held snapshot past = none) : listed line past = none := by
  induction past using List.reverseRecOn with
  | nil => rfl
  | append_singleton past m ih =>
      rw [held_concat] at h
      split at h
      next => cases h
      next hneeds =>
        have hlooks : ¬ m.looksUp := fun hlooks => hneeds (needsManifest_of_looksUp hlooks)
        rw [listed_concat, if_neg hlooks]
        exact ih h

/-! ## Single uses -/

theorem exists_of_looksUp (h : m.looksUp) :
    ∃ question : Predicate, m.use = .ask question ∧ question.routes ≠ [] := by
  unfold Moment.looksUp at h
  split at h
  next question huse => exact ⟨question, huse, by simpa using h⟩
  next => cases h

theorem looksUp_of_routes {question : Predicate} (huse : m.use = .ask question)
    (hroutes : question.routes ≠ []) : m.looksUp := by
  simpa [Moment.looksUp, huse] using hroutes

theorem use_eq_load (hneeds : m.needsManifest) (hlooks : ¬ m.looksUp) : m.use = .load := by
  unfold Moment.needsManifest at hneeds
  split at hneeds
  next huse => exact huse
  next => exact absurd hneeds hlooks

theorem meet_of_load (huse : m.use = .load) :
    s.meet m = (.manifest (s.snapshot.load m.tree).1,
      { s with tree := m.tree, snapshot := (s.snapshot.load m.tree).2 }) := by
  simp only [Session.meet, huse]
  rfl

theorem meet_of_ask {question : Predicate} (huse : m.use = .ask question) :
    s.meet m = (ask m.programs { s with tree := m.tree } question).map .answer id := by
  simp only [Session.meet, huse]

theorem meet_of_routes {question : Predicate} (huse : m.use = .ask question)
    (hroutes : question.routes ≠ []) :
    s.meet m = (((lookedUp m.programs { s with tree := m.tree }).noted (question.tell
      (question.routes.all (finds m.programs { s with tree := m.tree })))).map .answer id) := by
  rw [meet_of_ask huse, ask_eq hroutes]

/-- A use that does not need the manifest leaves everything as it was that lookups depend on. -/
theorem meet_of_not_needsManifest (h : ¬ m.needsManifest) :
    (s.meet m).2.snapshot = s.snapshot ∧ (s.meet m).2.router = s.router := by
  cases huse : m.use with
  | isLoaded => simp [Session.meet, huse]
  | load => simp [Moment.needsManifest, huse] at h
  | ask question =>
      have hroutes : question.routes = [] := by
        simpa [Moment.needsManifest, Moment.looksUp, huse] using h
      obtain ⟨holds, hask⟩ := ask_of_routes_eq_nil (s := { s with tree := m.tree }) hroutes
      rw [meet_of_ask huse, hask]
      exact ⟨rfl, rfl⟩

/-- A use that looks nothing up runs nothing. -/
theorem runsNothing_of_not_looksUp (hlooks : ¬ m.looksUp) : RunsNothing s m := by
  cases huse : m.use with
  | isLoaded => simp [RunsNothing, Session.meet, huse]
  | load => simp [RunsNothing, Session.meet, huse]
  | ask question =>
      have hroutes : question.routes = [] := by simpa [Moment.looksUp, huse] using hlooks
      obtain ⟨holds, hask⟩ := ask_of_routes_eq_nil (s := { s with tree := m.tree }) hroutes
      constructor
      · rw [meet_of_ask huse, hask]
        rfl
      · intro programs
        rw [meet_of_ask (m := { m with programs }) huse, meet_of_ask huse, hask, hask]

/-- A predicate whose lookups come to the same whatever the programs do runs nothing. -/
theorem answers_of_fixed {question : Predicate} {found : Text → Bool} {next : Session}
    (huse : m.use = .ask question) (hroutes : question.routes ≠ [])
    (hfixed : ∀ programs, finds programs { s with tree := m.tree } = found ∧
      lookedUp programs { s with tree := m.tree } = next)
    (htree : next.tree = m.tree) :
    RunsNothing s m ∧ (s.meet m).1 = .answer (question.tell (question.routes.all found)) := by
  have hmeet (programs : Programs) : s.meet { m with programs } =
      ((next.noted (question.tell (question.routes.all found))).map .answer id) := by
    obtain ⟨hfinds, hnext⟩ := hfixed programs
    rw [meet_of_routes (m := { m with programs }) huse hroutes, ← hfinds, ← hnext]
  have hsame := hmeet m.programs
  refine ⟨⟨?_, fun programs => ?_⟩, ?_⟩
  · rw [hsame]
    exact htree
  · rw [hmeet programs, hsame]
  · rw [hsame]
    rfl

/-! ## What a session remembers -/

/-- The session holds the manifest, and the first listing unless the manifest has routes. -/
structure Remembers (snapshot : Snapshot) (line : List Text) (past : List Moment) (s : Session) :
    Prop where
  snapshot_eq : s.snapshot = ⟨snapshot.path, held snapshot past⟩
  router_eq : s.router =
    .command line (if (held snapshot past).all Manifest.isEmpty then listed line past else none)

namespace Remembers

variable {manifest : Manifest} {programs : Programs}

/-- When the manifest is needed, it is the one that is held from then on. -/
theorem exists_load (h : Remembers snapshot line past s) (hneeds : m.needsManifest) :
    ∃ manifest, held snapshot (past ++ [m]) = some manifest ∧
      s.snapshot.load m.tree = (manifest, ⟨snapshot.path, some manifest⟩) ∧
      (held snapshot past).all (· = manifest) := by
  rw [held_concat, if_pos hneeds, h.snapshot_eq]
  cases held snapshot past with
  | none => exact ⟨_, rfl, rfl, rfl⟩
  | some before => exact ⟨before, rfl, rfl, by simp⟩

/-- While the manifest has routes, or may have them, nothing is listed. -/
theorem router_of_routes (h : Remembers snapshot line past s)
    (hsame : (held snapshot past).all (· = manifest)) (hroutes : manifest.isEmpty = false) :
    s.router = .command line none := by
  rw [h.router_eq]
  cases hheld : held snapshot past with
  | none => simp [listed_eq_none hheld]
  | some before =>
      rw [hheld] at hsame
      obtain rfl : before = manifest := by simpa using hsame
      simp [hroutes]

theorem router_of_empty (h : Remembers snapshot line past s)
    (hsame : (held snapshot past).all (· = manifest)) (hempty : manifest.isEmpty = true) :
    s.router = .command line (listed line past) := by
  rw [h.router_eq]
  cases hheld : held snapshot past with
  | none => simp
  | some before =>
      rw [hheld] at hsame
      obtain rfl : before = manifest := by simpa using hsame
      simp [hempty]

/-- A lookup is answered by the manifest, by what was listed first, or by a run of the program. -/
theorem lookup_cases (h : Remembers snapshot line past s) (hlooks : m.looksUp) :
    ∃ manifest, held snapshot (past ++ [m]) = some manifest ∧
      ((manifest.isEmpty = false ∧ s.router = .command line none ∧ ∀ programs,
          finds programs { s with tree := m.tree } = manifest.contains ∧
          lookedUp programs { s with tree := m.tree } =
            { s with tree := m.tree, snapshot := ⟨snapshot.path, some manifest⟩ }) ∨
        (manifest.isEmpty = true ∧ ∃ names, listed line past = some names ∧
          s.router = .command line (some names) ∧ ∀ programs,
          finds programs { s with tree := m.tree } = names.contains ∧
          lookedUp programs { s with tree := m.tree } =
            { s with tree := m.tree, snapshot := ⟨snapshot.path, some manifest⟩ }) ∨
        (manifest.isEmpty = true ∧ listed line past = none ∧
          (∀ name, finds m.programs { s with tree := m.tree } name =
            (Router.answer (m.programs line m.tree).1).toOption.any (·.contains name)) ∧
          lookedUp m.programs { s with tree := m.tree } =
            { s with
              tree := (m.programs line m.tree).2
              snapshot := ⟨snapshot.path, some manifest⟩
              router := .command line (Router.answer (m.programs line m.tree).1).toOption })) := by
  obtain ⟨manifest, hheld, hload, hsame⟩ := h.exists_load (needsManifest_of_looksUp hlooks)
  refine ⟨manifest, hheld, ?_⟩
  cases hempty : manifest.isEmpty with
  | false =>
      refine .inl ⟨rfl, h.router_of_routes hsame hempty, fun programs => ?_⟩
      exact lookup_of_routes (s := { s with tree := m.tree }) hload hempty
  | true =>
      have hrouter := h.router_of_empty hsame hempty
      cases hlisted : listed line past with
      | some names =>
          rw [hlisted] at hrouter
          refine .inr (.inl ⟨rfl, names, rfl, hrouter, fun programs => ?_⟩)
          exact lookup_of_listed (s := { s with tree := m.tree }) hload hempty hrouter
      | none =>
          rw [hlisted] at hrouter
          refine .inr (.inr ⟨rfl, rfl, ?_⟩)
          exact lookup_of_unlisted (s := { s with tree := m.tree }) hload hempty hrouter

/-- The session behind one more use remembers it. -/
theorem meet (h : Remembers snapshot line past s) (m : Moment) :
    Remembers snapshot line (past ++ [m]) (s.meet m).2 := by
  by_cases hlooks : m.looksUp
  · -- the manifest is held from now on, and the router has what is listed by now
    obtain ⟨question, huse, hroutes⟩ := exists_of_looksUp hlooks
    have hmeet := meet_of_routes (s := s) huse hroutes
    obtain ⟨manifest, hheld, hcases⟩ := h.lookup_cases hlooks
    have hlisted := listed_concat line past m
    rw [if_pos hlooks] at hlisted
    rcases hcases with ⟨hempty, hrouter, hfixed⟩ | ⟨hempty, names, hnames, hrouter, hfixed⟩ |
      ⟨hempty, hnone, -, hafter⟩
    · obtain ⟨-, hafter⟩ := hfixed m.programs
      constructor
      · rw [hmeet, hafter, hheld]
        rfl
      · rw [hmeet, hafter, hheld, Option.all_some, hempty]
        exact hrouter
    · obtain ⟨-, hafter⟩ := hfixed m.programs
      constructor
      · rw [hmeet, hafter, hheld]
        rfl
      · rw [hmeet, hafter, hheld, Option.all_some, hempty, hlisted, hnames]
        exact hrouter
    · constructor
      · rw [hmeet, hafter, hheld]
        rfl
      · rw [hmeet, hafter, hheld, Option.all_some, hempty, hlisted, hnone]
        rfl
  · have hlisted := listed_concat line past m
    rw [if_neg hlooks] at hlisted
    by_cases hneeds : m.needsManifest
    · obtain ⟨manifest, hheld, hload, hsame⟩ := h.exists_load hneeds
      have hmeet := meet_of_load (s := s) (use_eq_load hneeds hlooks)
      constructor
      · rw [hmeet, hheld, hload]
      · rw [hmeet, hheld, Option.all_some, hlisted]
        cases hempty : manifest.isEmpty with
        | false => exact h.router_of_routes hsame hempty
        | true => exact h.router_of_empty hsame hempty
    · have hheld := held_concat snapshot past m
      rw [if_neg hneeds] at hheld
      obtain ⟨hsnapshot, hrouter⟩ := meet_of_not_needsManifest (s := s) hneeds
      constructor
      · rw [hsnapshot, hheld]
        exact h.snapshot_eq
      · rw [hrouter, hheld, hlisted]
        exact h.router_eq

theorem after {start : Session} (hrouter : start.router = .command line none)
    (past : List Moment) : Remembers start.snapshot line past (start.after past) := by
  induction past using List.reverseRecOn with
  | nil =>
      constructor
      · simp [Session.after, held]
      · simp [Session.after, listed, hrouter]
  | append_singleton past m ih =>
      rw [Session.after, List.foldl_append]
      exact ih.meet m

theorem isLoaded_eq (h : Remembers snapshot line past s) :
    s.snapshot.isLoaded = (snapshot.isLoaded || past.any Moment.needsManifest) := by
  rw [h.snapshot_eq, Snapshot.isLoaded, Snapshot.isLoaded, held, Option.isSome_or, Option.isSome_map,
    Bool.eq_iff_iff]
  simp [List.find?_isSome]

end Remembers

/-- Whatever is done with a session, and however the files and the programs change in between, it
sees one manifest and at most one listing. The manifest is there from the first use on that needs
it; while it has routes, the program is never run. Otherwise a lookup runs the program exactly as
long as nothing was listed, finds nothing when that fails, and afterwards goes by what was listed
first. -/
theorem one_manifest_one_listing (start : Session) (hrouter : start.router = .command line none)
    (past : List Moment) (m : Moment) :
    let s := start.after past
    (m.use = .isLoaded →
      (s.meet m).1 = .loaded (start.snapshot.isLoaded || past.any Moment.needsManifest)) ∧
    (m.use = .load → ∃ manifest, held start.snapshot (past ++ [m]) = some manifest ∧
      (s.meet m).1 = .manifest manifest) ∧
    (¬ m.looksUp → RunsNothing s m) ∧
    ∀ question : Predicate, m.use = .ask question → question.routes ≠ [] →
      ∃ manifest, held start.snapshot (past ++ [m]) = some manifest ∧
        (manifest.routes ≠ [] → RunsNothing s m ∧
          (s.meet m).1 = .answer (question.tell (question.routes.all manifest.routes.contains))) ∧
        (manifest.routes = [] →
          (∀ names, listed line past = some names → RunsNothing s m ∧
            (s.meet m).1 = .answer (question.tell (question.routes.all names.contains))) ∧
          (listed line past = none →
            (s.meet m).2.tree = (m.programs line m.tree).2 ∧
            (∀ names, Router.answer (m.programs line m.tree).1 = .ok names →
              (s.meet m).1 = .answer (question.tell (question.routes.all names.contains))) ∧
            (∀ fault, Router.answer (m.programs line m.tree).1 = .error fault →
              (s.meet m).1 = .answer (question.tell false)))) := by
  intro s
  have hs : Remembers start.snapshot line past s := Remembers.after hrouter past
  refine ⟨?_, ?_, runsNothing_of_not_looksUp, ?_⟩
  · intro huse
    simp only [Session.meet, huse, hs.isLoaded_eq]
  · intro huse
    have hneeds : m.needsManifest := by simp [Moment.needsManifest, huse]
    obtain ⟨manifest, hheld, hload, -⟩ := hs.exists_load hneeds
    exact ⟨manifest, hheld, by rw [meet_of_load huse, hload]⟩
  · intro question huse hroutes
    obtain ⟨manifest, hheld, hcases⟩ := hs.lookup_cases (looksUp_of_routes huse hroutes)
    have hmeet := meet_of_routes (s := s) huse hroutes
    refine ⟨manifest, hheld, ?_⟩
    rcases hcases with ⟨hempty, -, hfixed⟩ | ⟨hempty, listing, hlisted, -, hfixed⟩ |
      ⟨hempty, hlisted, hfinds, hafter⟩
    · constructor
      · intro _
        exact answers_of_fixed huse hroutes hfixed rfl
      · intro hnil
        simp [Manifest.isEmpty, hnil] at hempty
    · constructor
      · intro hne
        exact absurd (List.isEmpty_iff.mp hempty) hne
      · intro _
        constructor
        · intro names hnames
          obtain rfl : listing = names := Option.some.inj (hlisted.symm.trans hnames)
          exact answers_of_fixed huse hroutes hfixed rfl
        · intro hnone
          rw [hnone] at hlisted
          cases hlisted
    · constructor
      · intro hne
        exact absurd (List.isEmpty_iff.mp hempty) hne
      · intro _
        constructor
        · intro names hnames
          rw [hnames] at hlisted
          cases hlisted
        · intro _
          refine ⟨by rw [hmeet, hafter]; rfl, ?_, ?_⟩
          · intro names hrun
            have hfound : finds m.programs { s with tree := m.tree } = names.contains := by
              funext name
              rw [hfinds, hrun]
              rfl
            rw [hmeet, hfound]
            rfl
          · intro fault hrun
            have hfound : finds m.programs { s with tree := m.tree } = fun _ => false := by
              funext name
              rw [hfinds, hrun]
              rfl
            rw [hmeet, hfound]
            obtain ⟨name, names, hcons⟩ := List.exists_cons_of_ne_nil hroutes
            rw [hcons]
            rfl

/-- A manifest that appears after the first lookup goes unnoticed, and so does a program that fails
after its listing was there. -/
theorem one_manifest_one_listing_late_file :
    let failing : Programs := fun _ t => (.error .notFound, t)
    let listing : Programs := fun _ t =>
      (.ok ⟨.exited 0, Bytes.ofText "[[\"home\"]]".toList, Bytes.ofText []⟩, t)
    let written := Tree.empty.put ["routes.json".toList]
      (.file (Bytes.ofText "[null,1,[\"login\"]]".toList))
    let asks (t : Tree) (programs : Programs) (name : String) : Moment :=
      ⟨t, programs, .ask (.routeExists name.toList)⟩
    let start : Session :=
      ⟨.empty, .ofPath ⟨"routes.json".toList⟩, .command ["php".toList] none, .listed [], []⟩
    let past := [asks .empty failing "home", asks written listing "login"]
    let s := start.after past
    start.router = .command ["php".toList] none ∧
      Manifest.read? written ⟨"routes.json".toList⟩ = some ⟨none, 1, ["login".toList]⟩ ∧
      (s.meet (asks written failing "home")).1 = .answer (.holds true) ∧
      RunsNothing s (asks written failing "home") := by
  intro failing listing written asks start past s
  have hheld (m : Moment) : held start.snapshot (past ++ [m]) = some .empty := by
    have hread : Manifest.read? .empty ⟨"routes.json".toList⟩ = none := by decide +kernel
    have hfirst : held start.snapshot (past ++ [m]) =
        some ((Manifest.read? .empty ⟨"routes.json".toList⟩).getD .empty) := rfl
    rw [hfirst, hread]
    rfl
  have hlisted : listed ["php".toList] past = some ["home".toList] := by
    have houtput : Listing.ofOutput? (Bytes.ofText "[[\"home\"]]".toList) = some ["home".toList] := by
      rw [Listing.ofOutput?_ofText]
      decide +kernel
    have hrun : Router.answer (listing ["php".toList] written).1 = .ok ["home".toList] := by
      rw [Router.answer_of_ofOutput? rfl, houtput]
      rfl
    have hlast : listed ["php".toList] past =
        (Router.answer (listing ["php".toList] written).1).toOption :=
      listed_concat ["php".toList] [asks .empty failing "home"] (asks written listing "login")
    rw [hlast, hrun]
    rfl
  obtain ⟨-, -, -, hask⟩ :=
    one_manifest_one_listing start rfl past (asks written failing "home")
  obtain ⟨manifest, hmanifest, -, hempty⟩ := hask _ rfl (List.cons_ne_nil _ _)
  obtain rfl : Manifest.empty = manifest := Option.some.inj ((hheld _).symm.trans hmanifest)
  obtain ⟨hnothing, hanswer⟩ := (hempty rfl).1 _ hlisted
  exact ⟨rfl, by decide +kernel, hanswer.trans (by rfl), hnothing⟩

end SkipChecks.Session
