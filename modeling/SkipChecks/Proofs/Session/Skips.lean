import SkipChecks.Proofs.Session.Moments

/-!
# Skips and their record

Predicates come in three forms that go by the same verdict: what is there is told as it is, or turned
round for later, or acted on at once. Only the last form skips a test, and only where it does is a
reason recorded, once. As long as listing the routes leaves the files alone, what a predicate says
does not depend on those that were asked before.
-/

namespace SkipChecks

/-- The predicates that skip a test where something is missing. -/
def Predicate.maySkip : Predicate → Bool
  | skipIfRouteMissing _ | skipIfMethodMissing _ | skipIfNotStarterKit => true
  | _ => false

namespace Router

variable {programs : Programs} {t u : Tree} {router next : Router}

theorem has_fst (name : Text) :
    (router.has programs t name).1 =
      (router.names programs t).1.toOption.any (·.contains name) := by
  unfold has
  split <;> simp_all [Except.toOption]

/-- A router that cannot list its routes is none the wiser. -/
theorem eq_of_names_error {failure : Failure}
    (h : router.names programs t = (.error failure, next, u)) : next = router := by
  cases router with
  | fixed listed => cases h
  | command line answered =>
      cases answered with
      | some listed => cases h
      | none =>
          rw [names] at h
          split at h
          split at h
          next => cases h
          next =>
            cases h
            rfl

/-- Where listing the routes leaves the files as they are, it comes to the same the next time. -/
theorem names_next (h : (router.names programs t).2.2 = t) :
    (router.names programs t).2.1.names programs t = router.names programs t := by
  rcases hnames : router.names programs t with ⟨answer, next, u⟩
  obtain rfl : u = t := by rwa [hnames] at h
  cases answer with
  | ok names => exact names_again hnames u
  | error failure =>
      obtain rfl := eq_of_names_error hnames
      exact hnames

end Router

namespace Session

variable {programs : Programs} {s u : Session}

/-! ## Verdicts -/

/-- Whether what a predicate is about is there. -/
def verdict (programs : Programs) (s : Session) : Predicate → Bool
  | .methodExists method | .skipIfMethodMissing method | .skipWhenMethodMissing method =>
    s.methodExists method
  | .skipIfContentMissing _ _ => true
  | question => question.routes.all (s.finds programs)

/-- What a predicate leaves behind, its record apart. -/
def behind (programs : Programs) (s : Session) (question : Predicate) : Session :=
  if question.routes = [] then s else s.lookedUp programs

theorem ask_eq_noted (question : Predicate) :
    s.ask programs question =
      (s.behind programs question).noted (question.tell (s.verdict programs question)) := by
  have hroutes (h : question.routes ≠ []) : s.ask programs question =
      (s.behind programs question).noted
        (question.tell (question.routes.all (s.finds programs))) := by
    rw [ask_eq h, behind, if_neg h]
  cases question with
  | routeExists name => exact hroutes (List.cons_ne_nil _ _)
  | isStarterKitProject => exact hroutes (List.cons_ne_nil _ _)
  | skipIfRouteMissing name => exact hroutes (List.cons_ne_nil _ _)
  | skipIfNotStarterKit => exact hroutes (List.cons_ne_nil _ _)
  | skipWhenRouteMissing name => exact hroutes (List.cons_ne_nil _ _)
  | methodExists method => exact (noted_holds _).symm
  | skipIfMethodMissing method => exact demand_eq _ _
  | skipIfContentMissing url expected => exact demand_eq [] true
  | skipWhenMethodMissing method => exact (noted_holds _).symm

theorem ask_fst (question : Predicate) :
    (s.ask programs question).1 = question.tell (s.verdict programs question) := by
  rw [ask_eq_noted]
  rfl

theorem marks_lookedUp : (s.lookedUp programs).marks = s.marks := by
  unfold lookedUp
  split <;> rfl

theorem marks_ask (question : Predicate) :
    (s.ask programs question).2.marks = s.marks ++ (s.ask programs question).1.reasons := by
  have hbehind : (s.behind programs question).marks = s.marks := by
    unfold behind
    split
    · rfl
    · exact marks_lookedUp
  rw [ask_eq_noted, noted, hbehind]

theorem reasons_tell {question : Predicate} (h : question.maySkip = false) (holds : Bool) :
    (question.tell holds).reasons = [] := by
  cases question <;> first | rfl | cases h

/-! ## The record of a run -/

/-- What the uses of a session show, one after the other. -/
def shown (s : Session) : List Moment → List Seen
  | [] => []
  | m :: past => (s.meet m).1 :: shown (s.meet m).2 past

/-- Why the test is skipped, if a use shows that it is. -/
def Seen.reasons : Seen → List Text
  | .answer told => told.reasons
  | .loaded _ | .manifest _ => []

theorem marks_meet (s : Session) (m : Moment) :
    (s.meet m).2.marks = s.marks ++ (s.meet m).1.reasons := by
  cases huse : m.use with
  | isLoaded => simp [Session.meet, huse, Seen.reasons]
  | load => simp [Session.meet, huse, Seen.reasons]
  | ask question =>
      rw [meet_of_ask huse]
      exact marks_ask question

theorem marks_after (s : Session) (past : List Moment) :
    (s.after past).marks = s.marks ++ (s.shown past).flatMap Seen.reasons := by
  induction past generalizing s with
  | nil => exact (List.append_nil _).symm
  | cons m past ih =>
      have hrest : s.after (m :: past) = (s.meet m).2.after past := rfl
      rw [hrest, ih, marks_meet, shown, List.flatMap_cons, List.append_assoc]

/-! ## Sessions in one world -/

/-- Listing the routes leaves the files as they are. -/
def LeavesTree (programs : Programs) (s : Session) : Prop :=
  (s.router.names programs s.tree).2.2 = s.tree

/-- A later session finds what an earlier one did, and will. -/
structure Agrees (programs : Programs) (s u : Session) : Prop where
  tree_eq : u.tree = s.tree
  reflection_eq : u.reflection = s.reflection
  finds_eq : u.finds programs = s.finds programs
  leavesTree : u.LeavesTree programs

theorem Agrees.verdict_eq (h : Agrees programs s u) (question : Predicate) :
    u.verdict programs question = s.verdict programs question := by
  have hmethods (method : Method) : u.methodExists method = s.methodExists method := by
    rw [methodExists, methodExists, h.tree_eq, h.reflection_eq]
  cases question <;> simp only [verdict, h.finds_eq, hmethods]

/-- A lookup loads the manifest and lists the routes. Doing either again comes to the same. -/
theorem agrees_lookedUp (h : s.LeavesTree programs) : Agrees programs s (s.lookedUp programs) := by
  have hload (t : Tree) : ((s.snapshot.load s.tree).2.load t).1 = s.manifest := by
    rw [Snapshot.load_again]
    rfl
  by_cases hempty : s.manifest.isEmpty
  · have hlooked : s.lookedUp programs =
        { s with
          snapshot := (s.snapshot.load s.tree).2
          router := (s.router.names programs s.tree).2.1 } := by
      rw [lookedUp, if_pos hempty, h]
    have hmanifest : (s.lookedUp programs).manifest = s.manifest := by
      rw [hlooked]
      exact hload s.tree
    have hnames := Router.names_next h
    constructor
    · rw [hlooked]
    · rw [hlooked]
    · funext name
      rw [finds, finds, hmanifest, if_pos hempty, if_pos hempty, Router.has_fst, Router.has_fst,
        hlooked, hnames]
    · rw [LeavesTree, hlooked, hnames]
      exact h
  · have hlooked : s.lookedUp programs = { s with snapshot := (s.snapshot.load s.tree).2 } := by
      rw [lookedUp, if_neg hempty]
    have hmanifest : (s.lookedUp programs).manifest = s.manifest := by
      rw [hlooked]
      exact hload s.tree
    constructor
    · rw [hlooked]
    · rw [hlooked]
    · funext name
      rw [finds, finds, hmanifest, if_neg hempty, if_neg hempty]
    · rw [LeavesTree, hlooked]
      exact h

theorem agrees_self (h : s.LeavesTree programs) : Agrees programs s s := ⟨rfl, rfl, rfl, h⟩

theorem Agrees.trans {v : Session} (hsu : Agrees programs s u) (huv : Agrees programs u v) :
    Agrees programs s v where
  tree_eq := huv.tree_eq.trans hsu.tree_eq
  reflection_eq := huv.reflection_eq.trans hsu.reflection_eq
  finds_eq := huv.finds_eq.trans hsu.finds_eq
  leavesTree := huv.leavesTree

theorem agrees_ask (h : s.LeavesTree programs) (question : Predicate) :
    Agrees programs s (s.ask programs question).2 := by
  have hbehind : Agrees programs s (s.behind programs question) := by
    unfold behind
    split
    · exact agrees_self h
    · exact agrees_lookedUp h
  rw [ask_eq_noted]
  exact ⟨hbehind.tree_eq, hbehind.reflection_eq, hbehind.finds_eq, hbehind.leavesTree⟩

theorem agrees_asked (h : s.LeavesTree programs) (questions : List Predicate) :
    Agrees programs s (s.asked programs questions) := by
  induction questions generalizing s with
  | nil => exact agrees_self h
  | cons question questions ih =>
      have hfirst := agrees_ask h question
      exact hfirst.trans (ih hfirst.leavesTree)

/-- Whatever is done with a session, and however the files and the programs change in between, the
reasons on record are those of the tests that were skipped, each of them once and in order. At any
time the forms of a predicate agree: what exists is not missing, and what is missing skips the test
that demands it, the starter kit with any one of its routes. The other forms record nothing. And
while listing the routes leaves the files alone, no predicate changes what another one says. -/
theorem skips_recorded_once (start : Session) (past : List Moment) :
    (start.after past).marks = start.marks ++ (start.shown past).flatMap Seen.reasons ∧
    ∀ (t : Tree) (programs : Programs),
      let s := { start.after past with tree := t }
      let told (question : Predicate) : Answer := (s.ask programs question).1
      (∀ name, ∃ found, told (.routeExists name) = .holds found ∧
        told (.skipWhenRouteMissing name) = .holds !found ∧
        told (.skipIfRouteMissing name) =
          if found then .proceed else .skipped (routeReason name)) ∧
      (∀ method, ∃ found, told (.methodExists method) = .holds found ∧
        told (.skipWhenMethodMissing method) = .holds !found ∧
        told (.skipIfMethodMissing method) =
          if found then .proceed else .skipped (methodReason method)) ∧
      told .skipIfNotStarterKit =
        (if ∃ name ∈ starterKitRoutes, told (.routeExists name) = .holds false then
          .skipped starterKitReason
        else .proceed) ∧
      (∀ question : Predicate, question.maySkip = false →
        (s.ask programs question).2.marks = s.marks) ∧
      (s.LeavesTree programs → ∀ (questions : List Predicate) (question : Predicate),
        ((s.asked programs questions).ask programs question).1 = told question) := by
  refine ⟨marks_after start past, fun t programs => ?_⟩
  intro s told
  have htold (question : Predicate) : told question = question.tell (s.verdict programs question) :=
    ask_fst question
  refine ⟨fun name => ⟨_, htold _, htold _, htold _⟩, fun method => ⟨_, htold _, htold _, htold _⟩,
    ?_, ?_, ?_⟩
  · have hmissing : (∃ name ∈ starterKitRoutes, told (.routeExists name) = .holds false) ↔
        s.verdict programs .skipIfNotStarterKit = false := by
      simp [htold, verdict, Predicate.tell, Predicate.routes, List.all_eq_false]
    rw [htold]
    split
    next h =>
      rw [hmissing.mp h]
      rfl
    next h =>
      have hthere : s.verdict programs .skipIfNotStarterKit = true := by
        simpa using mt hmissing.mpr h
      rw [hthere]
      rfl
  · intro question hquestion
    rw [marks_ask, ask_fst, reasons_tell hquestion, List.append_nil]
  · intro hleaves questions question
    rw [ask_fst, (agrees_asked hleaves questions).verdict_eq, ← htold]

/-- Without a manifest and with a program that is not there, two tests are skipped, and what has been
asked before makes no difference. -/
theorem skips_recorded_once_nothing_listed :
    let failing : Programs := fun _ t => (.error .notFound, t)
    let start : Session :=
      ⟨.empty, .ofPath ⟨"routes.json".toList⟩, .command ["php".toList] none, .listed [], []⟩
    let login : Predicate := .skipIfRouteMissing "login".toList
    let past : List Moment := [⟨.empty, failing, .ask login⟩, ⟨.empty, failing, .load⟩,
      ⟨.empty, failing, .ask (.skipIfContentMissing [] [])⟩,
      ⟨.empty, failing, .ask .skipIfNotStarterKit⟩]
    let s := start.after past
    s.marks = [routeReason "login".toList, starterKitReason] ∧
      Predicate.maySkip .isStarterKitProject = false ∧
      (s.ask failing .isStarterKitProject).2.marks = s.marks ∧
      s.LeavesTree failing ∧
      ((s.asked failing [login, .isStarterKitProject]).ask failing login).1 =
        .skipped (routeReason "login".toList) := by
  intro failing start login past s
  obtain ⟨hmarks, hforms⟩ := skips_recorded_once start past
  obtain ⟨-, -, -, hsilent, hsame⟩ := hforms .empty failing
  have hleaves : s.LeavesTree failing := rfl
  exact ⟨hmarks.trans (by decide +kernel), rfl, hsilent _ rfl, hleaves,
    (hsame hleaves _ _).trans (by decide +kernel)⟩

end Session

end SkipChecks
