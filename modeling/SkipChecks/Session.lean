import SkipChecks.Manifest.Snapshot
import SkipChecks.Reflection.Basic

/-!
# Sessions of predicates

During a run, tests ask whether what they depend on is there. Routes are looked up in the manifest,
or with the router where the manifest has none. Three families of predicates are built on that: plain
answers, guards that skip the test at once and record why, and the same conditions for later use,
which record nothing.
-/

namespace SkipChecks

/-- What tests may ask. -/
inductive Predicate
  | routeExists (name : Text)
  | methodExists (method : Method)
  | isStarterKitProject
  | skipIfRouteMissing (name : Text)
  | skipIfMethodMissing (method : Method)
  | skipIfNotStarterKit
  /-- Never skips: the content of a page is not known before the test runs. -/
  | skipIfContentMissing (url expected : Text)
  | skipWhenRouteMissing (name : Text)
  | skipWhenMethodMissing (method : Method)
  deriving DecidableEq, Repr

/-- What a test is told. -/
inductive Answer
  | holds (value : Bool)
  | proceed
  | skipped (reason : Text)
  deriving DecidableEq, Repr

/-- How a test that is skipped says so. -/
def Answer.skipText (reason : Text) : Text := "test skipped: ".toList ++ reason

/-- What the predicates rest on, and what they have recorded. -/
structure Session where
  tree : Tree
  snapshot : Snapshot
  router : Router
  reflection : Reflection
  /-- Why tests were skipped, first ones first. -/
  marks : List Text

namespace Session

variable (programs : Programs)

/-- The routes that every starter kit has. -/
def starterKitRoutes : List Text :=
  ["login".toList, "register".toList, "dashboard".toList, "home".toList]

def routeReason (name : Text) : Text :=
  "Route [".toList ++ name ++ "] not available in this project".toList

def methodReason (method : Method) : Text :=
  "Method [".toList ++ method.className ++ "::".toList ++ method.name ++
    "()] not available in this project".toList

def starterKitReason : Text := "Test requires Laravel starter kit features".toList

def routeExists (name : Text) (s : Session) : Bool × Session :=
  match s.snapshot.load s.tree with
  | (manifest, snapshot) =>
    if manifest.isEmpty then
      match s.router.has programs s.tree name with
      | (answer, router, tree) => (answer, { s with tree, snapshot, router })
    else
      (manifest.contains name, { s with snapshot })

/-- Whether all of some routes exist. The first that does not ends the search. -/
def allExist : List Text → Session → Bool × Session
  | [], s => (true, s)
  | name :: names, s =>
    match s.routeExists programs name with
    | (true, s) => allExist names s
    | (false, s) => (false, s)

def methodExists (method : Method) (s : Session) : Bool := s.reflection.hasMethod s.tree method

/-- Goes on where a condition holds, and else skips the test and records why. -/
def demand (reason : Text) : Bool × Session → Answer × Session
  | (true, s) => (.proceed, s)
  | (false, s) => (.skipped reason, { s with marks := s.marks ++ [reason] })

/-- Answers a predicate. -/
def ask (s : Session) : Predicate → Answer × Session
  | .routeExists name => (s.routeExists programs name).map .holds id
  | .methodExists method => (.holds (s.methodExists method), s)
  | .isStarterKitProject => (s.allExist programs starterKitRoutes).map .holds id
  | .skipIfRouteMissing name => demand (routeReason name) (s.routeExists programs name)
  | .skipIfMethodMissing method => demand (methodReason method) (s.methodExists method, s)
  | .skipIfNotStarterKit => demand starterKitReason (s.allExist programs starterKitRoutes)
  | .skipIfContentMissing _ _ => (.proceed, s)
  | .skipWhenRouteMissing name => (s.routeExists programs name).map (.holds !·) id
  | .skipWhenMethodMissing method => (.holds !s.methodExists method, s)

end Session

end SkipChecks
