import SkipChecks.Dependencies

/-!
# Guards

A guard is a statement at the start of a test that skips the test where something it depends on is
missing.
-/

namespace SkipChecks

/-- A statement that skips a test. -/
inductive Guard
  /-- Skips where the starter kit is missing. -/
  | starterKit
  /-- Skips where no route has this name. -/
  | route (name : Text)
  /-- Skips where the method is missing. -/
  | method (method : Method)
  deriving DecidableEq, Repr

/-- The statement. Names stand in single-quoted literals as they are. -/
def Guard.text : Guard → Text
  | starterKit => "skipIfNotStarterKit();".toList
  | route name => "skipIfRouteMissing('".toList ++ name ++ "');".toList
  | method m =>
    "skipIfMethodMissing('".toList ++ m.className ++ "', '".toList ++ m.name ++ "');".toList

/-- The guards of a test: for the starter kit, then for routes, then for methods. -/
def Dependencies.guards (d : Dependencies) : List Guard :=
  (if d.starterKit then [.starterKit] else []) ++ d.routes.map .route ++ d.methods.map .method

end SkipChecks
