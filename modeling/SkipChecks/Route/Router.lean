import SkipChecks.Failure
import SkipChecks.Route.Listing

/-!
# Routers

A router knows the named routes of an application: from a fixed list, or by asking a program. The
program is asked until it answers once; that answer stays.
-/

namespace SkipChecks

/-- Where route names come from. -/
inductive Router
  | fixed (names : List Text)
  /-- A command line, and its answer once there was one. -/
  | command (line : List Text) (answer : Option (List Text))
  deriving DecidableEq, Repr

namespace Router

/-- A router that asks a program. There is none without a program. -/
def ofCommand? (line : List Text) : Option Router := if line = [] then none else some (command line none)

/-- What a run of the listing program says. -/
def answer : Except Fault Run → Except ListingFault (List Text)
  | .error fault => .error (.notStarted fault)
  | .ok run =>
    if run.ending.isSuccess then
      match Listing.ofOutput? run.output with
      | some names => .ok names
      | none => .error (.noListing run.output)
    else
      .error (.failed run.ending (Text.trim (Bytes.lossyText run.diagnostics)))

/-- The names of all routes, repeats kept, with the router and the tree behind. -/
def names (programs : Programs) (t : Tree) : Router → Except Failure (List Text) × Router × Tree
  | fixed names => (.ok names, fixed names, t)
  | command line (some names) => (.ok names, command line (some names), t)
  | command line none =>
    match programs line t with
    | (run, t) =>
      match answer run with
      | .ok names => (.ok names, command line (some names), t)
      | .error fault => (.error (.routeCommand line fault), command line none, t)

/-- Whether a route has this name. When the routes cannot be listed, none has. -/
def has (programs : Programs) (t : Tree) (router : Router) (name : Text) : Bool × Router × Tree :=
  match router.names programs t with
  | (.ok names, router, t) => (names.contains name, router, t)
  | (.error _, router, t) => (false, router, t)

end Router

end SkipChecks
