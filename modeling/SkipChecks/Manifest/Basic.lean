import SkipChecks.Text.Basic

/-!
# Route manifests

A manifest is a snapshot of the named routes of an application. Where none can be had, the empty
one stands in for it.
-/

namespace SkipChecks

/-- A snapshot of the named routes. -/
structure Manifest where
  /-- When it was taken. -/
  generatedAt : Option Text
  /-- How many routes there are said to be. -/
  routeCount : UInt64
  routes : List Text
  deriving DecidableEq, Repr

namespace Manifest

def empty : Manifest := ⟨none, 0, []⟩

/-- A snapshot of these names; of repeated ones the first stays. -/
def ofNames (time : Text) (names : List Text) : Manifest :=
  ⟨some time, UInt64.ofNat names.eraseDups.length, names.eraseDups⟩

def isEmpty (manifest : Manifest) : Bool := manifest.routes.isEmpty

/-- Whether a route has exactly this name. -/
def contains (manifest : Manifest) (name : Text) : Bool := manifest.routes.contains name

end Manifest

end SkipChecks
