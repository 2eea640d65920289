import SkipChecks.Manifest.Builder

/-!
# Manifests read once

A snapshot reads its manifest when it is asked for the first time and never again. A manifest that
cannot be read then counts as the empty one from there on.
-/

namespace SkipChecks

/-- A manifest that is read once. -/
structure Snapshot where
  path : Path
  /-- The manifest, once it has been read. -/
  loaded : Option Manifest
  deriving DecidableEq, Repr

namespace Snapshot

/-- A snapshot of a file that has not been read yet. -/
def ofPath (p : Path) : Snapshot := ⟨p, none⟩

/-- A snapshot that holds a manifest from the start. -/
def ofManifest (manifest : Manifest) : Snapshot := ⟨⟨[]⟩, some manifest⟩

def isLoaded (snapshot : Snapshot) : Bool := snapshot.loaded.isSome

/-- The manifest, with the snapshot that holds it from here on. -/
def load (snapshot : Snapshot) (t : Tree) : Manifest × Snapshot :=
  match snapshot.loaded with
  | some manifest => (manifest, snapshot)
  | none =>
    let manifest := (Manifest.read? t snapshot.path).getD .empty
    (manifest, { snapshot with loaded := some manifest })

end Snapshot

end SkipChecks
