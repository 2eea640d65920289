import SkipChecks.Manifest.Format
import SkipChecks.Route.Router
import SkipChecks.Tree.Replacement

/-!
# Manifests in files

A manifest is built from what a router lists, and written over the old one as a whole. Building
comes first: when the router fails, nothing is touched.
-/

namespace SkipChecks.Manifest

/-- The manifest in a file, if one can be read. -/
def read? (t : Tree) (p : Path) : Option Manifest :=
  match t.readText p with
  | .ok s => ofText? s
  | .error _ => none

/-- A manifest of the routes that a router lists, with the router and the tree behind. -/
def build (programs : Programs) (time : Text) (t : Tree) (router : Router) :
    Except Failure Manifest × Router × Tree :=
  match router.names programs t with
  | (.ok names, router, t) => (.ok (ofNames time names), router, t)
  | (.error failure, router, t) => (.error failure, router, t)

variable (disk : Disk)

/-- Makes the directory that a file will lie in. -/
def prepare (t : Tree) (output : Path) : Except Failure Unit × Tree :=
  match output.parent? with
  | none | some ⟨[]⟩ => (.ok (), t)
  | some parent =>
    match t.makeDirectories disk parent with
    | (.ok (), t) => (.ok (), t)
    | (.error fault, t) => (.error (.file .createDirectory parent fault), t)

/-- Puts a manifest into a file. When that fails, new directories may remain. -/
def store (manifest : Manifest) (t : Tree) (output : Path) : Except Failure Unit × Tree :=
  match prepare disk t output with
  | (.error failure, t) => (.error failure, t)
  | (.ok (), t) => t.replaceFile disk output (Bytes.ofText manifest.text)

/-- Builds a manifest and puts it into a file. -/
def generate (programs : Programs) (time : Text) (t : Tree) (router : Router) (output : Path) :
    Except Failure Manifest × Router × Tree :=
  match build programs time t router with
  | (.error failure, router, t) => (.error failure, router, t)
  | (.ok manifest, router, t) =>
    match store disk manifest t output with
    | (.ok (), t) => (.ok manifest, router, t)
    | (.error failure, t) => (.error failure, router, t)

end SkipChecks.Manifest
