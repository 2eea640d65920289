import SkipChecks.Dependencies
import SkipChecks.Reflection.Autoload
import SkipChecks.Reflection.MethodDeclaration
import SkipChecks.Tree.Resolve

/-!
# Reflection

Which methods there are is answered from a list, or from the sources of classes. Only the file of
the class itself is read, so methods that come from elsewhere are not seen.
-/

namespace SkipChecks

/-- Where methods are looked up. -/
inductive Reflection
  | listed (methods : List Method)
  | sources (autoload : Autoload)
  deriving DecidableEq, Repr

def Reflection.hasMethod (t : Tree) (method : Method) : Reflection → Bool
  | listed methods => methods.contains method
  | sources autoload =>
    match autoload.file? method.className with
    | some p =>
      match t.readText p with
      | .ok source => MethodDeclaration.declares source method.name
      | .error _ => false
    | none => false

end SkipChecks
