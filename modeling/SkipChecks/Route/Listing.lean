import SkipChecks.Json.Value
import SkipChecks.Program.Outcome
import SkipChecks.Text.Blank

/-!
# Route listings

A program lists the routes of an application as a JSON array. An entry is an object with a `name`,
or an array of that one field; a route without a name is not listed.
-/

namespace SkipChecks.Listing

/-- The name in an entry, if it has one. -/
def entryName? (entry : Json) : Option (Option Text) :=
  match entry with
  | .array [] => some none
  | .array [name] => name.textOrNull?
  | _ => do
    let members ← entry.members?
    Json.field? members "name".toList none Json.textOrNull?

/-- The names in a listing, in its order. -/
def ofJson? : Json → Option (List Text)
  | .array entries => (entries.mapM entryName?).map fun names => names.filterMap id
  | _ => none

/-- The characters of an output. Bytes that are no text are put as escapes that stand for none,
which only a string that is skipped may hold, and which are no half of a character with what stands
next to them; behind a backslash they are put as a control character, which no string may hold. -/
def readable (afterBackslash : Bool) : List (Option Char) → Text
  | [] => []
  | some c :: rest => c :: readable (c == '\\' && !afterBackslash) rest
  | none :: rest =>
    if afterBackslash then '\x00' :: readable false rest
    else "\\udc00\\udc00".toList ++ readable false rest

/-- The names that a program's output lists. -/
def ofOutput? (output : Bytes) : Option (List Text) :=
  (Json.ofText? (readable false (Bytes.pieces none output.toList))).bind ofJson?

end SkipChecks.Listing
