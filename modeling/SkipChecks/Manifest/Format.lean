import SkipChecks.Json.Value
import SkipChecks.Manifest.Basic

/-!
# The text of a manifest

A manifest is written as a JSON object, indented by two spaces. Reading takes the members in any
order and layout, and members with other names along with them. What is absent is empty; what is
there must be of the right kind, and there only once. The three values in an array, in order, are
read as well.
-/

namespace SkipChecks.Manifest

def generatedAtKey : Text := "generated_at".toList

def routeCountKey : Text := "route_count".toList

def routesKey : Text := "routes".toList

/-- The manifest that a JSON value stands for. -/
def ofJson? : Json → Option Manifest
  | .array items =>
    match items with
    | [] => some empty
    | [time] => do return ⟨← time.textOrNull?, 0, []⟩
    | [time, count] => do return ⟨← time.textOrNull?, ← count.word?, []⟩
    | [time, count, routes] => do return ⟨← time.textOrNull?, ← count.word?, ← routes.texts?⟩
    | _ => none
  | value => do
    let members ← value.members?
    let time ← Json.field? members generatedAtKey none Json.textOrNull?
    let count ← Json.field? members routeCountKey 0 Json.word?
    let routes ← Json.field? members routesKey [] Json.texts?
    return ⟨time, count, routes⟩

def ofText? (s : Text) : Option Manifest := (Json.ofText? s).bind ofJson?

/-- The routes as an array, one a line. -/
def routesText : List Text → Text
  | [] => ['[', ']']
  | routes =>
    '[' :: Text.join [','] (routes.map fun name => "\n    ".toList ++ Json.quote name) ++
      "\n  ]".toList

/-- The keys and the texts of the values; a time that is absent is left out. -/
def members (manifest : Manifest) : List (Text × Text) :=
  (manifest.generatedAt.toList.map fun time => (generatedAtKey, Json.quote time)) ++
    [(routeCountKey, Text.ofNat manifest.routeCount.toNat),
      (routesKey, routesText manifest.routes)]

def text (manifest : Manifest) : Text :=
  '{' :: Text.join [','] (manifest.members.map fun (key, value) =>
    "\n  ".toList ++ Json.quote key ++ ": ".toList ++ value) ++ ['\n', '}', '\n']

example :
    text ⟨none, 1, [['a']]⟩ =
      "\x7b\n  \"route_count\": 1,\n  \"routes\": [\n    \"a\"\n  ]\n\x7d\n".toList := by
  decide +kernel

end SkipChecks.Manifest
