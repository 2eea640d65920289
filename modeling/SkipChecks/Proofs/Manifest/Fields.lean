import SkipChecks.Proofs.Json.Recognition
import SkipChecks.Proofs.Manifest.RoundTrip

/-!
# Manifests in any layout

A file that holds an object is read by what its members tell, in whatever layout and order they are
written: each field once at most and with a value of its kind, and anything under other keys. Only
the keys have to stand for texts, all of them, since they are looked at before the fields are known.
-/

namespace SkipChecks.Manifest

open Json

variable {t : Tree} {p : Path} {s : Text} {members : List (Option Text × Json)}

/-- The value is null or the time. -/
def IsTime (value : Json) (time : Option Text) : Prop :=
  value = .null ∧ time = none ∨ ∃ s, value = .string (some s) ∧ time = some s

/-- The value is the count, written without sign, fraction and exponent. -/
def IsCount (value : Json) (count : UInt64) : Prop := value = .natural count.toNat

/-- The value is an array of the names. -/
def IsRoutes (value : Json) (names : List Text) : Prop :=
  value = .array (names.map fun name => .string (some name))

/-- What the members of an object have to be for it to be read as a manifest: every key stands for a
text, and each field of the manifest is told by them. -/
structure HeldBy (manifest : Manifest) (members : List (Option Text × Json)) : Prop where
  keys : ∀ member ∈ members, member.1 ≠ none
  generatedAt : Tells members generatedAtKey none IsTime manifest.generatedAt
  routeCount : Tells members routeCountKey 0 IsCount manifest.routeCount
  routes : Tells members routesKey [] IsRoutes manifest.routes

theorem ofJson?_object_iff (manifest : Manifest) :
    ofJson? (.object members) = some manifest ↔ manifest.HeldBy members := by
  have htime : (fun value time => textOrNull? value = some time) = IsTime := by
    ext value time
    exact textOrNull?_eq_some_iff
  have hcount : (fun value count => word? value = some count) = IsCount := by
    ext value count
    exact word?_eq_some_iff
  have hroutes : (fun value names => texts? value = some names) = IsRoutes := by
    ext value names
    exact texts?_eq_some_iff
  obtain ⟨time, count, routes⟩ := manifest
  simp only [ofJson?, Option.bind_eq_bind, Option.bind_eq_some_iff, Option.pure_def,
    Option.some.injEq, members?_eq_some_iff, field?_eq_some_iff, htime, hcount, hroutes,
    Manifest.mk.injEq]
  constructor
  · rintro ⟨_, ⟨rfl, hkeys⟩, _, htime, _, hcount, _, hroutes, rfl, rfl, rfl⟩
    exact ⟨hkeys, htime, hcount, hroutes⟩
  · rintro ⟨hkeys, htime, hcount, hroutes⟩
    exact ⟨_, ⟨rfl, hkeys⟩, _, htime, _, hcount, _, hroutes, rfl, rfl, rfl⟩

/-- A file that holds an object, in whatever layout, is read as the manifest that its members hold,
and as nothing when they hold none. -/
theorem read_object_iff (hfile : t.readText p = .ok s)
    (hs : (Json.object members).WrittenAs s) (manifest : Manifest) :
    read? t p = some manifest ↔ manifest.HeldBy members := by
  rw [read?, hfile]
  change ofText? s = some manifest ↔ _
  rw [ofText?, ofText?_eq_some_iff.mpr hs]
  exact ofJson?_object_iff manifest

/-- Escapes, blanks and members in any order, a member aside whose value holds half of a surrogate
pair, and the greatest count. -/
theorem read_object_iff_escaped :
    let s := "\n\x7b\"x\": [\x7b\"\\ud800\":-1.0E+9\x7d] ,\"rout\\u0065s\"".toList ++
      " :[\"\\uD83D\\uDE00\"]\t,\"route_count\":18446744073709551615\x7d\r\n".toList
    let members : List (Option Text × Json) :=
      [(some ['x'], .array [.object [(none, .number)]]),
        (some routesKey, .array [.string (some "😀".toList)]),
        (some routeCountKey, .natural 18446744073709551615)]
    let t := Tree.empty.put ["m.json".toList] (.file (Bytes.ofText s))
    let p : Path := ⟨"m.json".toList⟩
    t.readText p = .ok s ∧ (Json.object members).WrittenAs s ∧
      read? t p = some ⟨none, 18446744073709551615, ["😀".toList]⟩ := by
  intro s members t p
  have hfile : t.readText p = .ok s := by decide +kernel
  have htext : Token.ofText? s = some (tokens (.object members)) := by decide +kernel
  have hs : (Json.object members).WrittenAs s := Token.lays_of_ofText? htext
  have hroutes : members = members.take 1 ++ (some routesKey, .array [.string (some "😀".toList)]) ::
      members.drop 2 := rfl
  have hcount : members = members.take 2 ++ (some routeCountKey, .natural 18446744073709551615) ::
      [] := rfl
  refine ⟨hfile, hs, (read_object_iff hfile hs _).mpr ⟨by decide, ?_, ?_, ?_⟩⟩
  · exact .absent (by decide)
  · exact .present hcount (by decide) (by decide) rfl
  · exact .present hroutes (by decide) (by decide) rfl

/-- The only member has another key than the fields, but that key stands for no text: the file is
not read. -/
theorem unpaired_key_refused :
    let s := "\x7b\"\\ud800\": 0\x7d".toList
    let members : List (Option Text × Json) := [(none, .natural 0)]
    let t := Tree.empty.put ["m.json".toList] (.file (Bytes.ofText s))
    let p : Path := ⟨"m.json".toList⟩
    t.readText p = .ok s ∧ (Json.object members).WrittenAs s ∧
      Tells members generatedAtKey none IsTime none ∧ Tells members routeCountKey 0 IsCount 0 ∧
      Tells members routesKey [] IsRoutes [] ∧ read? t p = none := by
  intro s members t p
  have htext : Token.ofText? s = some (tokens (.object members)) := by decide +kernel
  refine ⟨by decide +kernel, Token.lays_of_ofText? htext, .absent (by decide),
    .absent (by decide), .absent (by decide), by decide +kernel⟩

end SkipChecks.Manifest
