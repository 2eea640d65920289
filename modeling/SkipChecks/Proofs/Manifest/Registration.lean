import Mathlib.Data.List.Induction
import SkipChecks.Proofs.Basic
import SkipChecks.Proofs.Manifest.RoundTrip

/-!
# Names registered once

The routes of a manifest are what is left when names are registered one after the other: a name that
is there already changes nothing, and a new one goes behind the others. So each name stays at its
first place among all that were registered, and names that are registered later move none of those
before them.
-/

namespace SkipChecks.Manifest

variable {routes others names : List Text}

/-- The routes are the names, in the order in which each of them comes first. -/
structure Registered (routes names : List Text) : Prop where
  mem_iff : ∀ name, name ∈ routes ↔ name ∈ names
  ascending : routes.Pairwise fun first second => names.idxOf first < names.idxOf second

namespace Registered

theorem nil : Registered [] [] := ⟨fun _ => Iff.rfl, .nil⟩

/-- One more name is registered. -/
theorem concat (h : Registered routes names) (name : Text) :
    Registered (if name ∈ names then routes else routes ++ [name]) (names ++ [name]) := by
  have hplace : ∀ route ∈ routes, (names ++ [name]).idxOf route = names.idxOf route :=
    fun route hroute => List.idxOf_append_of_mem ((h.mem_iff route).mp hroute)
  have hascending : routes.Pairwise fun first second =>
      (names ++ [name]).idxOf first < (names ++ [name]).idxOf second := by
    refine h.ascending.imp_of_mem fun hfirst hsecond hlt => ?_
    rwa [hplace _ hfirst, hplace _ hsecond]
  split
  next hthere =>
    refine ⟨fun other => ?_, hascending⟩
    rw [h.mem_iff, List.mem_append, List.mem_singleton]
    exact ⟨.inl, fun hother => hother.elim id fun heq => heq ▸ hthere⟩
  next hnew =>
    refine ⟨fun other => ?_, List.pairwise_append.mpr ⟨hascending, List.pairwise_singleton _ _, ?_⟩⟩
    · rw [List.mem_append, h.mem_iff, List.mem_append]
    · -- the first place of a new name is behind all names so far
      intro route hroute last hlast
      obtain rfl := List.mem_singleton.mp hlast
      rw [hplace route hroute, List.idxOf_append_of_notMem hnew]
      exact Nat.lt_add_right _ (List.idxOf_lt_length_of_mem ((h.mem_iff route).mp hroute))

theorem nodup (h : Registered routes names) : routes.Nodup :=
  h.ascending.imp fun hlt heq => hlt.ne (congrArg names.idxOf heq)

/-- Only one list is left of the names. -/
theorem eq (h : Registered routes names) (hothers : Registered others names) : routes = others :=
  Entries.eq_of_mem_iff h.ascending hothers.ascending fun name => by
    rw [h.mem_iff, hothers.mem_iff]

/-- Names that all differ are left as they are. -/
theorem of_nodup (h : names.Nodup) : Registered names names where
  mem_iff _ := Iff.rfl
  ascending := by
    rw [List.pairwise_iff_getElem]
    intro i j hi hj hlt
    rwa [h.idxOf_getElem, h.idxOf_getElem]

end Registered

/-! ## Routes of manifests -/

theorem routes_ofNames_concat (time : Text) (names : List Text) (name : Text) :
    (ofNames time (names ++ [name])).routes =
      if name ∈ names then (ofNames time names).routes
      else (ofNames time names).routes ++ [name] := by
  change (names ++ [name]).eraseDups =
    if name ∈ names then names.eraseDups else names.eraseDups ++ [name]
  rw [List.eraseDups_append, List.removeAll]
  by_cases h : name ∈ names
  · simp [h]
  · simp [h, List.eraseDups_cons]

theorem registered_ofNames (time : Text) (names : List Text) :
    Registered (ofNames time names).routes names := by
  induction names using List.reverseRecOn with
  | nil => exact .nil
  | append_singleton names name ih =>
      rw [routes_ofNames_concat]
      exact ih.concat name

theorem routes_ofNames_prefix (time later : Text) (names more : List Text) :
    (ofNames time names).routes <+: (ofNames later (names ++ more)).routes := by
  change names.eraseDups <+: (names ++ more).eraseDups
  rw [List.eraseDups_append]
  exact List.prefix_append _ _

theorem ofNames_of_nodup {routes : List Text} (h : routes.Nodup) (time : Text) :
    ofNames time routes = ⟨some time, UInt64.ofNat routes.length, routes⟩ := by
  have hsame : routes.eraseDups = routes := (registered_ofNames time routes).eq (.of_nodup h)
  rw [ofNames, hsame]

/-- What holds of a manifest that is built from names. Its count is a machine word: it is right for
as many routes as a word can count, and no list in a memory is longer. -/
structure Records (manifest : Manifest) (names : List Text) : Prop
    extends Registered manifest.routes names where
  nodup : manifest.routes.Nodup
  routeCount_eq : manifest.routeCount = UInt64.ofNat manifest.routes.length
  toNat_routeCount_iff :
    manifest.routeCount.toNat = manifest.routes.length ↔ manifest.routes.length < UInt64.size
  contains_iff : ∀ name, manifest.contains name ↔ name ∈ names
  again : ∀ time, ofNames time manifest.routes = { manifest with generatedAt := some time }
  begins : ∀ time more, manifest.routes <+: (ofNames time (names ++ more)).routes

theorem records_ofNames (time : Text) (names : List Text) : (ofNames time names).Records names where
  toRegistered := registered_ofNames time names
  nodup := (registered_ofNames time names).nodup
  routeCount_eq := rfl
  toNat_routeCount_iff := by
    rw [ofNames, UInt64.toNat_ofNat']
    exact ⟨fun h => h ▸ Nat.mod_lt _ (by decide), Nat.mod_eq_of_lt⟩
  contains_iff name := by
    rw [contains, List.contains_iff_mem]
    exact (registered_ofNames time names).mem_iff name
  again := ofNames_of_nodup (registered_ofNames time names).nodup
  begins later := routes_ofNames_prefix time later names

/-- A manifest that is built, in a file or not, is made of the names that the router lists. -/
theorem exists_names_of_built {disk : Disk} {programs : Programs} {time : Text} {t : Tree} {router : Router}
    {output : Path} {manifest : Manifest}
    (h : (build programs time t router).1 = .ok manifest ∨
      (generate disk programs time t router output).1 = .ok manifest) :
    ∃ names, (router.names programs t).1 = .ok names ∧ manifest = ofNames time names := by
  rcases h with hbuild | hgenerate
  · rcases h : build programs time t router with ⟨answer, next, u⟩
    rw [h] at hbuild
    cases hbuild
    obtain ⟨names, hnames, hmanifest⟩ := exists_of_build h
    exact ⟨names, by rw [hnames], hmanifest⟩
  · rcases h : generate disk programs time t router output with ⟨answer, next, u⟩
    rw [h] at hgenerate
    cases hgenerate
    obtain ⟨names, middle, hnames, hmanifest, -⟩ := exists_of_generate h
    exact ⟨names, by rw [hnames], hmanifest⟩

theorem build_of_names {programs : Programs} {t : Tree} {router : Router} {names : List Text}
    (h : (router.names programs t).1 = .ok names) (time : Text) :
    (build programs time t router).1 = .ok (ofNames time names) := by
  rcases hlisted : router.names programs t with ⟨answer, next, u⟩
  rw [hlisted] at h
  cases h
  rw [build, hlisted]

/-- Every manifest records the names it was built from: each once, where it comes first, and none
beside them. That holds of any names, and so of those that a router lists, which make up every
manifest that is built, in a file or not. -/
theorem built_manifests_record_names :
    (∀ time names, (ofNames time names).Records names) ∧
    ∀ (disk : Disk) (programs : Programs) (time : Text) (t : Tree) (router : Router),
      (∀ names, (router.names programs t).1 = .ok names →
        (build programs time t router).1 = .ok (ofNames time names)) ∧
      ∀ output manifest, (build programs time t router).1 = .ok manifest ∨
          (generate disk programs time t router output).1 = .ok manifest →
        ∃ names, (router.names programs t).1 = .ok names ∧ manifest = ofNames time names ∧
          manifest.Records names := by
  refine ⟨records_ofNames, fun disk programs time t router => ⟨fun names hnames =>
    build_of_names hnames time, fun output manifest hbuilt => ?_⟩⟩
  obtain ⟨names, hnames, rfl⟩ := exists_names_of_built hbuilt
  exact ⟨names, hnames, rfl, records_ofNames time names⟩

/-- Of a route that is registered again the first place stays. -/
theorem built_manifests_record_names_repeated :
    let names := ["home".toList, "login".toList, "home".toList, "dashboard".toList, "login".toList]
    let manifest : Manifest :=
      ⟨some "now".toList, 3, ["home".toList, "login".toList, "dashboard".toList]⟩
    let stopped : Programs := fun _ t => (.error .notFound, t)
    (generate .obliging stopped "now".toList .empty (.fixed names)
        ⟨"new/m.json".toList⟩).1 = .ok manifest ∧
      manifest.Records names := by
  intro names manifest stopped
  have hgenerated : (generate .obliging stopped "now".toList .empty (.fixed names)
      ⟨"new/m.json".toList⟩).1 = .ok manifest := by decide +kernel
  obtain ⟨listed, hlisted, -, hrecords⟩ := (built_manifests_record_names.2 .obliging stopped
    "now".toList .empty (.fixed names)).2 ⟨"new/m.json".toList⟩ manifest (.inr hgenerated)
  obtain rfl : names = listed := Except.ok.inj hlisted
  exact ⟨hgenerated, hrecords⟩

end SkipChecks.Manifest
