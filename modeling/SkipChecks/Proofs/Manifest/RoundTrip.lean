import SkipChecks.Manifest.Builder
import SkipChecks.Proofs.Json.Members
import SkipChecks.Proofs.Json.Values
import SkipChecks.Proofs.Tree.Replace

/-!
# Manifests read back

The text of a manifest is read as the JSON value that the manifest stands for, and that value as the
manifest. Strings may hold anything, and the number of routes need not be right. So a manifest that
is put into a file can be had from there.
-/

namespace SkipChecks.Manifest

open Json Json.Token Text

/-- The members of a written manifest: each key, the text of its value, and the value. -/
def values (manifest : Manifest) : List ((Text × Text) × Json) :=
  (manifest.generatedAt.toList.map fun time =>
    ((generatedAtKey, quote time), Json.string (some time))) ++
    [((routeCountKey, ofNat manifest.routeCount.toNat), Json.natural manifest.routeCount.toNat),
      ((routesKey, routesText manifest.routes),
        Json.array (manifest.routes.map fun name => .string (some name)))]

/-- The JSON value that a manifest is written as. -/
def toJson (manifest : Manifest) : Json :=
  .object (manifest.values.map fun ((key, _), value) => (some key, value))

theorem members_eq (manifest : Manifest) : manifest.members = manifest.values.map (·.1) := by
  simp [members, values, Function.comp_def]

/-! ## Reading the text -/

theorem reads_routesText (routes : List Text) :
    Reads .between (routesText routes)
      (tokens (.array (routes.map fun name => .string (some name)))) .between := by
  have hopen : Reads .between ['['] [.openArray] .between := .single rfl
  cases routes with
  | nil =>
      have hclose : Reads .between [']'] [.closeArray] .between := .single rfl
      exact hopen.append hclose
  | cons first others =>
      have hname (name : Text) : Writes ("\n    ".toList ++ quote name) [.string (some name)] := by
        have hindent : Reads .between "\n    ".toList [] .between :=
          .silent rfl (.silent rfl (.silent rfl (.silent rfl (.single rfl))))
        exact hindent.append_writes (reads_quote name).writes
      have hjoin := writes_join (fun name (_ : name ∈ first :: others) => hname name) (by simp)
        endsNumber_feed
      have hclose : Reads .between "  ]".toList [.closeArray] .between :=
        .silent rfl (.silent rfl (.single rfl))
      have hall := (hopen.append hjoin).append hclose
      rw [tokens, itemTokens_eq]
      simpa [routesText, tokens, Function.comp_def] using hall

theorem writes_value {manifest : Manifest} {member : (Text × Text) × Json}
    (h : member ∈ manifest.values) : Writes member.1.2 (tokens member.2) := by
  rcases List.mem_append.mp h with htime | hothers
  · obtain ⟨time, -, rfl⟩ := List.mem_map.mp htime
    exact (reads_quote time).writes
  · simp only [List.mem_cons, List.not_mem_nil, or_false] at hothers
    rcases hothers with rfl | rfl
    · exact writes_ofNat _
    · exact (reads_routesText manifest.routes).writes

/-- A member stands on an indented line, with its key in front. -/
theorem writes_member {manifest : Manifest} {member : (Text × Text) × Json}
    (h : member ∈ manifest.values) :
    Writes ("\n  ".toList ++ quote member.1.1 ++ ": ".toList ++ member.1.2)
      (memberToken (some member.1.1, member.2)) := by
  have hindent : Reads .between "\n  ".toList [] .between :=
    .silent rfl (.silent rfl (.single rfl))
  have hcolon : Reads .between ([':'] ++ [' ']) ([.colon] ++ []) .between :=
    .append (.single rfl) (.single rfl)
  exact ((hindent.append (reads_quote member.1.1)).append hcolon).append_writes (writes_value h)

theorem reads_text (manifest : Manifest) :
    Reads .between manifest.text (tokens manifest.toJson) .between := by
  have hopen : Reads .between ['\x7b'] [.openObject] .between := .single rfl
  have hclose : Reads .between (['\x7d'] ++ ['\n']) ([.closeObject] ++ []) .between :=
    .append (.single rfl) (.single rfl)
  have hne : manifest.values ≠ [] := by simp [values]
  have hmembers := writes_join (fun member hmember => writes_member hmember) hne endsNumber_feed
  have hall := (hopen.append hmembers).append hclose
  rw [toJson, tokens, memberTokens_eq, List.map_map]
  simpa [text, members_eq, Function.comp_def] using hall

/-! ## Reading the value -/

theorem ofJson?_toJson (manifest : Manifest) : ofJson? manifest.toJson = some manifest := by
  obtain ⟨time, count, routes⟩ := manifest
  have hcount : word? (.natural count.toNat) = some count := by
    rw [word?, if_pos count.toNat_lt, UInt64.ofNat_toNat]
  have hroutes := texts?_strings routes
  -- the keys differ, so each field finds its own member and no other one
  have htimeCount : (generatedAtKey == routeCountKey) = false := by decide
  have htimeRoutes : (generatedAtKey == routesKey) = false := by decide
  have hcountTime : (routeCountKey == generatedAtKey) = false := by decide
  have hcountRoutes : (routeCountKey == routesKey) = false := by decide
  have hroutesTime : (routesKey == generatedAtKey) = false := by decide
  have hroutesCount : (routesKey == routeCountKey) = false := by decide
  cases time <;>
    simp [ofJson?, toJson, values, members?, field?, textOrNull?, *]

/-- What is written for a manifest is read as that manifest. -/
theorem ofText?_text (manifest : Manifest) : ofText? manifest.text = some manifest := by
  rw [ofText?, Json.ofText?_of_reads (reads_text manifest)]
  exact ofJson?_toJson manifest

/-! ## Reading the file -/

theorem read?_of_read {t : Tree} {p : Path} {manifest : Manifest}
    (h : t.read p = .ok (Bytes.ofText manifest.text)) : read? t p = some manifest := by
  rw [read?, Tree.readText_eq_ok_iff.mpr h]
  exact ofText?_text manifest

/-- A file that holds the text of a manifest is read as that manifest, and written back as the same
text. So two manifests never have the same text. -/
theorem written_manifest_reads_back (manifest : Manifest) :
    (∀ t p, Tree.read t p = .ok (Bytes.ofText manifest.text) →
      read? t p = some manifest ∧ (read? t p).map text = some manifest.text) ∧
    ∀ other : Manifest, other.text = manifest.text → other = manifest := by
  constructor
  · intro t p hfile
    have hread := read?_of_read hfile
    exact ⟨hread, by rw [hread, Option.map_some]⟩
  · intro other htext
    have hother := ofText?_text other
    rw [htext, ofText?_text manifest] at hother
    exact (Option.some.inj hother).symm

/-- The greatest count beside two routes, and names that need escapes. -/
theorem written_manifest_reads_back_escaped :
    let manifest : Manifest :=
      ⟨some "now\\".toList, 18446744073709551615, ["\"\x07\n".toList, "é".toList]⟩
    let t := Tree.empty.put ["m.json".toList] (.file (Bytes.ofText manifest.text))
    t.read ⟨"m.json".toList⟩ = .ok (Bytes.ofText manifest.text) ∧
      read? t ⟨"m.json".toList⟩ = some manifest := by
  intro manifest t
  have hfile : t.read ⟨"m.json".toList⟩ = .ok (Bytes.ofText manifest.text) := rfl
  exact ⟨hfile, ((written_manifest_reads_back manifest).1 t _ hfile).1⟩

theorem read_of_store {disk : Disk} {manifest : Manifest} {t u : Tree} {output : Path}
    (h : store disk manifest t output = (.ok (), u)) :
    u.read output = .ok (Bytes.ofText manifest.text) := by
  rw [store] at h
  split at h
  next => cases h
  next => exact Tree.read_of_replaceFile h

section Generated

variable {disk : Disk} {programs : Programs} {time : Text} {t u : Tree} {router next : Router}
variable {manifest : Manifest}

theorem exists_of_build (h : build programs time t router = (.ok manifest, next, u)) :
    ∃ names, router.names programs t = (.ok names, next, u) ∧ manifest = ofNames time names := by
  rw [build] at h
  split at h
  next names _ _ hnames =>
    cases h
    exact ⟨names, hnames, rfl⟩
  next => cases h

/-- A manifest that is generated holds what the router lists, and is read from its file. -/
theorem exists_of_generate {output : Path}
    (h : generate disk programs time t router output = (.ok manifest, next, u)) :
    ∃ names middle, router.names programs t = (.ok names, next, middle) ∧
      manifest = ofNames time names ∧ u.read output = .ok (Bytes.ofText manifest.text) := by
  rw [generate] at h
  split at h
  next => cases h
  next middle hbuild =>
    split at h
    next hstore =>
      cases h
      obtain ⟨names, hnames, hmanifest⟩ := exists_of_build hbuild
      exact ⟨names, middle, hnames, hmanifest, read_of_store hstore⟩
    next => cases h

end Generated

end SkipChecks.Manifest
