import SkipChecks.Proofs.Reflection.Resolution
import SkipChecks.Proofs.Settings.Directories

/-!
# The layer that decides where a class lies

Layers are merged by the way in which a namespace is written, but a class is looked up in namespaces
with the backslash at their end completed, the shorter of two ways to write one first. So the
highest layer that has the namespace of a class decides where it lies, except where it is written
with its backslash there, and without it in a layer below. The stock layer writes every namespace
with its backslash, so this layer can only be the file, and the one above it the environment.
-/

namespace SkipChecks.Settings

open Autoload (completed Begins Deciding)

/-! ## The layer that decides -/

/-- A layer gives this to a namespace, which it writes with the backslash at its end or without. -/
def Assigns (layer : Value.Entries) (space : Text) (v : Value) : Prop :=
  ∃ spelled, completed spelled = completed space ∧ (namespacesOf layer).lookup spelled = some v

/-- The first of these layers that gives anything to the namespace gives this. -/
inductive Highest (space : Text) (v : Value) : List Value.Entries → Prop
  | here {layer : Value.Entries} {layers : List Value.Entries} (h : Assigns layer space v) :
      Highest space v (layer :: layers)
  | later {layer : Value.Entries} {layers : List Value.Entries}
      (hnone : ∀ u, ¬ Assigns layer space u) (h : Highest space v layers) :
      Highest space v (layer :: layers)

/-- The lower layer writes the namespace without the backslash at its end, the upper one only with
it, and they give different directories. -/
def Overruled (upper lower : Value.Entries) (space : Text) : Prop :=
  ∃ bare above below, completed bare = completed space ∧ ¬ ['\\'] <:+ bare ∧
    (namespacesOf upper).lookup bare = none ∧
    (namespacesOf upper).lookup (bare ++ ['\\']) = some above ∧
    (namespacesOf lower).lookup bare = some below ∧ above ≠ below

variable {upper lower : Value.Entries} {autoload : List (Text × Path)} {space name : Text}

theorem Highest.here_or_later {layer : Value.Entries} {layers : List Value.Entries} {v : Value}
    (h : Highest space v (layer :: layers)) :
    Assigns layer space v ∨ (∀ u, ¬ Assigns layer space u) ∧ Highest space v layers := by
  cases h with
  | here h => exact .inl h
  | later hnone h => exact .inr ⟨hnone, h⟩

/-- Of the two ways to write the namespace that decides, the shorter one is listed first. -/
theorem Stacked.eq_or_of_mem (h : Stacked upper lower autoload) (d : Deciding autoload name)
    {entry : Text × Path} (hentry : entry ∈ autoload)
    (heq : completed entry.1 = completed d.space) :
    entry.1 = d.space ∨ (entry.1 = d.space ++ ['\\'] ∧ ¬ ['\\'] <:+ d.space) := by
  have hle : d.space ≤ entry.1 := by
    have hpairwise := h.ascending
    rw [d.namespaces_eq] at hentry hpairwise
    rcases List.mem_append.mp hentry with hbefore | hafter
    · -- what is listed before is shorter
      have hbegins : Begins entry name := by
        rw [Begins, heq]
        exact d.begins
      have hlonger := d.longer entry hbefore hbegins
      rw [heq] at hlonger
      exact absurd hlonger (lt_irrefl _)
    · rcases List.mem_cons.mp hafter with rfl | hafter
      · exact le_refl _
      · have hbehind := (List.pairwise_append.mp hpairwise).2.1
        exact le_of_lt ((List.pairwise_cons.mp hbehind).1 entry hafter)
  rcases Autoload.eq_or_of_completed_eq heq with hsame | hlong | hshort
  · exact .inl hsame
  · exact .inr hlong
  · have hmore : ([] : Text) < ['\\'] := by simp
    have hlt : entry.1 ++ [] < entry.1 ++ ['\\'] := List.append_left_lt hmore
    rw [List.append_nil, hshort] at hlt
    exact absurd hle (not_le_of_gt hlt)

theorem Stacked.eq_or_of_assigns (h : Stacked upper lower autoload) (d : Deciding autoload name)
    {layer : Value.Entries} (hlayer : layer ∈ [upper, lower]) {v : Value}
    (hv : Assigns layer d.space v) :
    (namespacesOf layer).lookup d.space = some v ∨
      ((namespacesOf layer).lookup (d.space ++ ['\\']) = some v ∧ ¬ ['\\'] <:+ d.space) := by
  obtain ⟨spelled, heq, hv⟩ := hv
  obtain ⟨directory, hmem⟩ := h.listed layer hlayer spelled v hv
  rcases h.eq_or_of_mem d hmem heq with hsame | ⟨hlong, hbare⟩
  · exact .inl (hsame ▸ hv)
  · exact .inr ⟨hlong ▸ hv, hbare⟩

theorem suffix_of_mem_standard : ∀ entry ∈ standard.autoload, ['\\'] <:+ entry.1 := by
  decide

/-- The directory that decides is given by the lower layer when the upper one does not write the
namespace in the same way, unless it is a stock one. -/
theorem Stacked.overruled_iff (h : Stacked upper lower autoload) (d : Deciding autoload name) :
    Overruled upper lower d.space ↔
      (¬ ['\\'] <:+ d.space ∧ (namespacesOf upper).lookup d.space = none) ∧
      (namespacesOf lower).lookup d.space = some (.text d.directory.text) ∧
      ∃ above, (namespacesOf upper).lookup (d.space ++ ['\\']) = some above ∧
        above ≠ .text d.directory.text := by
  constructor
  · rintro ⟨bare, above, below, heq, hbare, hnone, habove, hbelow, hne⟩
    obtain ⟨directory, hmem⟩ := h.listed lower (by simp) bare below hbelow
    obtain rfl : bare = d.space := by
      refine (h.eq_or_of_mem d hmem heq).resolve_right fun ⟨hlong, _⟩ => hbare ?_
      exact ⟨d.space, hlong.symm⟩
    have hlower : (namespacesOf lower).lookup d.space = some (.text d.directory.text) := by
      rcases h.given _ d.mem with hupper | ⟨-, hlower | ⟨hnone, -⟩⟩
      · rw [hupper] at hnone
        cases hnone
      · exact hlower
      · rw [hnone] at hbelow
        cases hbelow
    obtain rfl := Option.some.inj (hbelow.symm.trans hlower)
    exact ⟨⟨hbare, hnone⟩, hlower, above, habove, hne⟩
  · rintro ⟨⟨hbare, hnone⟩, hlower, above, habove, hne⟩
    exact ⟨d.space, above, _, rfl, hbare, hnone, habove, hlower, hne⟩

/-- Where the upper layer writes the namespace only with the backslash at its end, and without it is
the way that decides, what it gives counts just when it makes no difference. -/
theorem Stacked.highest_iff_of_long (h : Stacked upper lower autoload) (d : Deciding autoload name)
    (hnone : (namespacesOf upper).lookup d.space = none) (hbare : ¬ ['\\'] <:+ d.space)
    {above : Value} (habove : (namespacesOf upper).lookup (d.space ++ ['\\']) = some above)
    (layers : List Value.Entries) :
    Highest d.space (.text d.directory.text) (upper :: layers) ↔
      above = .text d.directory.text := by
  have hassigns : Assigns upper d.space above := ⟨_, Autoload.completed_append hbare, habove⟩
  constructor
  · intro hhighest
    rcases hhighest.here_or_later with hv | ⟨hnothing, -⟩
    · rcases h.eq_or_of_assigns d List.mem_cons_self hv with hv | ⟨hv, -⟩
      · rw [hnone] at hv
        cases hv
      · exact Option.some.inj (habove.symm.trans hv)
    · exact absurd hassigns (hnothing above)
  · rintro rfl
    exact .here hassigns

theorem Stacked.highest_iff (h : Stacked upper lower autoload) (d : Deciding autoload name) :
    Highest d.space (.text d.directory.text) [upper, lower, standard.toEntries] ↔
      ¬ Overruled upper lower d.space := by
  rw [h.overruled_iff d]
  rcases h.given _ d.mem with hupper | ⟨hnone, hlower⟩
  · refine iff_of_true (.here ⟨d.space, rfl, hupper⟩) fun hover => ?_
    rw [hupper] at hover
    cases hover.1.2
  by_cases hlong : ¬ ['\\'] <:+ d.space ∧
      ∃ above, (namespacesOf upper).lookup (d.space ++ ['\\']) = some above
  · obtain ⟨hbare, above, habove⟩ := hlong
    have hbelow := hlower.resolve_right fun ⟨_, hstock⟩ =>
      hbare (suffix_of_mem_standard _ hstock)
    rw [h.highest_iff_of_long d hnone hbare habove]
    simp [hbare, hnone, hbelow, habove]
  · -- the upper layer gives nothing to the namespace
    have hnothing : ∀ v, ¬ Assigns upper d.space v := fun v hv => by
      rcases h.eq_or_of_assigns d List.mem_cons_self hv with hv | ⟨hv, hbare⟩
      · rw [hnone] at hv
        cases hv
      · exact hlong ⟨hbare, v, hv⟩
    refine iff_of_true (.later hnothing ?_) fun ⟨⟨hbare, _⟩, _, above, habove, _⟩ =>
      hlong ⟨hbare, above, habove⟩
    rcases hlower with hlower | ⟨hlower, hstock⟩
    · exact .here ⟨d.space, rfl, hlower⟩
    · refine .later (fun v hv => ?_) (.here ⟨d.space, rfl, lookup_standard.mpr hstock⟩)
      rcases h.eq_or_of_assigns d (by simp) hv with hv | ⟨-, hbare⟩
      · rw [hlower] at hv
        cases hv
      · exact hbare (suffix_of_mem_standard _ hstock)

/-! ## Loaded settings -/

variable {t : Tree} {asked : Option Path} {environment : Environment}

/-- The directory of a class is the one of the highest layer that gives one to its namespace, that
is the longest that begins its name: the environment before the file, and the file before what is
stock. It does not matter how a layer writes the namespace, except in one case: where the file
writes it without the backslash at its end and the environment only with it, the directory of the
file is taken. -/
theorem highest_layer_decides_iff {settings : Settings}
    (h : load t asked environment = .ok settings) (name : Text) :
    ∃ file, fileLayer t asked = .ok file ∧
      ((∃ entry ∈ settings.autoload, Begins entry name) →
        Nonempty (Deciding settings.autoload name)) ∧
      ∀ d : Deciding settings.autoload name,
        let upper := Environment.layer names environment
        (∀ root, (settings.autoloadFrom root).file? name = some (d.file root)) ∧
        (Highest d.space (.text d.directory.text) [upper, file, standard.toEntries] ↔
          ¬ Overruled upper file d.space) ∧
        (Overruled upper file d.space → Assigns file d.space (.text d.directory.text)) := by
  obtain ⟨file, hfile, hread, -⟩ := exists_of_load h
  have hstacked := stacked_of_ofLayers (fileGives_of_fileLayer hfile).tidy hread
  refine ⟨file, hfile, Autoload.exists_deciding, fun d => ⟨fun root =>
    Autoload.file?_eq_some root d, hstacked.highest_iff d, fun hover => ?_⟩⟩
  exact ⟨d.space, rfl, ((hstacked.overruled_iff d).mp hover).2.1⟩

/-- A namespace that all three layers have: the environment wins, although the others write it
differently. -/
theorem highest_layer_decides_iff_tests :
    let t : Tree :=
      ⟨[(["skipguard.toml".toList], .file (Bytes.ofText "autoload.'Tests\\'='b'".toList))], []⟩
    let environment : Environment := [("SKIPGUARD_AUTOLOAD".toList, "\x7bTests=\"c\"\x7d".toList)]
    let autoload := standard.autoload.dropLast ++
      [("Tests".toList, Path.mk ['c']), ("Tests\\".toList, ⟨['b']⟩)]
    load t none environment = .ok { standard with autoload } ∧
      ∃ file, fileLayer t none = .ok file ∧ Highest "Tests".toList (.text ['c'])
        [Environment.layer names environment, file, standard.toEntries] := by
  intro t environment autoload
  have hload : load t none environment = .ok { standard with autoload } := by decide +kernel
  obtain ⟨file, hfile, -, hdeciding⟩ := highest_layer_decides_iff hload "Tests\\Login".toList
  let d : Deciding autoload "Tests\\Login".toList :=
    ⟨standard.autoload.dropLast, "Tests".toList, ⟨['c']⟩, [("Tests\\".toList, ⟨['b']⟩)],
      "Login".toList, rfl, by decide, by decide, by decide⟩
  refine ⟨hload, file, hfile, (hdeciding d).2.1.mpr ?_⟩
  rintro ⟨bare, -, -, heq, hbare, hnone, -⟩
  have hgiven : ((namespacesOf (Environment.layer names environment)).lookup
      "Tests".toList).isSome := by
    decide +kernel
  rcases Autoload.eq_or_of_completed_eq heq with rfl | ⟨rfl, -⟩ | hshort
  · rw [hnone] at hgiven
    cases hgiven
  · exact hbare (List.suffix_append _ _)
  · have hlast := congrArg List.getLast? hshort
    simp [d] at hlast

/-- The environment has another directory for a namespace of the file, but writes a backslash at its
end. -/
theorem bare_spelling_hides_environment :
    let t : Tree :=
      ⟨[(["skipguard.toml".toList], .file (Bytes.ofText "autoload.App='src'".toList))], []⟩
    let environment : Environment :=
      [("SKIPGUARD_AUTOLOAD".toList, "\x7b\"App\\\\\"=\"lib\"\x7d".toList)]
    let autoload := ("App".toList, Path.mk "src".toList) :: ("App\\".toList, ⟨"lib".toList⟩) ::
      standard.autoload.tail
    load t none environment = .ok { standard with autoload } ∧
      (Autoload.ofNamespaces ⟨['.']⟩ autoload).file? "App\\User".toList =
        some ⟨"./src/User.php".toList⟩ ∧
      ∃ d : Deciding autoload "App\\User".toList, ∀ file,
        ¬ Highest d.space (.text d.directory.text)
          [Environment.layer names environment, file, standard.toEntries] := by
  intro t environment autoload
  refine ⟨by decide +kernel, by decide +kernel, ⟨[], "App".toList, ⟨"src".toList⟩,
    ("App\\".toList, ⟨"lib".toList⟩) :: standard.autoload.tail, "User".toList, rfl, by decide,
    by decide, by decide⟩, fun file hhighest => ?_⟩
  have hlayer : namespacesOf (Environment.layer names environment) =
      [("App\\".toList, .text "lib".toList)] := by
    have hread : readPaths [] (.table (namespacesOf (Environment.layer names environment))) =
        .ok [("App\\".toList, ⟨"lib".toList⟩)] := by
      decide +kernel
    exact Value.table.inj (eq_directories_of_readPaths hread)
  rcases hhighest.here_or_later with ⟨spelled, -, hv⟩ | ⟨hnone, -⟩
  · rw [hlayer] at hv
    have hmem := List.mem_singleton.mp (Entries.mem_of_lookup hv)
    have hdirectory := Value.text.inj (Prod.mk.inj hmem).2
    revert hdirectory
    decide
  · refine hnone (.text "lib".toList) ⟨"App\\".toList, by decide, ?_⟩
    rw [hlayer]
    rfl

end SkipChecks.Settings
