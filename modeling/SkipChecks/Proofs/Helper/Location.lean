import SkipChecks.CommandLine.Execution
import SkipChecks.Proofs.Path.Parts

/-!
# The manifest that helpers read

Helpers look for the manifest behind the directory of their own file. The location that is written
into them leads there from that directory whenever the manifest lies below it. A bootstrap file that
is named without a directory has every path below it, also one that starts at the root; behind a
directory, that one leads elsewhere.
-/

namespace SkipChecks.Helper

variable {bootstrap manifest relative working : Path}

/-- The directory part of the path of a file; empty when there is none. -/
def folder (file : Path) : Path := file.parent?.getD ⟨[]⟩

/-- The path under which appended helpers look for the manifest, as seen from the root. -/
def Appender.opened (working : Path) (appender : Appender) : Path :=
  ⟨(working.join (folder appender.bootstrap)).text ++ '/' :: appender.location⟩

theorem parts_of_manifestFrom? (h : Execution.manifestFrom? bootstrap manifest = some relative) :
    ∃ parts, relative = ⟨Path.showParts parts⟩ ∧ manifest.parts = (folder bootstrap).parts ++ parts := by
  obtain ⟨parts, hparts, rfl⟩ := Option.map_eq_some_iff.mp h
  exact ⟨parts, rfl, (List.isPrefixOf?_eq_some_iff_append_eq.mp hparts).symm⟩

/-- What is written into the helpers leads on from the folder as the manifest does. -/
theorem moves_location (h : Execution.manifestFrom? bootstrap manifest = some relative) :
    (folder bootstrap).moves ++ Path.moves ⟨location relative⟩ = manifest.moves := by
  obtain ⟨parts, rfl, hparts⟩ := parts_of_manifestFrom? h
  have hbehind : ∀ part ∈ parts, part ∈ manifest.parts := by
    intro part hpart
    rw [hparts]
    exact List.mem_append_right _ hpart
  rw [location, Path.moves_showParts fun part hpart => hpart, Path.filter_isMove_parts,
    Path.moves_showParts hbehind, ← Path.filter_isMove_parts manifest, hparts, List.filter_append,
    Path.filter_isMove_parts]

theorem opened_parts (h : Execution.manifestFrom? bootstrap manifest = some relative)
    (hworking : working.isRooted) :
    (((Appender.standard bootstrap).reading relative).opened working).parts =
      .root :: if (folder bootstrap).isRooted then manifest.moves
        else working.moves ++ manifest.moves := by
  have hstart : (working.join (folder bootstrap)).isRooted := by
    rw [Path.isRooted_join, hworking, Bool.true_or]
  have hrooted : (((Appender.standard bootstrap).reading relative).opened working).isRooted :=
    Path.isRooted_append hstart _
  have hmoves : (((Appender.standard bootstrap).reading relative).opened working).moves =
      (working.join (folder bootstrap)).moves ++ Path.moves ⟨location relative⟩ :=
    Path.moves_append_slash _ _
  rw [Path.parts_of_isRooted hrooted, hmoves, Path.moves_join, ← moves_location h]
  split
  · rfl
  · rw [List.append_assoc]

/-- Where the manifest lies below the folder of the bootstrap file, the helpers open it, unless the
bootstrap file is named without a folder and the manifest from the root. -/
theorem opened_parts_eq_iff (h : Execution.manifestFrom? bootstrap manifest = some relative)
    (hworking : working.isRooted) :
    (((Appender.standard bootstrap).reading relative).opened working).parts =
        (working.join manifest).parts ↔
      ¬ (manifest.isRooted ∧ (folder bootstrap).parts = [] ∧ working.parts ≠ [.root]) := by
  obtain ⟨parts, -, hparts⟩ := parts_of_manifestFrom? h
  have hjoin : (working.join manifest).isRooted := by
    rw [Path.isRooted_join, hworking, Bool.true_or]
  rw [opened_parts h hworking, Path.parts_of_isRooted hjoin, Path.moves_join,
    Path.parts_of_isRooted hworking]
  by_cases hfolder : (folder bootstrap).isRooted
  · -- then the manifest starts at the root as well
    have hroot : .root ∈ (folder bootstrap).parts := Path.root_mem_parts_iff.mpr hfolder
    have hmanifest : manifest.isRooted := by
      rw [← Path.root_mem_parts_iff, hparts]
      exact List.mem_append_left parts hroot
    simp [hfolder, hmanifest, List.ne_nil_of_mem hroot]
  · by_cases hmanifest : manifest.isRooted
    · -- the root is not in the folder, so there is nothing in front of it
      have hempty : (folder bootstrap).parts = [] := by
        rw [Path.parts_of_isRooted hmanifest] at hparts
        cases hall : (folder bootstrap).parts with
        | nil => rfl
        | cons first others =>
            rw [hall, List.cons_append] at hparts
            obtain ⟨rfl, -⟩ := List.cons.inj hparts
            exact absurd (Path.root_mem_parts_iff.mp (hall ▸ List.mem_cons_self)) hfolder
      simp [hfolder, hmanifest, hempty]
    · simp [hfolder, hmanifest]

/-- Dots and repeated slashes in both paths, and the working directory in neither. -/
theorem opened_parts_eq_iff_dotted :
    let bootstrap : Path := ⟨"./tests/..//tests/Pest.php".toList⟩
    let manifest : Path := ⟨"./tests//.././tests/it's/./routes.json/".toList⟩
    let working : Path := ⟨"/app".toList⟩
    ∃ relative, Execution.manifestFrom? bootstrap manifest = some relative ∧
      (((Appender.standard bootstrap).reading relative).opened working).parts =
        (working.join manifest).parts := by
  intro bootstrap manifest working
  have hrelative : Execution.manifestFrom? bootstrap manifest =
      some ⟨"it's/routes.json".toList⟩ := by
    decide +kernel
  refine ⟨_, hrelative, (opened_parts_eq_iff hrelative (by decide)).mpr ?_⟩
  rintro ⟨hmanifest, -⟩
  revert hmanifest
  decide

/-- The folder is empty, so every manifest counts as lying below it; the helpers look for this one
below the working directory. -/
theorem rooted_manifest_not_opened :
    let bootstrap : Path := ⟨"Pest.php".toList⟩
    let manifest : Path := ⟨"/srv/routes.json".toList⟩
    let working : Path := ⟨"/app".toList⟩
    ∃ relative, Execution.manifestFrom? bootstrap manifest = some relative ∧
      (((Appender.standard bootstrap).reading relative).opened working).parts =
        [.root, .name "app".toList, .name "srv".toList, .name "routes.json".toList] ∧
      (working.join manifest).parts = [.root, .name "srv".toList, .name "routes.json".toList] := by
  refine ⟨⟨"//srv/routes.json".toList⟩, ?_, ?_, ?_⟩
  · decide +kernel
  · decide +kernel
  · decide +kernel

end SkipChecks.Helper
