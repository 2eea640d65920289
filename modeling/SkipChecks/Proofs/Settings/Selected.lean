import Mathlib.Algebra.Order.BigOperators.Group.List
import Mathlib.Algebra.Order.Group.Nat
import SkipChecks.Proofs.Path.Files
import SkipChecks.Settings.Basic

/-!
# Settings that select a file

Settings that make sense leave room for a file that gets guards if any file can have the extension:
it lies in the target directory, which may be one of the dots, under a name that is not excluded.
What is asked of an extension is less than that. It may hold a dot behind its first character, or a
slash, and then no file has it.
-/

namespace SkipChecks

namespace Selection

variable {selection : Selection} {p : Path}

theorem extension?_of_isEligible (h : selection.isEligible p) :
    p.extension? = some selection.extension := by
  unfold isEligible at h
  split at h
  next =>
    simp only [Bool.and_eq_true, beq_iff_eq] at h
    exact h.1.1
  next => cases h

/-- A list of names leaves names with any ending, since some are longer than all in the list. -/
theorem exists_stem (names : List Text) (ending : Text) :
    ∃ stem, stem ≠ [] ∧ '/' ∉ stem ∧ '.' ∉ stem ∧ stem ++ ending ∉ names := by
  let bound := (names.map List.length).sum
  refine ⟨List.replicate (bound + 1) 'a', by simp, by simp, by simp, fun hmem => ?_⟩
  have hle : (List.replicate (bound + 1) 'a' ++ ending).length ≤ bound :=
    List.le_sum_of_mem (List.mem_map_of_mem hmem)
  rw [List.length_append, List.length_replicate] at hle
  omega

theorem exists_isEligible (hdot : '.' ∉ selection.extension) (hslash : '/' ∉ selection.extension)
    (htarget : selection.targetSubdir ≠ []) (hpiece : '/' ∉ selection.targetSubdir) :
    ∃ p, selection.isEligible p := by
  obtain ⟨stem, hstem, hfree, hplain, hkept⟩ :=
    exists_stem selection.excludedFiles ('.' :: selection.extension)
  have hname : Path.IsStep (stem ++ '.' :: selection.extension) := by
    obtain ⟨c, rest, rfl⟩ := List.exists_cons_of_ne_nil hstem
    have hc : c ≠ '.' := fun heq => hplain (heq ▸ List.mem_cons_self)
    refine ⟨by simp, fun heq => ?_, fun heq => ?_, by simp_all⟩ <;>
      exact hc (List.cons.inj heq).1
  refine ⟨(Path.mk selection.targetSubdir).join ⟨stem ++ '.' :: selection.extension⟩, ?_⟩
  have hextension : (Path.splitName (stem ++ '.' :: selection.extension)).2 =
      some selection.extension :=
    congrArg Prod.snd (Path.splitName_eq_some_iff.mpr ⟨hstem, hdot, rfl⟩)
  have hbelow : selection.isBelowTarget
      ((Path.mk selection.targetSubdir).join ⟨stem ++ '.' :: selection.extension⟩) := by
    rw [isBelowTarget, Path.parent?_join htarget hpiece hname]
    simpa using Path.exists_mem_parts htarget hpiece
  rw [isEligible, Path.extension?, Path.fileName?_join _ hname]
  simp [hextension, hbelow, hkept]

end Selection

namespace Settings

variable {settings : Settings}

theorem fault?_eq_none_iff : settings.fault? = none ↔
    Text.trim (settings.routesCommand.headD []) ≠ [] ∧
      (settings.extension ≠ [] ∧ settings.extension.head? ≠ some '.') ∧
      settings.targetSubdir ≠ [] ∧ '/' ∉ settings.targetSubdir ∧ '\\' ∉ settings.targetSubdir := by
  have hany : ¬ (settings.targetSubdir.any fun c => c == '/' || c == '\\') = true ↔
      '/' ∉ settings.targetSubdir ∧ '\\' ∉ settings.targetSubdir := by
    simp [and_or_left, exists_or]
  rw [← hany, fault?]
  split_ifs <;> simp_all

/-- Settings that make sense select some file exactly when their extension is one that a file can
have. That is more than what is asked of an extension: there is no dot inside it either, and no
slash. -/
theorem exists_selected_iff (h : settings.fault? = none) :
    (∃ p, settings.selection.isEligible p) ↔
      '.' ∉ settings.extension ∧ '/' ∉ settings.extension := by
  obtain ⟨-, -, htarget, hslash, -⟩ := fault?_eq_none_iff.mp h
  constructor
  · rintro ⟨p, hp⟩
    exact Path.notMem_of_extension? (Selection.extension?_of_isEligible hp)
  · rintro ⟨hdot, hfree⟩
    exact Selection.exists_isEligible hdot hfree htarget hslash

/-- A dot for the target directory, and an exclusion for the first name that comes to mind. -/
theorem exists_selected_iff_working_directory :
    let settings : Settings :=
      { standard with targetSubdir := ['.'], excludedFiles := ["a.php".toList] }
    settings.fault? = none ∧ ∃ p, settings.selection.isEligible p := by
  intro settings
  have hsense : settings.fault? = none := by decide +kernel
  exact ⟨hsense, (exists_selected_iff hsense).mpr (by decide)⟩

/-- Nothing is said against extensions with a dot or a slash inside, but no file has one. -/
theorem compound_extension_selects_nothing :
    let dotted : Settings := { standard with extension := "blade.php".toList }
    let slashed : Settings := { standard with extension := "a/b".toList }
    (dotted.fault? = none ∧ ¬ ∃ p, dotted.selection.isEligible p) ∧
      slashed.fault? = none ∧ ¬ ∃ p, slashed.selection.isEligible p := by
  intro dotted slashed
  refine ⟨⟨by decide +kernel, ?_⟩, by decide +kernel, ?_⟩
  · rintro ⟨p, hp⟩
    have hextension := Path.notMem_of_extension? (Selection.extension?_of_isEligible hp)
    revert hextension
    decide
  · rintro ⟨p, hp⟩
    have hextension := Path.notMem_of_extension? (Selection.extension?_of_isEligible hp)
    revert hextension
    decide

end Settings

end SkipChecks
