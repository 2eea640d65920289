import SkipChecks.Injection.Selection
import SkipChecks.Proofs.Path.Components

/-!
# Eligible files

Whether a file gets guards is told by the components of its path: the last one by its form and its
name, and those in front of it by the target directory being one of them. So other spellings of the
path make no difference, and neither do further directories in front of it.
-/

namespace SkipChecks.Selection

variable {selection : Selection} {p : Path} {n : Text}

theorem isBelowTarget_iff (h : p.fileName? = some n) :
    selection.isBelowTarget p ↔
      ∃ before, p.components = before ++ [n] ∧ selection.targetSubdir ∈ before := by
  obtain ⟨parent, hparent, hparts⟩ := Path.exists_parent?_of_fileName? h
  have hcomponents : p.components = parent.components ++ [n] := by
    rw [← Path.map_text_parts, hparts, List.map_append, Path.map_text_parts]
    rfl
  have htarget : selection.isBelowTarget p ↔ selection.targetSubdir ∈ parent.components := by
    rw [isBelowTarget, hparent, ← Path.map_text_parts]
    simp
  rw [htarget, hcomponents]
  constructor
  · exact fun hmem => ⟨parent.components, rfl, hmem⟩
  · rintro ⟨before, hbefore, hmem⟩
    rwa [List.append_cancel_right hbefore]

/-- A file is eligible when its last component is a name with the extension that is not excluded,
and the target directory is among the components in front. -/
theorem isEligible_iff :
    selection.isEligible p ↔ ∃ before last, p.components = before ++ [last] ∧
      (last ≠ ['/'] ∧ last ≠ ['.'] ∧ last ≠ ['.', '.']) ∧
      (∃ stem extension, last = stem ++ '.' :: extension ∧ stem ≠ [] ∧ '.' ∉ extension ∧
        extension = selection.extension) ∧
      last ∉ selection.excludedFiles ∧ selection.targetSubdir ∈ before := by
  have hextension (n : Text) : (Path.splitName n).2 = some selection.extension ↔
      ∃ stem extension, n = stem ++ '.' :: extension ∧ stem ≠ [] ∧ '.' ∉ extension ∧
        extension = selection.extension := by
    constructor
    · intro h
      obtain ⟨hstem, hdot, hn⟩ := Path.splitName_eq_some_iff.mp (Prod.ext rfl h)
      exact ⟨_, _, hn, hstem, hdot, rfl⟩
    · rintro ⟨stem, _, hn, hstem, hdot, rfl⟩
      rw [Path.splitName_eq_some_iff.mpr ⟨hstem, hdot, hn⟩]
  constructor
  · intro h
    unfold isEligible at h
    split at h
    next n hname =>
      simp only [Bool.and_eq_true, beq_iff_eq, Bool.not_eq_true', List.contains_eq_mem,
        decide_eq_false_iff_not, isBelowTarget_iff hname, Path.extension?, hname,
        Option.bind_some, hextension] at h
      obtain ⟨⟨hform, hkept⟩, before, hcomponents, htarget⟩ := h
      obtain ⟨-, hdots⟩ := Path.fileName?_eq_some_iff.mp hname
      exact ⟨before, n, hcomponents, hdots, hform, hkept, htarget⟩
    next => cases h
  · rintro ⟨before, last, hcomponents, hdots, hform, hkept, htarget⟩
    have hname := Path.fileName?_eq_some_iff.mpr ⟨⟨before, hcomponents⟩, hdots⟩
    have hbelow := (isBelowTarget_iff hname).mpr ⟨before, hcomponents, htarget⟩
    simp [isEligible, Path.extension?, hname, (hextension last).mpr hform, hkept, hbelow]

theorem isEligible_congr {p q : Path} (h : p.components = q.components) :
    selection.isEligible p = selection.isEligible q := by
  rw [Bool.eq_iff_iff, isEligible_iff, isEligible_iff, h]

/-- The components of a path decide whether it is eligible. So slashes that are repeated or stand at
the end and dots between slashes change nothing, and an eligible path that could stand anywhere stays
eligible behind further directories. -/
theorem components_decide_eligibility (selection : Selection) :
    (∀ p : Path, selection.isEligible p ↔ ∃ before last, p.components = before ++ [last] ∧
      (last ≠ ['/'] ∧ last ≠ ['.'] ∧ last ≠ ['.', '.']) ∧
      (∃ stem extension, last = stem ++ '.' :: extension ∧ stem ≠ [] ∧ '.' ∉ extension ∧
        extension = selection.extension) ∧
      last ∉ selection.excludedFiles ∧ selection.targetSubdir ∈ before) ∧
    (∀ a b : Text,
      selection.isEligible ⟨a ++ '/' :: '/' :: b⟩ = selection.isEligible ⟨a ++ '/' :: b⟩ ∧
      selection.isEligible ⟨a ++ '/' :: '.' :: '/' :: b⟩ = selection.isEligible ⟨a ++ '/' :: b⟩ ∧
      selection.isEligible ⟨a ++ ['/']⟩ = selection.isEligible ⟨a⟩) ∧
    ∀ (front : Text) (p : Path), selection.isEligible p → ¬ p.isRooted →
      p.components.head? ≠ some ['.'] → selection.isEligible ⟨front ++ '/' :: p.text⟩ := by
  refine ⟨fun p => isEligible_iff, fun a b => ⟨?_, ?_, ?_⟩, ?_⟩
  · exact isEligible_congr (Path.components_append_idle (.inl rfl) a b)
  · exact isEligible_congr (Path.components_append_idle (.inr rfl) a b)
  · by_cases hne : a = []
    · -- the root and the empty path are different paths, but neither is a file
      rw [hne]
      rfl
    · exact isEligible_congr (Path.components_concat_slash hne)
  · intro front p heligible hrooted hdot
    obtain ⟨further, hfurther⟩ := Path.exists_components_append hrooted hdot front
    obtain ⟨before, last, hcomponents, hlast, hform, hkept, htarget⟩ := isEligible_iff.mp heligible
    refine isEligible_iff.mpr ⟨further ++ before, last, ?_, hlast, hform, hkept, ?_⟩
    · rw [hfurther, hcomponents, List.append_assoc]
    · exact List.mem_append_right further htarget

/-- A file of tests below a directory that is spelled in a roundabout way. -/
theorem components_decide_eligibility_below :
    let p : Path := ⟨"Browser//Auth/./LoginTest.php/".toList⟩
    standard.isEligible p ∧ ¬ p.isRooted ∧ p.components.head? ≠ some ['.'] ∧
      standard.isEligible ⟨"./srv//app".toList ++ '/' :: p.text⟩ := by
  intro p
  have heligible : standard.isEligible p := by decide +kernel
  have hrooted : ¬ p.isRooted := by decide +kernel
  have hdot : p.components.head? ≠ some ['.'] := by decide +kernel
  obtain ⟨-, -, hbelow⟩ := components_decide_eligibility standard
  exact ⟨heligible, hrooted, hdot, hbelow _ p heligible hrooted hdot⟩

end SkipChecks.Selection
