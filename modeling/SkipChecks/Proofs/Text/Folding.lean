import Mathlib.Data.Bool.AllAny
import Mathlib.Tactic.IntervalCases
import SkipChecks.Text.Blank
import SkipChecks.Text.Phrase
import SkipChecks.Text.Word

/-!
# Characters without case

Only the upper-case letters of ASCII, the long s and the Kelvin sign are compared as other
characters. All of them are letters and stand for letters, so that words, blanks and punctuation
can be told apart before case is put aside or after it.
-/

namespace SkipChecks.Text

/-- The characters for which another one stands when case is ignored. -/
def foldable : Text := "ABCDEFGHIJKLMNOPQRSTUVWXYZ\u017f\u212a".toList

theorem toLower_of_notMem {c : Char} (h : c ∉ foldable) : c.toLower = c := by
  have hrange : ¬ (65 ≤ c.toNat ∧ c.toNat ≤ 90) := by
    rintro ⟨hleast, hgreatest⟩
    rw [← Char.ofNat_toNat c] at h
    interval_cases c.toNat <;> exact h (by decide)
  delta Char.toLower
  rw [dif_neg]
  simpa [UInt32.le_iff_toNat_le] using hrange

theorem foldCase_of_notMem {c : Char} (h : c ∉ foldable) : foldCase c = c := by
  have hlong : c ≠ '\u017f' := fun heq => h (heq ▸ by decide)
  have hkelvin : c ≠ '\u212a' := fun heq => h (heq ▸ by decide)
  rw [foldCase, if_neg hlong, if_neg hkelvin, toLower_of_notMem h]

/-- What holds of a character that is not folded, and of the others by themselves, holds of all. -/
theorem fold_cases {motive : Char → Prop} (self : ∀ c, c.toLower = c → foldCase c = c → motive c)
    (folded : ∀ c ∈ foldable, motive c) (c : Char) : motive c := by
  by_cases h : c ∈ foldable
  · exact folded c h
  · exact self c (toLower_of_notMem h) (foldCase_of_notMem h)

theorem isWord_foldCase (c : Char) : isWord (foldCase c) = isWord c := by
  induction c using fold_cases with
  | self c _ hfold => rw [hfold]
  | folded c hc =>
      revert c
      exact List.all_iff_forall_prop.mp (by decide +kernel)

theorem isBlank_foldCase (c : Char) : isBlank (foldCase c) = isBlank c := by
  induction c using fold_cases with
  | self c _ hfold => rw [hfold]
  | folded c hc =>
      revert c
      exact List.all_iff_forall_prop.mp (by decide +kernel)

theorem foldCase_toLower (c : Char) : foldCase c.toLower = foldCase c := by
  induction c using fold_cases with
  | self c hlower _ => rw [hlower]
  | folded c hc =>
      revert c
      exact List.all_iff_forall_prop.mp (by decide +kernel)

/-- A character that is in no word is compared as itself. -/
theorem foldCase_eq_iff {c mark : Char} (hmark : isWord mark = false) :
    foldCase c = mark ↔ c = mark := by
  have hword : ∀ c ∈ foldable, isWord (foldCase c) = true ∧ isWord c = true :=
    List.all_iff_forall_prop.mp (by decide +kernel)
  induction c using fold_cases with
  | self c _ hfold => rw [hfold]
  | folded c hc =>
      obtain ⟨hfolded, hself⟩ := hword c hc
      refine iff_of_false ?_ ?_ <;> rintro rfl
      · rw [hmark] at hfolded
        cases hfolded
      · rw [hmark] at hself
        cases hself

end SkipChecks.Text
