import Mathlib.Data.List.Infix
import SkipChecks.Text.Blank

/-!
# Blanks around texts

Trimming takes blanks and nothing else. So a word begins a text that is trimmed at its start exactly
when blanks alone stand in front of it, and a text that does not end in a blank keeps its end.
-/

namespace SkipChecks.Text

theorem notMem_of_isBlank {c : Char} {blanks : Text} (h : ∀ d ∈ blanks, isBlank d)
    (hc : isBlank c = false) : c ∉ blanks := by
  intro hmem
  rw [h c hmem] at hc
  cases hc

/-- Blanks stand in front of a word that begins with another character. -/
theorem append_eq_trimStart_iff {word s rest : Text}
    (hword : ∃ c ∈ word.head?, isBlank c = false) :
    word ++ rest = trimStart s ↔
      ∃ blanks, (∀ c ∈ blanks, isBlank c) ∧ s = blanks ++ (word ++ rest) := by
  rw [trimStart]
  constructor
  · intro h
    refine ⟨s.takeWhile isBlank, fun c hc => List.all_eq_true.mp List.all_takeWhile c hc, ?_⟩
    rw [h, List.takeWhile_append_dropWhile]
  · rintro ⟨blanks, hblanks, rfl⟩
    obtain ⟨c, hhead, hc⟩ := hword
    obtain ⟨others, rfl⟩ := List.head?_eq_some_iff.mp hhead
    rw [List.dropWhile_append_of_pos hblanks, List.cons_append, List.dropWhile_cons, hc]
    rfl

theorem trimEnd_prefix_self (s : Text) : trimEnd s <+: s := by
  rw [trimEnd, ← List.reverse_suffix, List.reverse_reverse]
  exact List.dropWhile_suffix isBlank

theorem trimEnd_of_getLast? {s : Text} (h : ∀ c ∈ s.getLast?, isBlank c = false) :
    trimEnd s = s := by
  rw [← List.head?_reverse] at h
  rw [trimEnd]
  cases hs : s.reverse with
  | nil => simpa using hs.symm
  | cons c before =>
      have hkeep := h c (by simp [hs])
      rw [List.dropWhile_cons_of_neg (by simp [hkeep]), ← hs, List.reverse_reverse]

end SkipChecks.Text
