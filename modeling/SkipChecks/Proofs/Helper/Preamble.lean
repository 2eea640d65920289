import Mathlib.Data.List.TakeWhile
import SkipChecks.Helper.Block
import SkipChecks.Proofs.Text.Pieces

/-!
# Where a preamble ends

Stripping cuts a text in front of a line: all lines before the cut are preamble, and the line behind
it is none. Whatever stands on further lines is kept and does not move the cut, so that what is kept
is not cut again. Only a text that is all preamble is stripped as a whole.
-/

namespace SkipChecks.Helper

open Text

variable {s first : Text} {removed others : List Text}

/-- Blanks aside, the line is empty, an opening tag, or begins a declaration of strict types. -/
def IsPreambleLine (line : Text) : Prop :=
  trim line = [] ∨ trim line = "<?php".toList ∨ "declare(strict_types".toList <+: trim line

theorem isPreamble_iff {line : Text} : isPreamble line ↔ IsPreambleLine line := by
  simp only [isPreamble, IsPreambleLine, Bool.or_eq_true, List.isEmpty_iff, beq_iff_eq,
    List.isPrefixOf_iff_prefix, or_assoc]

/-- A cut of a text into lines of its preamble and the lines from the first other one on. -/
structure Cut (s : Text) (removed : List Text) (first : Text) (others : List Text) : Prop where
  lines_eq : lines s = removed ++ first :: others
  preamble : ∀ line ∈ removed, IsPreambleLine line
  stops : ¬ IsPreambleLine first

namespace Cut

theorem stripPreamble_eq (h : Cut s removed first others) :
    stripPreamble s = join ['\n'] (first :: others) := by
  have hremoved : ∀ line ∈ removed, isPreamble line :=
    fun line hline => isPreamble_iff.mpr (h.preamble line hline)
  have hfirst : ¬ isPreamble first := fun hpreamble => h.stops (isPreamble_iff.mp hpreamble)
  rw [stripPreamble, h.lines_eq, List.dropWhile_append_of_pos hremoved,
    List.dropWhile_cons_of_neg hfirst]

/-- The lines in front of the cut are taken off with their line feeds. -/
theorem eq_append (h : Cut s removed first others) :
    s = removed.flatMap (· ++ ['\n']) ++ stripPreamble s := by
  rw [h.stripPreamble_eq, ← join_append_cons, ← h.lines_eq]
  exact (join_split '\n' s).symm

/-- The lines behind the cut are those of what is kept. -/
theorem again (h : Cut s removed first others) : Cut (stripPreamble s) [] first others where
  lines_eq := by
    rw [h.stripPreamble_eq, List.nil_append]
    refine lines_join (List.cons_ne_nil first others) fun line hline => ?_
    refine notMem_of_mem_split (s := s) ?_
    rw [← lines, h.lines_eq]
    exact List.mem_append_right removed hline
  preamble := List.forall_mem_nil _
  stops := h.stops

theorem append_feed (h : Cut s removed first others) (more : Text) :
    Cut (s ++ '\n' :: more) removed first (others ++ lines more) where
  lines_eq := by rw [lines_append_feed, h.lines_eq, List.append_assoc, List.cons_append]
  preamble := h.preamble
  stops := h.stops

/-- Further lines are kept as they are. -/
theorem stripPreamble_append_feed (h : Cut s removed first others) (more : Text) :
    stripPreamble (s ++ '\n' :: more) = stripPreamble s ++ '\n' :: more := by
  have hjoin : join ['\n'] ((first :: others) ++ lines more) =
      join ['\n'] (first :: others) ++ ['\n'] ++ join ['\n'] (lines more) :=
    join_append (List.cons_ne_nil first others) (split_ne_nil '\n' more)
  have hmore : join ['\n'] (lines more) = more := join_split '\n' more
  rw [(h.append_feed more).stripPreamble_eq, h.stripPreamble_eq, ← List.cons_append, hjoin, hmore,
    List.append_assoc, List.singleton_append]

end Cut

/-- A text with a line that is no preamble is cut in front of the first such line. -/
theorem exists_cut (h : ∃ line ∈ lines s, ¬ IsPreambleLine line) :
    ∃ removed first others, Cut s removed first others := by
  obtain ⟨line, hline, hstops⟩ := h
  have hkept : (lines s).dropWhile isPreamble ≠ [] := by
    intro hnone
    exact hstops (isPreamble_iff.mp (List.dropWhile_eq_nil_iff.mp hnone line hline))
  obtain ⟨first, others, hfirst⟩ := List.exists_cons_of_ne_nil hkept
  refine ⟨(lines s).takeWhile isPreamble, first, others, ?_, fun line hline => ?_, ?_⟩
  · rw [← hfirst, List.takeWhile_append_dropWhile]
  · exact isPreamble_iff.mp (List.all_eq_true.mp List.all_takeWhile line hline)
  · have hhead := List.head_dropWhile_not isPreamble (l := lines s) hkept
    simp only [hfirst, List.head_cons] at hhead
    rw [← isPreamble_iff, hhead]
    exact Bool.false_ne_true

theorem stripPreamble_of_forall (h : ∀ line ∈ lines s, IsPreambleLine line) :
    stripPreamble s = [] := by
  have hnone : (lines s).dropWhile isPreamble = [] :=
    List.dropWhile_eq_nil_iff.mpr fun line hline => isPreamble_iff.mpr (h line hline)
  rw [stripPreamble, hnone]
  rfl

/-- What is kept of a text ends it, and nothing of that is stripped again. Of a text that is all
preamble nothing is kept. Any other text is kept from its first line on that is no preamble, all of
it, however the lines behind look and whatever lines still follow. -/
theorem leading_preamble_stripped (s : Text) :
    let kept := stripPreamble s
    kept <:+ s ∧ stripPreamble kept = kept ∧
    ((∀ line ∈ lines s, IsPreambleLine line) ∧ kept = [] ∨
      ∃ removed first others, lines s = removed ++ first :: others ∧
        (∀ line ∈ removed, IsPreambleLine line) ∧ ¬ IsPreambleLine first ∧
        s = removed.flatMap (· ++ ['\n']) ++ kept ∧ lines kept = first :: others ∧
        ∀ more, stripPreamble (s ++ '\n' :: more) = kept ++ '\n' :: more) := by
  intro kept
  by_cases hall : ∀ line ∈ lines s, IsPreambleLine line
  · have hkept : kept = [] := stripPreamble_of_forall hall
    rw [hkept]
    exact ⟨List.nil_suffix, by decide +kernel, .inl ⟨hall, rfl⟩⟩
  · simp only [not_forall, exists_prop] at hall
    obtain ⟨removed, first, others, hcut⟩ := exists_cut hall
    have hagain := hcut.again
    refine ⟨⟨_, hcut.eq_append.symm⟩, ?_, .inr ⟨removed, first, others, hcut.lines_eq,
      hcut.preamble, hcut.stops, hcut.eq_append, hagain.lines_eq,
      hcut.stripPreamble_append_feed⟩⟩
    rw [hagain.stripPreamble_eq]
    exact hcut.stripPreamble_eq.symm

/-- Lines that look like preamble stay behind the first one that is none, with their carriage
returns. -/
theorem leading_preamble_stripped_later_tag :
    let s := "<?php\r\n \t\n\tdeclare(strict_types=1);\nf();\r\n\n<?php\r\n".toList
    let kept := "f();\r\n\n<?php\r\n".toList
    stripPreamble s = kept ∧ stripPreamble kept = kept ∧
      stripPreamble (s ++ '\n' :: "<?php\n".toList) = kept ++ '\n' :: "<?php\n".toList := by
  intro s kept
  have hkept : stripPreamble s = kept := by decide +kernel
  obtain ⟨-, hagain, ⟨-, hnone⟩ | ⟨-, -, -, -, -, -, -, -, hmore⟩⟩ := leading_preamble_stripped s
  · rw [hkept] at hnone
    exact absurd hnone (by decide)
  · rw [hkept] at hagain hmore
    exact ⟨hkept, hagain, hmore _⟩

end SkipChecks.Helper
