import Mathlib.Data.List.Basic
import SkipChecks.Text.Basic

/-!
# Texts in pieces

Splitting a text agrees with `List.splitOn`, so a separator in the middle divides the pieces of what
stands before it from those of what stands behind it. Lines are the pieces between line feeds.
-/

namespace SkipChecks.Text

theorem split_eq_splitOn (sep : Char) (s : Text) : split sep s = s.splitOn sep := by
  induction s with
  | nil => rfl
  | cons c s ih =>
      rw [split, ih]
      simp only [List.splitOn_eq_splitOnP, List.splitOnP_cons_eq_if_modifyHead, beq_iff_eq]

theorem split_append_cons (sep : Char) (a b : Text) :
    split sep (a ++ sep :: b) = split sep a ++ split sep b := by
  simp only [split_eq_splitOn, List.splitOn_append_cons_self]

theorem split_of_notMem {sep : Char} {s : Text} (h : sep ∉ s) : split sep s = [s] := by
  rw [split_eq_splitOn, List.splitOn_eq_singleton h]

/-- A text without the separator in front only makes the first piece longer. -/
theorem split_append_of_notMem {sep : Char} {a : Text} (h : sep ∉ a) (b : Text) :
    split sep (a ++ b) = (split sep b).modifyHead (a ++ ·) := by
  induction a with
  | nil => cases hb : split sep b <;> simp [hb]
  | cons c a ih =>
      rw [List.mem_cons, not_or] at h
      rw [List.cons_append, split, if_neg (Ne.symm h.1), ih h.2, List.modifyHead_modifyHead]
      rfl

/-! ## Lines -/

theorem exists_lines_eq_cons (s : Text) : ∃ line others, lines s = line :: others :=
  List.exists_cons_of_ne_nil (split_ne_nil '\n' s)

/-- The first line is empty when the text is, and when the text begins with a line feed. -/
theorem head?_lines_eq_nil_iff {s : Text} :
    (lines s).head? = some [] ↔ s = [] ∨ s.head? = some '\n' := by
  cases s with
  | nil => simp [lines, split]
  | cons c s =>
      obtain ⟨line, others, hs⟩ := exists_lines_eq_cons s
      rw [lines, split, ← lines, hs]
      split <;> simp_all

@[simp] theorem lines_append_feed (a b : Text) : lines (a ++ '\n' :: b) = lines a ++ lines b :=
  split_append_cons '\n' a b

theorem lines_of_notMem {s : Text} (h : '\n' ∉ s) : lines s = [s] := split_of_notMem h

theorem lines_append_of_notMem {a : Text} (h : '\n' ∉ a) (b : Text) :
    lines (a ++ b) = (lines b).modifyHead (a ++ ·) := split_append_of_notMem h b

/-- A text of one line in front makes the first line longer and leaves the others. -/
theorem exists_of_mem_lines_append {a b line : Text} (h : '\n' ∉ a) (hline : line ∈ lines (a ++ b)) :
    ∃ part ∈ lines b, line = part ∨ line = a ++ part := by
  obtain ⟨first, others, hb⟩ := exists_lines_eq_cons b
  rw [lines_append_of_notMem h, hb, List.modifyHead_cons] at hline
  rw [hb]
  rcases List.mem_cons.mp hline with rfl | hline
  · exact ⟨first, List.mem_cons_self, .inr rfl⟩
  · exact ⟨line, List.mem_cons_of_mem first hline, .inl rfl⟩

/-- A text of one line behind makes the last line longer and leaves the others. -/
theorem exists_of_mem_append_lines {a b line : Text} (h : '\n' ∉ b) (hline : line ∈ lines (a ++ b)) :
    ∃ part ∈ lines a, line = part ∨ line = part ++ b := by
  induction hlength : a.length using Nat.strongRecOn generalizing a with
  | ind length ih =>
      by_cases hfeed : '\n' ∈ a
      · obtain ⟨first, others, rfl⟩ := List.append_of_mem hfeed
        rw [List.append_assoc, List.cons_append, lines_append_feed] at hline
        rw [lines_append_feed]
        rcases List.mem_append.mp hline with hline | hline
        · exact ⟨line, List.mem_append_left _ hline, .inl rfl⟩
        · have hshorter : others.length < length := by
            rw [← hlength, List.length_append, List.length_cons]
            omega
          obtain ⟨part, hpart, heq⟩ := ih others.length hshorter hline rfl
          exact ⟨part, List.mem_append_right _ hpart, heq⟩
      · rw [lines_of_notMem (by simp [hfeed, h]), List.mem_singleton] at hline
        exact ⟨a, by rw [lines_of_notMem hfeed, List.mem_singleton], .inr hline⟩

theorem notMem_of_mem_split {sep : Char} {s piece : Text} (h : piece ∈ split sep s) :
    sep ∉ piece := by
  induction s generalizing piece with
  | nil => simp_all [split]
  | cons c s ih =>
      rw [split] at h
      split at h
      next =>
        rcases List.mem_cons.mp h with rfl | h
        · exact List.not_mem_nil
        · exact ih h
      next hne =>
        obtain ⟨first, others, hsplit⟩ := List.exists_cons_of_ne_nil (split_ne_nil sep s)
        rw [hsplit, List.modifyHead_cons] at h
        rcases List.mem_cons.mp h with rfl | h
        · rw [List.mem_cons, not_or]
          exact ⟨Ne.symm hne, ih (hsplit ▸ List.mem_cons_self)⟩
        · exact ih (hsplit ▸ List.mem_cons_of_mem first h)

/-! ## Joined pieces -/

theorem join_cons_cons (sep s next : Text) (ss : List Text) :
    join sep (s :: next :: ss) = s ++ sep ++ join sep (next :: ss) := rfl

theorem join_append {sep : Text} {first second : List Text} (hfirst : first ≠ [])
    (hsecond : second ≠ []) :
    join sep (first ++ second) = join sep first ++ sep ++ join sep second := by
  induction first with
  | nil => exact absurd rfl hfirst
  | cons s first ih =>
      obtain ⟨next, others, rfl⟩ := List.exists_cons_of_ne_nil hsecond
      cases first with
      | nil => rfl
      | cons t first =>
          rw [List.cons_append, List.cons_append, join_cons_cons, ← List.cons_append,
            ih (List.cons_ne_nil t first), join_cons_cons]
          simp only [List.append_assoc]

/-- Pieces in front of others have a separator behind them. -/
theorem join_append_cons (sep : Text) (front : List Text) (s : Text) (ss : List Text) :
    join sep (front ++ s :: ss) = front.flatMap (· ++ sep) ++ join sep (s :: ss) := by
  induction front with
  | nil => rfl
  | cons piece front ih =>
      have hpiece : join sep ([piece] ++ (front ++ s :: ss)) =
          piece ++ sep ++ join sep (front ++ s :: ss) :=
        join_append (List.cons_ne_nil piece []) (by simp)
      rw [List.flatMap_cons, List.append_assoc, ← ih]
      exact hpiece

theorem infix_of_mem_join {sep piece : Text} {ss : List Text} (h : piece ∈ ss) :
    piece <:+: join sep ss := by
  induction ss with
  | nil => cases h
  | cons s ss ih =>
      cases ss with
      | nil =>
          obtain rfl := List.mem_singleton.mp h
          exact List.infix_refl piece
      | cons next ss =>
          rw [join_cons_cons, List.append_assoc]
          rcases List.mem_cons.mp h with rfl | h
          · exact (List.prefix_append _ _).isInfix
          · exact (ih h).trans ((List.suffix_append _ _).trans (List.suffix_append _ _)).isInfix

/-- What stands in a joined text stands in one of the pieces, or between them. -/
theorem mem_or_exists_of_mem_join {sep : Text} {c : Char} {ss : List Text}
    (h : c ∈ join sep ss) : c ∈ sep ∨ ∃ s ∈ ss, c ∈ s := by
  induction ss with
  | nil => cases h
  | cons s ss ih =>
      cases ss with
      | nil => exact .inr ⟨s, List.mem_cons_self, h⟩
      | cons next ss =>
          rw [join_cons_cons, List.append_assoc, List.mem_append, List.mem_append] at h
          rcases h with h | h | h
          · exact .inr ⟨s, List.mem_cons_self, h⟩
          · exact .inl h
          · refine (ih h).imp_right ?_
            rintro ⟨piece, hpiece, hc⟩
            exact ⟨piece, List.mem_cons_of_mem s hpiece, hc⟩

theorem mem_lines_join {line : Text} {ss : List Text} (h : line ∈ ss) (hfree : '\n' ∉ line) :
    line ∈ lines (join ['\n'] ss) := by
  induction ss with
  | nil => cases h
  | cons s ss ih =>
      cases ss with
      | nil =>
          obtain rfl := List.mem_singleton.mp h
          rw [join, lines_of_notMem hfree]
          exact List.mem_singleton_self line
      | cons next ss =>
          rw [join_cons_cons, List.append_assoc, List.singleton_append, lines_append_feed,
            List.mem_append]
          rcases List.mem_cons.mp h with rfl | h
          · rw [lines_of_notMem hfree]
            exact .inl (List.mem_singleton_self line)
          · exact .inr (ih h)

theorem split_join {sep : Char} {ss : List Text} (hne : ss ≠ []) (hfree : ∀ s ∈ ss, sep ∉ s) :
    split sep (join [sep] ss) = ss := by
  induction ss with
  | nil => exact absurd rfl hne
  | cons s ss ih =>
      obtain ⟨hs, hothers⟩ := List.forall_mem_cons.mp hfree
      cases ss with
      | nil => exact split_of_notMem hs
      | cons next ss =>
          rw [join_cons_cons, List.append_assoc, List.singleton_append, split_append_cons,
            split_of_notMem hs, ih (List.cons_ne_nil next ss) hothers, List.singleton_append]

theorem lines_join {ss : List Text} (hne : ss ≠ []) (hfree : ∀ s ∈ ss, '\n' ∉ s) :
    lines (join ['\n'] ss) = ss := split_join hne hfree

/-- A piece stands in the text that was split. -/
theorem infix_of_mem_split {sep : Char} {s piece : Text} (h : piece ∈ split sep s) :
    piece <:+: s := by
  have hjoin : piece <:+: join [sep] (split sep s) := infix_of_mem_join h
  rwa [join_split] at hjoin

/-- Pieces with a separator in front of each. -/
theorem flatMap_eq_join (sep s : Text) (ss : List Text) :
    (s :: ss).flatMap (sep ++ ·) = sep ++ join sep (s :: ss) := by
  induction ss generalizing s with
  | nil => simp [join]
  | cons next ss ih =>
      rw [List.flatMap_cons, ih, join_cons_cons, List.append_assoc, List.append_assoc]

end SkipChecks.Text
