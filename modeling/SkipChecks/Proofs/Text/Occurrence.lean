import Mathlib.Data.List.Infix
import SkipChecks.Proofs.Text.Pieces
import SkipChecks.Text.Phrase

/-!
# Occurrences

Looking for the pieces of a phrase always takes the first place that is left for a piece. That finds
the pieces whenever they stand in the text in order and without overlap: taking the first place
leaves more of the text than any other one does. An occurrence of a single piece stays where other
pieces are replaced that cannot overlap it.
-/

namespace SkipChecks.Text

/-- The pieces stand in the text in order and without overlap. -/
inductive InOrder : List Text → Text → Prop
  | nil (s : Text) : InOrder [] s
  | cons {piece rest : Text} {pieces : List Text} (gap : Text) (hrest : InOrder pieces rest) :
      InOrder (piece :: pieces) (gap ++ (piece ++ rest))

namespace InOrder

variable {pieces : List Text} {s : Text}

theorem append_left (h : InOrder pieces s) (before : Text) : InOrder pieces (before ++ s) := by
  cases h with
  | nil => exact .nil _
  | cons gap hrest =>
      rw [← List.append_assoc]
      exact .cons (before ++ gap) hrest

theorem append_right (h : InOrder pieces s) (after : Text) : InOrder pieces (s ++ after) := by
  induction h with
  | nil => exact .nil _
  | cons gap _ ih =>
      rw [List.append_assoc, List.append_assoc]
      exact .cons gap ih

theorem of_within {t : Text} (h : InOrder pieces t) (hwithin : t <:+: s) : InOrder pieces s := by
  obtain ⟨before, after, rfl⟩ := hwithin
  exact (h.append_left before).append_right after

end InOrder

/-- Where pieces stand in order in a text whose characters were replaced, words of the text were
replaced by them. -/
theorem inOrder_cons_map_iff {f : Char → Char} {piece s : Text} {pieces : List Text} :
    InOrder (piece :: pieces) (s.map f) ↔
      ∃ gap word rest, s = gap ++ (word ++ rest) ∧ word.map f = piece ∧
        InOrder pieces (rest.map f) := by
  constructor
  · intro h
    generalize hwhole : s.map f = whole at h
    obtain _ | ⟨gap, hrest⟩ := h
    obtain ⟨before, behind, rfl, -, hbehind⟩ := List.map_eq_append_iff.mp hwhole
    obtain ⟨word, rest, rfl, hword, rfl⟩ := List.map_eq_append_iff.mp hbehind
    exact ⟨before, word, rest, rfl, hword, hrest⟩
  · rintro ⟨gap, word, rest, rfl, rfl, hrest⟩
    rw [List.map_append, List.map_append]
    exact .cons (gap.map f) hrest

/-! ## The first place -/

theorem after?_eq_some {needle s rest : Text} (h : after? needle s = some rest) :
    ∃ gap, s = gap ++ (needle ++ rest) := by
  induction s with
  | nil => exact ⟨[], (List.isPrefixOf?_eq_some_iff_append_eq.mp h).symm⟩
  | cons c s ih =>
      rw [after?] at h
      rcases Option.or_eq_some_iff.mp h with hhere | ⟨-, hlater⟩
      · exact ⟨[], (List.isPrefixOf?_eq_some_iff_append_eq.mp hhere).symm⟩
      · obtain ⟨gap, rfl⟩ := ih hlater
        exact ⟨c :: gap, rfl⟩

/-- Where a piece stands, the search finds it there or before. -/
theorem after?_append (gap needle rest : Text) :
    ∃ more, after? needle (gap ++ (needle ++ rest)) = some more ∧ rest <:+ more := by
  induction gap with
  | nil =>
      have hhere : needle.isPrefixOf? (needle ++ rest) = some rest :=
        List.isPrefixOf?_eq_some_iff_append_eq.mpr rfl
      refine ⟨rest, ?_, List.suffix_refl rest⟩
      rw [List.nil_append]
      cases hs : needle ++ rest with
      | nil => rw [hs] at hhere; exact hhere
      | cons c s => rw [hs] at hhere; rw [after?, hhere, Option.some_or]
  | cons c gap ih =>
      obtain ⟨more, hlater, hsuffix⟩ := ih
      rw [List.cons_append, after?, hlater]
      cases hhere : needle.isPrefixOf? (c :: (gap ++ (needle ++ rest))) with
      | none => exact ⟨more, rfl, hsuffix⟩
      | some early =>
          -- the earlier place leaves everything that is left behind the later one
          obtain ⟨used, hlonger⟩ := after?_eq_some hlater
          have hsame := List.isPrefixOf?_eq_some_iff_append_eq.mp hhere
          refine ⟨early, rfl, ?_⟩
          have hearly : early <:+ c :: (gap ++ (needle ++ rest)) := ⟨needle, hsame⟩
          have hrest : rest <:+ c :: (gap ++ (needle ++ rest)) := ⟨c :: (gap ++ needle), by simp⟩
          refine List.suffix_of_suffix_length_le hrest hearly ?_
          have hlength := congrArg List.length hsame
          simp only [List.length_append, List.length_cons] at hlength
          omega

theorem inOrder_iff {pieces : List Text} {s : Text} : inOrder pieces s ↔ InOrder pieces s := by
  induction pieces generalizing s with
  | nil => exact iff_of_true rfl (.nil s)
  | cons piece pieces ih =>
      rw [inOrder]
      constructor
      · intro h
        split at h
        next rest hrest =>
          obtain ⟨gap, rfl⟩ := after?_eq_some hrest
          exact .cons gap (ih.mp h)
        next => cases h
      · rintro (_ | ⟨gap, hrest⟩)
        obtain ⟨more, hmore, used, rfl⟩ := after?_append gap piece _
        rw [hmore]
        exact ih.mpr (hrest.append_left used)

/-- A piece of a phrase does not begin in front of a separator that it does not hold, when it does
not stand there as a whole. -/
theorem InOrder.of_append_cons {piece front s : Text} {pieces : List Text} {sep : Char}
    (hne : piece ≠ []) (hsep : sep ∉ piece) (hfront : ¬ piece <:+: front)
    (h : InOrder (piece :: pieces) (front ++ sep :: s)) : InOrder (piece :: pieces) s := by
  generalize hwhole : front ++ sep :: s = whole at h
  obtain _ | ⟨gap, hrest⟩ := h
  next rest =>
  rcases List.append_eq_append_iff.mp hwhole with ⟨middle, rfl, hs⟩ | ⟨middle, rfl, hs⟩
  · -- the piece begins at the separator or behind it
    cases middle with
    | nil =>
        obtain ⟨c, piece, rfl⟩ := List.exists_cons_of_ne_nil hne
        cases hs
        exact absurd List.mem_cons_self hsep
    | cons c middle =>
        cases hs
        exact .cons middle hrest
  · -- the piece begins in front of the separator, so it would hold it or end before it
    rcases List.append_eq_append_iff.mp hs with ⟨more, rfl, -⟩ | ⟨more, rfl, hmore⟩
    · exact absurd ⟨gap, more, by simp⟩ hfront
    · cases more with
      | nil => exact absurd ⟨gap, [], by simp⟩ hfront
      | cons c more =>
          cases hmore
          simp at hsep

/-- Pieces that do not stand behind a separator that they do not hold, stand in front of it. -/
theorem InOrder.of_append_cons_back {s back : Text} {sep : Char} {pieces : List Text}
    (hpieces : ∀ piece ∈ pieces, piece ≠ [] ∧ sep ∉ piece ∧ ¬ piece <:+: back)
    (h : InOrder pieces (s ++ sep :: back)) : InOrder pieces s := by
  generalize hwhole : s ++ sep :: back = whole at h
  induction h generalizing s with
  | nil => exact .nil s
  | @cons piece rest pieces gap _ ih =>
      obtain ⟨hne, hsep, hback⟩ := hpieces piece List.mem_cons_self
      have hothers := fun other hother => hpieces other (List.mem_cons_of_mem piece hother)
      rcases List.append_eq_append_iff.mp hwhole with ⟨middle, rfl, hs⟩ | ⟨middle, rfl, hs⟩
      · -- the piece would begin at the separator or behind it
        cases middle with
        | nil =>
            obtain ⟨c, piece, rfl⟩ := List.exists_cons_of_ne_nil hne
            cases hs
            exact absurd List.mem_cons_self hsep
        | cons c middle =>
            cases hs
            exact absurd ⟨middle, rest, by simp⟩ hback
      · rcases List.append_eq_append_iff.mp hs with ⟨more, rfl, hmore⟩ | ⟨more, rfl, hmore⟩
        · exact .cons gap (ih hothers hmore.symm)
        · -- the piece ends at the separator, since it does not hold it
          cases more with
          | nil =>
              have hwithin : InOrder (middle :: pieces) (gap ++ (middle ++ [])) :=
                .cons gap (ih hothers (s := []) hmore)
              simpa using hwithin
          | cons c more =>
              cases hmore
              simp at hsep

/-! ## Texts inside texts -/

theorem contains_iff {needle s : Text} : contains needle s ↔ needle <:+: s := by
  induction s with
  | nil => simp [contains]
  | cons c s ih =>
      rw [contains, Bool.or_eq_true, ih, List.isPrefixOf_iff_prefix, List.infix_cons_iff]

/-- A text without the separator stands before it or behind it. -/
theorem infix_append_cons_iff {needle front back : Text} {sep : Char} (hsep : sep ∉ needle) :
    needle <:+: front ++ sep :: back ↔ needle <:+: front ∨ needle <:+: back := by
  constructor
  · rintro ⟨before, after, h⟩
    rw [List.append_assoc] at h
    rcases List.append_eq_append_iff.mp h with ⟨rest, rfl, hrest⟩ | ⟨rest, rfl, hrest⟩
    · rcases List.append_eq_append_iff.mp hrest with ⟨more, rfl, -⟩ | ⟨more, rfl, hmore⟩
      · exact .inl ⟨before, more, by simp⟩
      · cases more with
        | nil => exact .inl ⟨before, [], by simp⟩
        | cons c more =>
            cases hmore
            simp at hsep
    · cases rest with
      | nil =>
          cases needle with
          | nil => exact .inl List.nil_infix
          | cons c needle =>
              cases hrest
              simp at hsep
      | cons c rest =>
          cases hrest
          exact .inr ⟨rest, after, by simp⟩
  · rintro (h | h)
    · exact h.trans (List.prefix_append front _).isInfix
    · exact h.trans ((List.suffix_cons sep back).trans (List.suffix_append front _)).isInfix

/-- What holds no line feed stands in a single line. -/
theorem exists_line_infix {needle s : Text} (hfree : '\n' ∉ needle) (h : needle <:+: s) :
    ∃ line ∈ lines s, needle <:+: line := by
  obtain ⟨before, after, rfl⟩ := h
  rw [List.append_assoc]
  induction before with
  | nil =>
      obtain ⟨line, others, hafter⟩ := exists_lines_eq_cons after
      refine ⟨needle ++ line, ?_, (List.prefix_append needle line).isInfix⟩
      rw [List.nil_append, lines_append_of_notMem hfree, hafter]
      exact List.mem_cons_self
  | cons c before ih =>
      obtain ⟨line, hline, hwithin⟩ := ih
      obtain ⟨first, others, hlines⟩ := exists_lines_eq_cons (before ++ (needle ++ after))
      rw [hlines] at hline
      rw [List.cons_append, lines, split, ← lines, hlines]
      split
      · exact ⟨line, List.mem_cons_of_mem _ hline, hwithin⟩
      · rcases List.mem_cons.mp hline with rfl | hline
        · exact ⟨c :: line, List.mem_cons_self, List.infix_cons hwithin⟩
        · exact ⟨line, List.mem_cons_of_mem _ hline, hwithin⟩

/-! ## Replaced texts -/

section Replaced

variable {needle new s : Text} {opening closing : Char} {inside : Text}

theorem replaceFrom_eq (old new : Text) (skip : Nat) (s : Text) :
    replaceFrom old new skip s = replace old new (s.drop skip) := by
  induction s generalizing skip with
  | nil => cases skip <;> rfl
  | cons c s ih =>
      cases skip with
      | zero => rfl
      | succ skip => exact ih skip

theorem replace_cons {old : Text} {c : Char} (h : ¬ old <+: c :: s) :
    replace old new (c :: s) = c :: replace old new s := by
  rw [replace, replaceFrom, if_neg (by rwa [List.isPrefixOf_iff_prefix])]
  rfl

theorem replace_append (c : Char) (old : Text) :
    replace (c :: old) new (c :: old ++ s) = new ++ replace (c :: old) new s := by
  have hbegins : (c :: old).isPrefixOf (c :: (old ++ s)) := by
    simp [List.isPrefixOf_iff_prefix]
  rw [List.cons_append, replace, replaceFrom, if_pos hbegins, replaceFrom_eq]
  simp

theorem replace_of_not_contains {old : Text} (h : contains old s = false) :
    replace old new s = s := by
  induction s with
  | nil => rfl
  | cons c s ih =>
      rw [contains, Bool.or_eq_false_iff, Bool.eq_false_iff, ne_eq, List.isPrefixOf_iff_prefix] at h
      rw [replace_cons h.1, ih h.2]

/-- What begins a text begins it still, when it does not hold the first character of what is
replaced. -/
theorem prefix_replace (hopening : opening ∉ needle) (h : needle <+: s) :
    needle <+: replace (opening :: inside) new s := by
  induction needle generalizing s with
  | nil => exact List.nil_prefix
  | cons d needle ih =>
      obtain ⟨hd, hneedle⟩ := not_or.mp (List.mem_cons.not.mp hopening)
      obtain ⟨rest, rfl⟩ := h
      have hnot : ¬ opening :: inside <+: d :: (needle ++ rest) := by
        intro hbegins
        exact hd (List.cons_prefix_cons.mp hbegins).1
      rw [List.cons_append, replace_cons hnot]
      exact List.cons_prefix_cons.mpr ⟨rfl, ih hneedle (List.prefix_append needle rest)⟩

/-- An occurrence stays where something else is replaced: it does not reach into that from either
side, since it holds neither the first nor the last character of it. -/
theorem infix_replace (hopening : opening ∉ needle) (hclosing : closing ∉ needle)
    (hinside : ¬ needle <:+: opening :: inside) (h : needle <:+: s) :
    needle <:+: replace (opening :: inside ++ [closing]) new s := by
  induction hlength : s.length using Nat.strongRecOn generalizing s with
  | ind length ih =>
      by_cases hbegins : opening :: inside ++ [closing] <+: s
      · obtain ⟨rest, rfl⟩ := hbegins
        rw [List.append_assoc] at h
        have hrest := ((infix_append_cons_iff hclosing).mp h).resolve_left hinside
        rw [List.cons_append, replace_append]
        exact (ih rest.length (by simp [← hlength]; omega) hrest rfl).trans
          (List.suffix_append new _).isInfix
      · cases s with
        | nil => exact h
        | cons c s =>
            rcases List.infix_cons_iff.mp h with hhere | hlater
            · exact (prefix_replace hopening hhere).isInfix
            · rw [replace_cons hbegins]
              exact List.infix_cons (ih s.length (by simp [← hlength]) hlater rfl)

end Replaced

/-! ## Phrases in texts -/

section Phrases

variable {phrase : List Text} {s t front back : Text}

/-- A phrase as it is compared. -/
def folded (phrase : List Text) : List Text := phrase.map (·.map foldCase)

theorem lineHas_iff {line : Text} :
    lineHas phrase line ↔ InOrder (folded phrase) (line.map foldCase) :=
  inOrder_iff

theorem mentions_iff : mentions phrase s ↔ ∃ line ∈ lines s, lineHas phrase line :=
  List.any_eq_true

theorem mentions_append_feed :
    mentions phrase (s ++ '\n' :: t) ↔ mentions phrase s ∨ mentions phrase t := by
  simp only [mentions_iff, lines_append_feed, List.mem_append, or_and_right, exists_or]

/-- What a text mentions, every text around it mentions. -/
theorem mentions_of_infix (h : mentions phrase t) (hwithin : t <:+: s) : mentions phrase s := by
  obtain ⟨line, hline, hhas⟩ := mentions_iff.mp h
  obtain ⟨whole, hwhole, before, after, rfl⟩ :=
    exists_line_infix (notMem_of_mem_split hline) ((infix_of_mem_split hline).trans hwithin)
  refine mentions_iff.mpr ⟨_, hwhole, lineHas_iff.mpr ?_⟩
  exact (lineHas_iff.mp hhas).of_within ⟨before.map foldCase, after.map foldCase, by simp⟩

/-- No piece of the phrase has a quote, and none stands in what is around the quotes. -/
def Foreign (phrase : List Text) (front back : Text) : Prop :=
  ∀ piece ∈ folded phrase, piece ≠ [] ∧ '\'' ∉ piece ∧ ¬ piece <:+: front.map foldCase ∧
    ¬ piece <:+: back.map foldCase

instance : Decidable (Foreign phrase front back) := by
  unfold Foreign
  infer_instance

namespace Foreign

theorem lineHas_of_front (h : Foreign phrase front back)
    (hhas : lineHas phrase (front ++ '\'' :: s)) : lineHas phrase s := by
  rw [lineHas_iff] at hhas ⊢
  cases hphrase : folded phrase with
  | nil => exact .nil _
  | cons piece pieces =>
      obtain ⟨hne, hquote, hfront, -⟩ := h piece (by simp [hphrase])
      rw [hphrase, List.map_append, List.map_cons] at hhas
      exact hhas.of_append_cons hne hquote hfront

theorem lineHas_of_back (h : Foreign phrase front back)
    (hhas : lineHas phrase (s ++ '\'' :: back)) : lineHas phrase s := by
  rw [lineHas_iff] at hhas ⊢
  rw [List.map_append, List.map_cons] at hhas
  refine hhas.of_append_cons_back fun piece hpiece => ?_
  obtain ⟨hne, hquote, -, hback⟩ := h piece hpiece
  exact ⟨hne, hquote, hback⟩

/-- What a quoted text mentions together with what is around the quotes, it mentions by itself. -/
theorem mentions_of_quoted (h : Foreign phrase front back) (hfront : '\n' ∉ front)
    (hback : '\n' ∉ back) (hmentions : mentions phrase (front ++ '\'' :: (s ++ '\'' :: back))) :
    mentions phrase s := by
  obtain ⟨line, hline, hhas⟩ := mentions_iff.mp hmentions
  have hopen : '\n' ∉ front ++ ['\''] := by simp [hfront]
  have hclose : '\n' ∉ '\'' :: back := by simp [hback]
  rw [List.append_cons] at hline
  obtain ⟨rest, hrest, hfirst⟩ := exists_of_mem_lines_append hopen hline
  obtain ⟨part, hpart, hlast⟩ := exists_of_mem_append_lines hclose hrest
  have hrest : lineHas phrase rest := by
    rcases hfirst with rfl | rfl
    · exact hhas
    · exact h.lineHas_of_front (by simpa using hhas)
  refine mentions_iff.mpr ⟨part, hpart, ?_⟩
  rcases hlast with rfl | rfl
  · exact hrest
  · exact h.lineHas_of_back hrest

end Foreign

end Phrases

end SkipChecks.Text
