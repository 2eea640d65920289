import Mathlib.Data.List.Infix
import SkipChecks.Proofs.Text.Finds
import SkipChecks.Proofs.Text.Occurrence

/-!
# Texts in which nothing begins

A text in which no occurrence of a needle begins can be put in front of any other one, and a search
for the needle goes on behind it. An occurrence might begin in the front and end in what follows;
where that is ruled out, a character at the end of the front that the needle does not have rules it
out.
-/

namespace SkipChecks.Text

/-- No occurrence of the needle begins in the text, whatever follows it. -/
def Silent (needle s : Text) : Prop :=
  ∀ after ∈ s.tails, after ≠ [] → ¬ needle <+: after ∧ ¬ after <+: needle

instance (needle s : Text) : Decidable (Silent needle s) :=
  inferInstanceAs (Decidable (∀ after ∈ s.tails, after ≠ [] → ¬ needle <+: after ∧ ¬ after <+: needle))

theorem silent_iff {needle s : Text} :
    Silent needle s ↔ ∀ after, after <:+ s → after ≠ [] → ∀ rest, ¬ needle <+: after ++ rest := by
  constructor
  · intro h after hafter hne rest hbegins
    obtain ⟨hwithin, hbeyond⟩ := h after ((List.mem_tails _ _).mpr hafter) hne
    rcases List.prefix_or_prefix_of_prefix hbegins (List.prefix_append after rest) with h | h
    · exact hwithin h
    · exact hbeyond h
  · intro h after hafter hne
    have hnone := h after ((List.mem_tails _ _).mp hafter) hne
    refine ⟨fun hwithin => hnone [] (by rwa [List.append_nil]), ?_⟩
    rintro ⟨more, rfl⟩
    exact hnone more (List.prefix_refl _)

namespace Silent

variable {needle s t : Text}

theorem nil (needle : Text) : Silent needle [] := by
  intro after hafter hne
  exact absurd (List.suffix_nil.mp ((List.mem_tails _ _).mp hafter)) hne

theorem of_cons {c : Char} (h : Silent needle (c :: s)) : Silent needle s := by
  rw [silent_iff] at h ⊢
  exact fun after hafter => h after (hafter.trans (List.suffix_cons c s))

theorem not_prefix {c : Char} (h : Silent needle (c :: s)) (rest : Text) :
    ¬ needle <+: c :: (s ++ rest) :=
  silent_iff.mp h (c :: s) (List.suffix_refl _) (List.cons_ne_nil c s) rest

theorem append (hs : Silent needle s) (ht : Silent needle t) : Silent needle (s ++ t) := by
  rw [silent_iff] at hs ht ⊢
  intro after hafter hne rest
  obtain ⟨before, hbefore⟩ := hafter
  rcases List.append_eq_append_iff.mp hbefore with ⟨front, rfl, rfl⟩ | ⟨front, rfl, rfl⟩
  · by_cases hempty : front = []
    · subst hempty
      exact ht _ (List.suffix_refl _) hne rest
    · rw [List.append_assoc]
      exact hs front (List.suffix_append before front) hempty (t ++ rest)
  · exact ht after (List.suffix_append front after) hne rest

theorem flatten {ss : List Text} (h : ∀ s ∈ ss, Silent needle s) : Silent needle ss.flatten := by
  induction ss with
  | nil => exact nil needle
  | cons s ss ih =>
      exact (h s List.mem_cons_self).append (ih fun t ht => h t (List.mem_cons_of_mem s ht))

/-- A needle with a character that the text does not have would have to go on behind the text, but
there stands a character that the needle does not have. -/
theorem of_notMem {c stop : Char} (hc : c ∈ needle) (hs : c ∉ s) (hstop : stop ∉ needle) :
    Silent needle (s ++ [stop]) := by
  rw [silent_iff]
  intro after hafter hne rest hbegins
  rcases List.suffix_concat_iff.mp hafter with rfl | ⟨front, rfl, hfront⟩
  · exact hne rfl
  · rw [List.append_assoc] at hbegins
    rcases List.prefix_or_prefix_of_prefix hbegins (List.prefix_append front _) with h | h
    · exact hs (hfront.subset (h.subset hc))
    · obtain ⟨more, rfl⟩ := h
      rw [List.prefix_append_right_inj] at hbegins
      cases more with
      | nil => exact hs (hfront.subset (by simpa using hc))
      | cons d more =>
          rw [List.singleton_append, List.cons_prefix_cons] at hbegins
          exact hstop (by simp [hbegins.1])

/-! ## Searches that pass -/

theorem findAll_append {α : Type} {recognise : Recogniser α}
    (hstart : ∀ ⦃s find⦄, recognise s = some find → needle <+: s) (h : Silent needle s)
    (rest : Text) : findAll recognise (s ++ rest) = findAll recognise rest := by
  induction s with
  | nil => rfl
  | cons c s ih =>
      have hnone : recognise (c :: (s ++ rest)) = none := by
        rw [Option.eq_none_iff_forall_ne_some]
        exact fun find hfind => h.not_prefix rest (hstart hfind)
      rw [List.cons_append, findAll_of_none hnone, ih h.of_cons]

theorem contains_append (h : Silent needle s) (rest : Text) :
    contains needle (s ++ rest) = contains needle rest := by
  induction s with
  | nil => rfl
  | cons c s ih =>
      have hnone : needle.isPrefixOf (c :: (s ++ rest)) = false := by
        rw [Bool.eq_false_iff, ne_eq, List.isPrefixOf_iff_prefix]
        exact h.not_prefix rest
      rw [List.cons_append, contains, hnone, Bool.false_or, ih h.of_cons]

theorem replace_append {new : Text} (h : Silent needle s) (rest : Text) :
    replace needle new (s ++ rest) = s ++ replace needle new rest := by
  induction s with
  | nil => rfl
  | cons c s ih =>
      rw [List.cons_append, replace_cons (h.not_prefix rest), ih h.of_cons, List.cons_append]

end Silent

end SkipChecks.Text
