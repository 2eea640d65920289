import SkipChecks.Proofs.Page.NoiseLines

/-!
# Messages that stand

A message stands as it is when it is no noise. Of one that is noise its genuine entries stand, below
a header. Neither that header nor such an entry is noise, and noise does not reach over lines, so
what stands is no noise either: it stands again as it is.
-/

namespace SkipChecks.Noise

open Text

variable {message other : Text}

theorem standing?_eq_none_iff :
    standing? message = none ↔
      classify message = .noise ∧ ∀ entry ∈ entries message, classify entry = .noise := by
  rw [standing?]
  by_cases hgenuine : classify message = .genuine
  · simp [hgenuine]
  · have hnoise : classify message = .noise := by
      cases h : classify message <;> simp_all
    simp only [hnoise, reduceCtorEq, if_false, true_and, ite_eq_left_iff]
    simp [List.filter_eq_nil_iff, classify_eq_genuine_iff]

theorem standing?_of_genuine (h : classify message ≠ .noise) :
    standing? message = some message := by
  rw [standing?, if_pos (classify_eq_genuine_iff.mpr h)]

theorem standing?_of_noise (hnoise : classify message = .noise)
    (hgenuine : ∃ entry ∈ entries message, classify entry = .genuine) :
    standing? message =
      some (list header ((entries message).filter (classify · = .genuine))) := by
  have hne : (entries message).filter (classify · = .genuine) ≠ [] := by
    obtain ⟨entry, hentry, hkind⟩ := hgenuine
    exact List.ne_nil_of_mem (List.mem_filter.mpr ⟨hentry, by simpa using hkind⟩)
  rw [standing?, if_neg (by simp [hnoise])]
  simp only [if_neg hne]

theorem standing?_eq_some_iff :
    standing? message = some other ↔
      classify message = .genuine ∧ other = message ∨
        classify message = .noise ∧ (entries message).filter (classify · = .genuine) ≠ [] ∧
          other = list header ((entries message).filter (classify · = .genuine)) := by
  cases hkind : classify message with
  | genuine =>
      rw [standing?_of_genuine (classify_eq_genuine_iff.mp hkind)]
      simp only [Option.some.injEq, true_and, reduceCtorEq, false_and, or_false]
      exact eq_comm
  | noise =>
      by_cases hnone : (entries message).filter (classify · = .genuine) = []
      · have hall : ∀ entry ∈ entries message, classify entry = .noise := by
          simpa [List.filter_eq_nil_iff, classify_eq_genuine_iff] using hnone
        rw [standing?_eq_none_iff.mpr ⟨hkind, hall⟩]
        simp [hnone]
      · obtain ⟨entry, hentry⟩ := List.exists_mem_of_ne_nil _ hnone
        obtain ⟨hlisted, hgenuine⟩ := List.mem_filter.mp hentry
        rw [standing?_of_noise hkind ⟨entry, hlisted, of_decide_eq_true hgenuine⟩]
        simp only [Option.some.injEq, reduceCtorEq, false_and, false_or, true_and, ne_eq, hnone,
          not_false_eq_true]
        exact eq_comm

theorem classify_header : classify header ≠ .noise := by decide +kernel

/-- Genuine entries below the header are no noise together. -/
theorem classify_list_filter (texts : List Text) :
    classify (list header (texts.filter (classify · = .genuine))) = .genuine := by
  rw [classify_eq_genuine_iff, ne_eq, classify_list]
  rintro (hheader | ⟨text, htext, hnoise⟩)
  · exact classify_header hheader
  · have hgenuine := of_decide_eq_true (List.mem_filter.mp htext).2
    rw [hnoise] at hgenuine
    cases hgenuine

theorem classify_of_standing? (h : standing? message = some other) : classify other = .genuine := by
  rcases standing?_eq_some_iff.mp h with ⟨hgenuine, rfl⟩ | ⟨-, -, rfl⟩
  · exact hgenuine
  · exact classify_list_filter (entries message)

/-- Of a message the same stands when it is filtered again. It stands as it is when it is genuine,
and of noise stands a list below the header: the genuine entries in order, at least one. What stands
is genuine as a whole and in each of its entries, so that nothing more is filtered out of it. -/
theorem standing_message_stands_again (message other : Text) :
    let genuine := (entries message).filter (classify · = .genuine)
    (standing? message = some other ↔
      classify message = .genuine ∧ other = message ∨
        classify message = .noise ∧ genuine ≠ [] ∧
          other = header ++ genuine.flatMap fun entry => "\n- ".toList ++ entry) ∧
    (standing? message = some other →
      standing? other = some other ∧ classify other = .genuine ∧
        ∀ entry ∈ entries other, classify entry = .genuine) := by
  intro genuine
  refine ⟨standing?_eq_some_iff, fun hstands => ?_⟩
  have hother := classify_of_standing? hstands
  refine ⟨standing?_of_genuine (classify_eq_genuine_iff.mp hother), hother, fun entry hentry => ?_⟩
  rw [classify_eq_genuine_iff] at hother ⊢
  exact fun hnoise => hother (classify_of_mem_entries hentry hnoise)

/-- The words of a parser error in different lines of what stands do not make it noise. -/
theorem standing_message_stands_again_words_apart :
    let message := "found 4:\n- CSP Parser Error: x\n \t- csp \n- parser\r\n- error".toList
    let other :=
      "Expected no JavaScript errors on the page, but found:\n- csp\n- parser\n- error".toList
    standing? message = some other ∧ standing? other = some other ∧ classify other = .genuine := by
  intro message other
  have hstands : standing? message = some other := by decide +kernel
  obtain ⟨hagain, hgenuine, -⟩ := (standing_message_stands_again message other).2 hstands
  exact ⟨hstands, hagain, hgenuine⟩

end SkipChecks.Noise
