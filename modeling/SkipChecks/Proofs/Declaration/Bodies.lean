import SkipChecks.Declaration

/-!
# Where bodies end

A body ends at the brace that closes it. Text without braces at its start makes it longer by that
text, and what comes after the closing brace does not matter.
-/

namespace SkipChecks.Declaration

variable {depth : Nat} {front rest : Text}

/-- The body is the front of the text. -/
theorem upToClose_isPrefix (depth : Nat) (s : Text) : upToClose depth s <+: s := by
  fun_induction upToClose depth s with
  | case1 => exact List.nil_prefix
  | case2 depth s ih => exact (List.prefix_cons_inj _).mpr ih
  | case3 => exact List.nil_prefix
  | case4 depth s ih => exact (List.prefix_cons_inj _).mpr ih
  | case5 depth c s _ _ _ ih => exact (List.prefix_cons_inj _).mpr ih

theorem upToClose_cons {c : Char} (hopen : c ≠ '{') (hclose : c ≠ '}') (s : Text) :
    upToClose depth (c :: s) = c :: upToClose depth s := by
  rw [upToClose] <;> simp_all

theorem upToClose_append (hopen : '{' ∉ front) (hclose : '}' ∉ front) :
    upToClose depth (front ++ rest) = front ++ upToClose depth rest := by
  induction front with
  | nil => rfl
  | cons c front ih =>
      rw [List.mem_cons, not_or] at hopen hclose
      rw [List.cons_append, upToClose_cons (Ne.symm hopen.1) (Ne.symm hclose.1),
        ih hopen.2 hclose.2, List.cons_append]

/-- Behind an opening brace something is left of the body, unless the text ends there. -/
theorem upToClose_succ_ne_nil (h : rest ≠ []) : upToClose (depth + 1) rest ≠ [] := by
  obtain ⟨c, rest, rfl⟩ := List.exists_cons_of_ne_nil h
  rw [upToClose.eq_def]
  split <;> simp_all

/-- A body that does not reach beyond an opening brace is closed in front of it, so that nothing
behind the brace matters, or the text ends with the brace. -/
theorem upToClose_of_length_le
    (h : (upToClose depth (front ++ '{' :: rest)).length ≤ front.length + 1) :
    rest = [] ∨ ∀ other, upToClose depth (front ++ '{' :: other) =
      upToClose depth (front ++ '{' :: rest) := by
  induction front generalizing depth with
  | nil =>
      rw [List.nil_append, upToClose, List.length_cons, List.length_nil] at h
      have hnone : upToClose (depth + 1) rest = [] := List.length_eq_zero_iff.mp (by omega)
      exact .inl (Decidable.byContradiction fun hrest => upToClose_succ_ne_nil hrest hnone)
  | cons c front ih =>
      by_cases hopen : c = '{'
      · subst hopen
        simp only [List.cons_append, upToClose, List.length_cons] at h ⊢
        simpa using ih (Nat.le_of_succ_le_succ h)
      · by_cases hclose : c = '}'
        · subst hclose
          cases depth with
          | zero => exact .inr fun other => rfl
          | succ depth =>
              simp only [List.cons_append, upToClose, List.length_cons] at h ⊢
              simpa using ih (Nat.le_of_succ_le_succ h)
        · simp only [List.cons_append, upToClose_cons hopen hclose, List.length_cons] at h ⊢
          simpa using ih (Nat.le_of_succ_le_succ h)

end SkipChecks.Declaration
