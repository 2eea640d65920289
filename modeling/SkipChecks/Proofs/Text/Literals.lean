import Mathlib.Algebra.Group.Nat.Even
import Mathlib.Data.List.DropRight
import SkipChecks.Proofs.Text.Occurrence
import SkipChecks.Text.Literal

/-!
# Texts between single quotes

Escaped, every text may stand between single quotes: no quote in it closes the literal, its
backslashes come in pairs or in front of quotes, and what is read is the text. Escaping is the same
as putting pairs for the backslashes first and escaped quotes for the quotes then.

A text without quotes may stand between single quotes as it is, except for its backslashes: they
are read in pairs from the left, so it is the backslashes at the end that decide. When their number
is odd, the last one takes the closing quote along, and the literal goes on behind it.
-/

namespace SkipChecks.Text.Literal

/-- What the inside of a literal stands for. -/
def value : Text → Text
  | '\\' :: '\\' :: s => '\\' :: value s
  | '\\' :: '\'' :: s => '\'' :: value s
  | c :: s => c :: value s
  | [] => []

/-- How many backslashes a text ends in. -/
def backslashesAtEnd (s : Text) : Nat := (s.rtakeWhile (· == '\\')).length

/-- The backslashes at the end of a text are in pairs, so that a quote behind it is not escaped. -/
def Closes (s : Text) : Prop := Even (backslashesAtEnd s)

instance : DecidablePred Closes := fun s => inferInstanceAs (Decidable (Even (backslashesAtEnd s)))

theorem backslashesAtEnd_of_all {s : Text} (h : ∀ c ∈ s, c = '\\') :
    backslashesAtEnd s = s.length := by
  rw [backslashesAtEnd, List.rtakeWhile_eq_self_iff.mpr (by simpa using h)]

/-- What stands in front of another character than a backslash adds nothing to the end. -/
theorem backslashesAtEnd_cons {s : Text} (c : Char) (h : ∃ d ∈ s, d ≠ '\\') :
    backslashesAtEnd (c :: s) = backslashesAtEnd s := by
  have hstop : (s.reverse.takeWhile (· == '\\')).length ≠ s.reverse.length := by
    obtain ⟨d, hd, hne⟩ := h
    intro hall
    have hself := (List.takeWhile_prefix (· == '\\') (l := s.reverse)).eq_of_length hall
    have hbackslash := List.takeWhile_eq_self_iff.mp hself d (List.mem_reverse.mpr hd)
    exact hne (by simpa using hbackslash)
  rw [backslashesAtEnd, List.rtakeWhile, List.reverse_cons, List.takeWhile_append, if_neg hstop]
  rfl

theorem closes_pair {s : Text} : Closes ('\\' :: '\\' :: s) ↔ Closes s := by
  by_cases h : ∀ c ∈ s, c = '\\'
  · rw [Closes, Closes, backslashesAtEnd_of_all h, backslashesAtEnd_of_all (by simpa using h)]
    simp [Nat.even_add_one]
  · simp only [not_forall, exists_prop] at h
    rw [Closes, Closes, backslashesAtEnd_cons _ (by simpa using h), backslashesAtEnd_cons _ h]

theorem closes_cons {c : Char} (h : c ≠ '\\') {s : Text} : Closes (c :: s) ↔ Closes s := by
  by_cases hs : ∀ d ∈ s, d = '\\'
  · have hend : backslashesAtEnd (c :: s) = s.length := by
      rw [backslashesAtEnd, List.rtakeWhile, List.reverse_cons, List.takeWhile_append,
        List.takeWhile_eq_self_iff.mpr (by simpa using hs)]
      simp [h]
    rw [Closes, Closes, hend, backslashesAtEnd_of_all hs]
  · simp only [not_forall, exists_prop] at hs
    rw [Closes, Closes, backslashesAtEnd_cons c hs]

/-! ## The literal of a text -/

theorem escape_cons (c : Char) (s : Text) :
    escape (c :: s) = (if c = '\\' ∨ c = '\'' then ['\\', c] else [c]) ++ escape s := rfl

/-- Backslashes first: those in front of the quotes are not there yet. -/
theorem replace_quotes_replace_backslashes (s : Text) :
    replace ['\''] ['\\', '\''] (replace ['\\'] ['\\', '\\'] s) = escape s := by
  induction s with
  | nil => rfl
  | cons c s ih =>
      rw [escape_cons, ← ih]
      by_cases hslash : c = '\\'
      · subst hslash
        have hinner : replace ['\\'] ['\\', '\\'] ('\\' :: s) =
            ['\\', '\\'] ++ replace ['\\'] ['\\', '\\'] s :=
          replace_append '\\' []
        rw [hinner, List.cons_append, List.singleton_append, replace_cons (by simp),
          replace_cons (by simp)]
        rfl
      · rw [replace_cons (by simpa using Ne.symm hslash)]
        by_cases hquote : c = '\''
        · subst hquote
          exact replace_append '\'' []
        · rw [replace_cons (by simpa using Ne.symm hquote), if_neg (by simp [hslash, hquote])]
          rfl

theorem value_escape (s : Text) : value (escape s) = s := by
  induction s with
  | nil => rfl
  | cons c s ih =>
      rw [escape_cons]
      split
      next h => rcases h with rfl | rfl <;> simp [value, ih]
      next h =>
        rw [not_or] at h
        rw [List.singleton_append, value, ih] <;> simp_all

theorem closes_escape (s : Text) : Closes (escape s) := by
  induction s with
  | nil => decide
  | cons c s ih =>
      rw [escape_cons]
      split
      next h =>
        rcases h with rfl | rfl
        · exact closes_pair.mpr ih
        · have hquote : Closes ('\'' :: escape s) := (closes_cons (by decide)).mpr ih
          rwa [Closes, ← backslashesAtEnd_cons '\\' ⟨'\'', List.mem_cons_self, by decide⟩] at hquote
      next h => exact (closes_cons fun hslash => h (.inl hslash)).mpr ih

/-- No quote in it is left unescaped. -/
theorem read?_escape_eq_none (s : Text) : read? (escape s) = none := by
  induction s with
  | nil => rfl
  | cons c s ih =>
      rw [escape_cons]
      split
      next h => rcases h with rfl | rfl <;> simp [read?, ih]
      next h =>
        rw [not_or] at h
        rw [List.singleton_append, read?, ih, Option.map_none] <;> simp_all

/-! ## Texts without quotes -/

theorem read?_of_notMem {s : Text} (h : '\'' ∉ s) : read? s = none := by
  fun_induction read? s <;> simp_all

/-- The literal closes at the quote behind its inside or, when that one is escaped, not at all. -/
theorem read?_append_quote {s rest : Text} (hs : '\'' ∉ s) (hrest : '\'' ∉ rest) :
    read? (s ++ '\'' :: rest) = if Closes s then some (value s, rest) else none := by
  fun_induction value s with
  | case1 s ih =>
      have hinside : '\'' ∉ s := by simp_all
      rw [List.cons_append, List.cons_append, read?, ih hinside]
      simp only [closes_pair]
      split <;> rfl
  | case2 s ih => simp at hs
  | case3 c s hpair hquote ih =>
      have hinside : '\'' ∉ s := by simp_all
      have hc : c ≠ '\'' := by
        rintro rfl
        simp at hs
      by_cases hslash : c = '\\'
      · subst hslash
        cases s with
        | nil =>
            -- a single backslash before the quote
            have hopen : ¬ Closes ['\\'] := by decide
            rw [if_neg hopen]
            simp [read?, read?_of_notMem hrest]
        | cons d s =>
            have hd : d ≠ '\\' := by
              rintro rfl
              exact hpair s rfl rfl
            have hcloses : Closes ('\\' :: d :: s) ↔ Closes (d :: s) := by
              rw [Closes, Closes, backslashesAtEnd_cons _ ⟨d, List.mem_cons_self, hd⟩]
            rw [List.cons_append, List.cons_append, read?]
            · rw [← List.cons_append, ih hinside]
              simp only [hcloses]
              split <;> rfl
            all_goals simp_all
      · rw [List.cons_append, read?, ih hinside]
        · simp only [closes_cons hslash]
          split <;> rfl
        all_goals simp_all
  | case4 =>
      have hcloses : Closes [] := by decide
      rw [if_pos hcloses]
      rfl

end SkipChecks.Text.Literal
