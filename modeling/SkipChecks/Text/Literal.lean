import SkipChecks.Text.Basic

/-!
# Single-quoted literals

In a single-quoted literal a backslash escapes a backslash or a quote and stands for itself before
anything else. The first quote that is not escaped closes the literal.
-/

namespace SkipChecks.Text.Literal

/-- The inside of the literal that stands for a text: a backslash before each backslash and quote. -/
def escape (s : Text) : Text := s.flatMap fun c => if c = '\\' ∨ c = '\'' then ['\\', c] else [c]

/-- Reads from just behind the opening quote: what the literal stands for, and the text behind its
closing quote. -/
def read? : Text → Option (Text × Text)
  | [] => none
  | '\'' :: rest => some ([], rest)
  | '\\' :: '\\' :: s => (read? s).map fun (inside, rest) => ('\\' :: inside, rest)
  | '\\' :: '\'' :: s => (read? s).map fun (inside, rest) => ('\'' :: inside, rest)
  | c :: s => (read? s).map fun (inside, rest) => (c :: inside, rest)

theorem read?_escape (s rest : Text) : read? (escape s ++ '\'' :: rest) = some (s, rest) := by
  induction s with
  | nil => rfl
  | cons c s ih =>
    rw [escape] at ih ⊢
    rw [List.flatMap_cons]
    split
    · rename_i h
      rcases h with rfl | rfl <;> simp [read?, ih]
    · rename_i h
      rw [not_or] at h
      rw [List.singleton_append, List.cons_append, read?, ih] <;> simp_all

end SkipChecks.Text.Literal
