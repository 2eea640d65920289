import Mathlib.Tactic.IntervalCases
import SkipChecks.Json.Value
import SkipChecks.Proofs.Text.Pieces

/-!
# Reading what is written, token by token

The machine that cuts a text into tokens is followed over pieces of text, each from one mode to
another. A number only ends in front of the character behind it, so what a written value is read as
is told with such a character in place.
-/

namespace SkipChecks.Json.Token

open Text

/-- From the first mode on, the text completes these tokens and leaves the machine in the second
mode. -/
def Reads (mode : Mode) (s : Text) (tokens : List Token) (after : Mode) : Prop :=
  ∀ rest, run mode (s ++ rest) = (run after rest).map (tokens ++ ·)

namespace Reads

variable {mode middle after : Mode} {s t : Text} {first second : List Token}

theorem nil (mode : Mode) : Reads mode [] [] mode := by
  intro rest
  simp

theorem append (hs : Reads mode s first middle) (ht : Reads middle t second after) :
    Reads mode (s ++ t) (first ++ second) after := by
  intro rest
  rw [List.append_assoc, hs, ht, Option.map_map]
  simp only [Function.comp_def, List.append_assoc]

theorem cons {c : Char} (hstep : step mode c = some (first, middle))
    (hs : Reads middle s second after) : Reads mode (c :: s) (first ++ second) after := by
  intro rest
  rw [List.cons_append, run, hstep]
  cases hafter : run after rest <;> simp [hs rest, hafter]

/-- A character that completes no token. -/
theorem silent {c : Char} (hstep : step mode c = some ([], middle))
    (hs : Reads middle s second after) : Reads mode (c :: s) second after :=
  cons hstep hs

theorem single {c : Char} (hstep : step mode c = some (first, middle)) :
    Reads mode [c] first middle := by
  simpa using cons hstep (nil middle)

/-- A text that is read up to its end has the tokens it was read as. -/
theorem ofText?_eq {tokens : List Token} (h : Reads .between s tokens .between) :
    ofText? s = some tokens := by
  have hrun := h []
  rw [List.append_nil] at hrun
  rw [ofText?, hrun]
  simp [run, atEnd]

end Reads

/-! ## Strings -/

theorem hexDigit?_digitChar : ∀ d < 16, hexDigit? (Nat.digitChar d) = some d := by decide

/-- What stands for a character in a string adds that character. -/
theorem reads_escapeChar (read : Text) (c : Char) :
    Reads (.string (some ⟨read, none⟩)) (escapeChar c) [] (.string (some ⟨c :: read, none⟩)) := by
  unfold escapeChar
  split
  case h_8 hquote hbackslash _ _ _ _ _ =>
    -- only a control character without a letter of its own is written by its number
    split
    next hcontrol =>
      have hvalue : c.toNat < 32 := hcontrol
      have hhigh := hexDigit?_digitChar (c.toNat / 16) (by omega)
      have hlow := hexDigit?_digitChar (c.toNat % 16) (by omega)
      have hunit : (((0 * 16 + ('0'.toNat - '0'.toNat)) * 16 + ('0'.toNat - '0'.toNat)) * 16 +
          c.toNat / 16) * 16 + c.toNat % 16 = c.toNat := by
        rw [Nat.sub_self]
        omega
      refine .silent rfl (.silent rfl (.silent rfl (.silent rfl ?_)))
      refine .silent (by rw [step, hhigh]; rfl) (.single ?_)
      rw [step, hlow]
      simp only [Option.map_some, hunit, Inside.addUnit]
      rw [if_pos (.inl (by omega)), Char.ofNat_toNat]
    next hplain =>
      refine .single ?_
      rw [step, if_neg (by simpa using hquote), if_neg (by simpa using hbackslash), if_neg hplain]
      rfl
  all_goals exact .silent rfl (.single rfl)

/-- A written string is read as the text that it was written for. -/
theorem reads_quote (s : Text) : Reads .between (quote s) [string (some s)] .between := by
  -- the machine keeps what it has read last character first
  have hinside (read : Text) : Reads (.string (some ⟨read, none⟩)) (s.flatMap escapeChar ++ ['"'])
      [string (some (read.reverse ++ s))] .between := by
    induction s generalizing read with
    | nil =>
        rw [List.append_nil]
        exact .single rfl
    | cons c s ih =>
        have hrest := (reads_escapeChar read c).append (ih (c :: read))
        simpa using hrest
  exact .silent rfl (hinside [])

/-! ## Numbers -/

/-- The mode behind the digits of a number, with a sign in front or without one. -/
def digitsMode (negative : Bool) (n : Nat) : Mode :=
  if n = 0 then .zero negative else .digits negative n

theorem start_digitChar {d : Nat} (h : d < 10) :
    start (Nat.digitChar d) = some ([], digitsMode false d) := by
  interval_cases d <;> rfl

theorem step_digits (negative : Bool) {n d : Nat} (h : d < 10) :
    step (.digits negative n) (Nat.digitChar d) = some ([], .digits negative (n * 10 + d)) := by
  have hdigit : ∀ d < 10, (Nat.digitChar d).isDigit ∧ (Nat.digitChar d).toNat - '0'.toNat = d := by
    decide
  obtain ⟨hisDigit, hvalue⟩ := hdigit d h
  rw [step, if_pos hisDigit, hvalue]

/-- The digits of a number are read from a mode that takes the first one. -/
theorem reads_digits {mode : Mode} {negative : Bool}
    (hfirst : ∀ d < 10, step mode (Nat.digitChar d) = some ([], digitsMode negative d)) (n : Nat) :
    Reads mode (ofNat n) [] (digitsMode negative n) := by
  induction n using Nat.strongRecOn with
  | ind n ih =>
      rw [ofNat, Nat.toDigits_eq_if (by decide)]
      split
      next hsmall => exact .single (hfirst n hsmall)
      next hlarge =>
        -- the digits in front leave a mode that is not the one behind a single zero
        have hpositive : n / 10 ≠ 0 := by omega
        have hmode : digitsMode negative n = .digits negative (n / 10 * 10 + n % 10) := by
          rw [digitsMode, if_neg (by omega), Nat.div_add_mod']
        have hfront := ih (n / 10) (by omega)
        rw [digitsMode, if_neg hpositive] at hfront
        rw [hmode]
        exact hfront.append (.single (step_digits negative (Nat.mod_lt n (by decide))))

theorem reads_ofNat (n : Nat) : Reads .between (ofNat n) [] (digitsMode false n) := by
  have hfirst : ∀ d < 10, step .between (Nat.digitChar d) = some ([], digitsMode false d) :=
    fun _ hd => start_digitChar hd
  exact reads_digits hfirst n

theorem step_digitsMode {negative : Bool} {n : Nat} {c : Char} (h : c.isDigit = false) :
    step (digitsMode negative n) c = afterDigits negative n c := by
  rw [digitsMode]
  split
  next hzero => rw [hzero]; rfl
  next => rw [step, if_neg (by simp [h])]

/-! ## Written values -/

/-- A number ends in front of such a character, which stands between tokens. -/
structure EndsNumber (c : Char) (completed : List Token) : Prop where
  notDigit : c.isDigit = false
  notPoint : c ≠ '.'
  notMark : c ≠ 'e' ∧ c ≠ 'E'
  start_eq : start c = some (completed, .between)

theorem endsNumber_comma : EndsNumber ',' [comma] := ⟨by decide, by decide, by decide, rfl⟩

theorem endsNumber_feed : EndsNumber '\n' [] := ⟨by decide, by decide, by decide, rfl⟩

/-- In this mode, the character behind a number ends it. -/
structure Pends (mode : Mode) (token : Token) : Prop where
  atEnd_eq : atEnd mode = some [token]
  step_eq : ∀ ⦃c completed⦄, EndsNumber c completed →
    step mode c = some (token :: completed, .between)

theorem pends_digits (negative : Bool) (n : Nat) :
    Pends (digitsMode negative n) (ofDigits negative n) where
  atEnd_eq := by
    rw [digitsMode]
    split
    next hzero => rw [hzero]; rfl
    next => rfl
  step_eq := by
    intro c completed hends
    rw [step_digitsMode hends.notDigit, afterDigits, if_neg hends.notPoint,
      if_neg (not_or.mpr hends.notMark), endNumber, hends.start_eq]
    rfl

/-- The text is read as these tokens wherever something follows that ends numbers. -/
def Writes (s : Text) (tokens : List Token) : Prop :=
  ∀ ⦃c completed⦄, EndsNumber c completed →
    Reads .between (s ++ [c]) (tokens ++ completed) .between

theorem Reads.writes {s : Text} {tokens : List Token} (h : Reads .between s tokens .between) :
    Writes s tokens :=
  fun _ _ hends => h.append (.single hends.start_eq)

/-- What stands in front of a written value is read by itself. -/
theorem Reads.append_writes {s t : Text} {first second : List Token}
    (hs : Reads .between s first .between) (ht : Writes t second) :
    Writes (s ++ t) (first ++ second) := by
  intro c completed hends
  rw [List.append_assoc, List.append_assoc]
  exact hs.append (ht hends)

theorem writes_ofNat (n : Nat) : Writes (ofNat n) [natural n] := by
  intro c completed hends
  exact (reads_ofNat n).append (.single ((pends_digits false n).step_eq hends))

/-- Written values with commas between them. -/
theorem writes_join {α : Type} {text : α → Text} {tokens : α → List Token} {as : List α}
    (h : ∀ a ∈ as, Writes (text a) (tokens a)) (hne : as ≠ []) :
    Writes (join [','] (as.map text)) ([comma].intercalate (as.map tokens)) := by
  induction as with
  | nil => exact absurd rfl hne
  | cons a as ih =>
      cases as with
      | nil => simpa [join] using h a List.mem_cons_self
      | cons next as =>
          have hfirst := h a List.mem_cons_self endsNumber_comma
          have hothers := ih (fun b hb => h b (List.mem_cons_of_mem a hb)) (by simp)
          simp only [List.map_cons, join_cons_cons, List.intercalate_cons_cons] at hothers ⊢
          exact hfirst.append_writes hothers

end SkipChecks.Json.Token
