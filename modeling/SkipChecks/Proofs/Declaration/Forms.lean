import Mathlib.Data.List.Infix
import SkipChecks.Proofs.Declaration.Places
import SkipChecks.Proofs.Text.Blanks

/-!
# The form of declarations

A declaration is recognised by its form, from the call to the opening brace. A declaration that
begins in front of another one ends at the same brace or before it: its name ends at a quote of the
other one at the latest, and its parameters at the closing parenthesis of the other one. So whether
a declaration begins somewhere in front of a given one does not depend on what follows that one.
-/

namespace SkipChecks.Declaration

open Text

/-! ## Steps of the recogniser -/

theorem append_eq_dropWhile_ne_iff {stop : Char} {s rest : Text} :
    [stop] ++ rest = s.dropWhile (· != stop) ↔
      ∃ inside, stop ∉ inside ∧ s = inside ++ ([stop] ++ rest) := by
  constructor
  · intro h
    refine ⟨s.takeWhile (· != stop), fun hmem => ?_, ?_⟩
    · have hne := List.all_eq_true.mp List.all_takeWhile stop hmem
      simp at hne
    · rw [h, List.takeWhile_append_dropWhile]
  · rintro ⟨inside, hfree, rfl⟩
    have hinside : ∀ c ∈ inside, (c != stop) = true := by
      intro c hc
      simpa using ne_of_mem_of_not_mem hc hfree
    rw [List.dropWhile_append_of_pos hinside]
    simp

/-! ## Forms -/

/-- How a declaration is written: the quotes around its name, the blanks before `function`, after
it and after the parameters, and the parameters. -/
structure Form where
  name : Text
  opening : Char
  closing : Char
  before : Text
  between : Text
  parameters : Text
  behind : Text
  isQuote_opening : isQuote opening
  isQuote_closing : isQuote closing
  name_ne_nil : name ≠ []
  notQuote : ∀ c ∈ name, isQuote c = false
  isBlank_before : ∀ c ∈ before, isBlank c
  isBlank_between : ∀ c ∈ between, isBlank c
  isBlank_behind : ∀ c ∈ behind, isBlank c
  notClosing : ')' ∉ parameters

namespace Form

/-- From the parenthesis behind the parameters on. -/
def ending (form : Form) : Text := ')' :: (form.behind ++ ['{'])

/-- From the comma behind the name on. -/
def header (form : Form) : Text :=
  ',' :: (form.before ++ ("function".toList ++
    (form.between ++ ('(' :: (form.parameters ++ form.ending)))))

/-- The whole text. -/
def text (form : Form) : Text :=
  "test(".toList ++ form.opening :: (form.name ++ form.closing :: form.header)

end Form

/-- A declaration is recognised by its form. -/
theorem name?_eq_some_iff {s name rest : Text} :
    name? s = some (name, rest) ↔ ∃ form : Form, form.name = name ∧ s = form.text ++ rest := by
  have hfunction : ∃ c ∈ "function".toList.head?, isBlank c = false := ⟨'f', by decide⟩
  have hopen : ∃ c ∈ ['('].head?, isBlank c = false := ⟨'(', by decide⟩
  have hbrace : ∃ c ∈ ['{'].head?, isBlank c = false := ⟨'{', by decide⟩
  simp only [name?, Option.bind_eq_bind, Option.bind_eq_some_iff, Option.pure_def,
    Option.some.injEq, Prod.mk.injEq, Prod.exists, quotedName?_eq_some_iff, List.isPrefixOf?_eq_some_iff_append_eq,
    append_eq_trimStart_iff hfunction, append_eq_trimStart_iff hopen,
    append_eq_trimStart_iff hbrace, append_eq_dropWhile_ne_iff]
  constructor
  · rintro ⟨_, rfl, _, _, ⟨opening, closing, hopening, hclosing, hne, hfree, rfl⟩, _, rfl, _,
      ⟨before, hbefore, rfl⟩, _, ⟨between, hbetween, rfl⟩, _, ⟨parameters, hparameters, rfl⟩, _,
      ⟨behind, hbehind, rfl⟩, rfl, rfl⟩
    refine ⟨⟨_, opening, closing, before, between, parameters, behind, hopening, hclosing, hne,
      hfree, hbefore, hbetween, hbehind, hparameters⟩, rfl, ?_⟩
    simp only [Form.text, Form.header, Form.ending, List.append_assoc, List.cons_append,
      List.nil_append]
  · rintro ⟨form, rfl, rfl⟩
    let list := form.parameters ++ (form.ending ++ rest)
    let call := form.between ++ ('(' :: list)
    let function := form.before ++ ("function".toList ++ call)
    exact ⟨_, (List.append_assoc _ _ _).symm, _, form.header ++ rest, ⟨form.opening, form.closing,
      form.isQuote_opening, form.isQuote_closing, form.name_ne_nil, form.notQuote, by simp⟩,
      function, by simp [Form.header, function, call, list], call,
      ⟨form.before, form.isBlank_before, rfl⟩, list, ⟨form.between, form.isBlank_between, rfl⟩,
      form.behind ++ '{' :: rest, ⟨form.parameters, form.notClosing, by simp [Form.ending, list]⟩,
      rest, ⟨form.behind, form.isBlank_behind, rfl⟩, rfl, rfl⟩

/-! ## Declarations in front of a declaration -/

theorem suffix_of_notMem {c : Char} {s front t : Text} (h : c :: s <:+ front ++ t)
    (hc : c ∉ front) : c :: s <:+ t := by
  obtain ⟨before, h⟩ := h
  rcases List.append_eq_append_iff.mp h with ⟨more, rfl, hmore⟩ | ⟨more, rfl, rfl⟩
  · cases more with
    | nil => exact ⟨[], hmore⟩
    | cons d more =>
        rw [List.cons_append] at hmore
        exact absurd (List.cons.inj hmore).1 (by rintro rfl; simp at hc)
  · exact List.suffix_append more (c :: s)

namespace Form

theorem header_eq (form : Form) (rest : Text) :
    form.header ++ rest =
      (',' :: form.before ++ "function".toList ++ form.between ++ '(' :: form.parameters) ++
        (form.ending ++ rest) := by
  simp only [header, List.append_assoc, List.cons_append]

theorem exists_text_eq (form : Form) : ∃ before, form.text = before ++ ['{'] :=
  ⟨"test(".toList ++ form.opening :: (form.name ++ form.closing ::
    (',' :: form.before ++ "function".toList ++ form.between ++ '(' :: form.parameters ++
      ')' :: form.behind)), by simp [text, header, ending]⟩

/-- What one declaration leaves is left by every declaration that begins in front of it. -/
theorem suffix_of_append_eq {first second : Form} {gap after rest : Text}
    (h : first.text ++ after = gap ++ (second.text ++ rest)) : rest <:+ after := by
  -- the name of the first one ends at a quote of the second one, or before it
  have hname : second.closing :: (second.header ++ rest) <:+
      first.name ++ (first.closing :: (first.header ++ after)) := by
    have hwhole : first.name ++ (first.closing :: (first.header ++ after)) <:+
        first.text ++ after :=
      ⟨"test(".toList ++ [first.opening], by simp [text]⟩
    have hsecond : second.closing :: (second.header ++ rest) <:+ first.text ++ after := by
      rw [h]
      exact ⟨gap ++ ("test(".toList ++ second.opening :: second.name), by simp [text]⟩
    refine List.suffix_of_suffix_length_le hsecond hwhole ?_
    have hlength := congrArg List.length h
    simp only [text, List.length_append, List.length_cons] at hlength ⊢
    omega
  have hquote : second.closing ∉ first.name := fun hmem => by
    have hfree := first.notQuote _ hmem
    rw [second.isQuote_closing] at hfree
    cases hfree
  have hheader := suffix_of_notMem hname hquote
  -- the parameters of the first one end at the closing parenthesis of the second one, or before it
  have hending : second.ending ++ rest <:+ second.closing :: (second.header ++ rest) := by
    rw [header_eq]
    exact (List.suffix_append _ _).trans (List.suffix_cons _ _)
  have hfront : ')' ∉ first.closing ::
      (',' :: first.before ++ "function".toList ++ first.between ++ '(' :: first.parameters) := by
    have hclosing : ')' ≠ first.closing := fun heq =>
      absurd (heq ▸ first.isQuote_closing) (by decide)
    have hbefore := notMem_of_isBlank first.isBlank_before (c := ')') (by decide)
    have hbetween := notMem_of_isBlank first.isBlank_between (c := ')') (by decide)
    simp [hclosing, hbefore, hbetween, first.notClosing]
  have hbody := hending.trans hheader
  rw [header_eq, ← List.cons_append, ending, List.cons_append] at hbody
  have hbody := suffix_of_notMem hbody hfront
  -- so does its opening brace
  have hbrace : '{' :: rest <:+ ')' :: first.behind ++ '{' :: after := by
    refine List.IsSuffix.trans ⟨')' :: second.behind, by simp⟩ (hbody.trans ?_)
    exact ⟨[], by simp [ending]⟩
  have hbehind := notMem_of_isBlank first.isBlank_behind (c := '{') (by decide)
  have hlast := suffix_of_notMem hbrace (by simp [hbehind])
  rcases List.suffix_cons_iff.mp hlast with heq | hwithin
  · rw [(List.cons.inj heq).2]
  · exact (List.suffix_cons _ _).trans hwithin

end Form

/-- Whether a declaration begins in front of a given one, and which, does not depend on what follows
the given one. -/
theorem name?_append_form {gap : Text} {form : Form} {rest : Text}
    (h : name? (gap ++ (form.text ++ rest)) = none) (other : Text) :
    name? (gap ++ (form.text ++ other)) = none := by
  rw [Option.eq_none_iff_forall_ne_some] at h ⊢
  rintro ⟨name, after⟩ hsome
  obtain ⟨first, rfl, hfirst⟩ := name?_eq_some_iff.mp hsome
  obtain ⟨more, rfl⟩ := Form.suffix_of_append_eq hfirst.symm
  refine h (first.name, more ++ rest) (name?_eq_some_iff.mpr ⟨first, rfl, ?_⟩)
  simp only [← List.append_assoc, List.append_left_inj] at hfirst ⊢
  exact hfirst

/-! ## A source in pieces -/

/-- A piece of source that ends in a declaration, in front of which no other one begins. -/
structure Head where
  gap : Text
  form : Form
  alone : ∀ s, s <:+ gap → s ≠ [] → name? (s ++ form.text) = none

namespace Head

/-- The whole piece. -/
def text (head : Head) : Text := head.gap ++ head.form.text

/-- The declaration is the first one that is found, whatever follows the piece. -/
theorem findAll_text_append (head : Head) (rest : Text) :
    findAll name? (head.text ++ rest) = (head.form.name, rest) :: findAll name? rest := by
  obtain ⟨gap, form, halone⟩ := head
  simp only [text, List.append_assoc]
  induction gap with
  | nil => exact findAll_of_some consumes_name? (name?_eq_some_iff.mpr ⟨form, rfl, rfl⟩)
  | cons c gap ih =>
      have halone' := halone (c :: gap) (List.suffix_refl _) (List.cons_ne_nil c gap)
      rw [← List.append_nil form.text] at halone'
      have hnone : name? (c :: (gap ++ (form.text ++ rest))) = none := name?_append_form halone' rest
      rw [List.cons_append, findAll_of_none hnone]
      exact ih fun s hs => halone s (hs.trans (List.suffix_cons c gap))

/-- A piece ends with a brace that opens a body. -/
theorem exists_text_eq (head : Head) : ∃ before, head.text = before ++ ['{'] := by
  obtain ⟨before, hbefore⟩ := head.form.exists_text_eq
  exact ⟨head.gap ++ before, by rw [text, hbefore, List.append_assoc]⟩

end Head

/-- Every source consists of pieces that end in a declaration, one piece for each declaration that
is found, and a rest without declarations. -/
theorem exists_heads (source : Text) :
    ∃ (heads : List Head) (tail : Text),
      source = heads.flatMap Head.text ++ tail ∧ findAll name? tail = [] := by
  induction source using find_induction consumes_name? with
  | nil => exact ⟨[], [], rfl, rfl⟩
  | pass c s hnone ih =>
      obtain ⟨heads, tail, rfl, htail⟩ := ih
      cases heads with
      | nil => exact ⟨[], c :: tail, rfl, (findAll_of_none hnone).trans htail⟩
      | cons head heads =>
          -- the character becomes part of the first gap
          have hfirst : name? (c :: head.gap ++ (head.form.text ++
              (heads.flatMap Head.text ++ tail))) = none := by
            simpa [Head.text] using hnone
          have halone := name?_append_form hfirst []
          rw [List.append_nil] at halone
          refine ⟨⟨c :: head.gap, head.form, fun s hs hne => ?_⟩ :: heads, tail, rfl, htail⟩
          rcases List.suffix_cons_iff.mp hs with rfl | hs
          · exact halone
          · exact head.alone s hs hne
  | find s name rest hsome ih =>
      obtain ⟨heads, tail, rfl, htail⟩ := ih
      obtain ⟨form, -, rfl⟩ := name?_eq_some_iff.mp hsome
      refine ⟨⟨[], form, fun s hs hne => absurd (List.suffix_nil.mp hs) hne⟩ :: heads, tail, ?_,
        htail⟩
      simp [Head.text]

end SkipChecks.Declaration
