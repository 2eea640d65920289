import Mathlib.Data.List.Basic
import SkipChecks.Text.Scan

/-!
# Finds in a text

`findAll` counts the characters that a find has used up. Put as an equation, it goes on with what
the find leaves. What one find leaves is therefore shorter than what the find before it left, and
both end the text.
-/

namespace SkipChecks.Text

/-- The first text is what is left of the second one behind a piece that is not empty. -/
def Behind (rest s : Text) : Prop := ∃ used, used ≠ [] ∧ s = used ++ rest

namespace Behind

theorem cons {c : Char} {rest s : Text} (h : rest = s ∨ Behind rest s) : Behind rest (c :: s) := by
  rcases h with rfl | ⟨used, _, rfl⟩
  · exact ⟨[c], by simp, rfl⟩
  · exact ⟨c :: used, by simp, rfl⟩

theorem trans {first second third : Text} (hfirst : Behind first second)
    (hsecond : Behind second third) : Behind first third := by
  obtain ⟨used, hne, rfl⟩ := hfirst
  obtain ⟨before, _, rfl⟩ := hsecond
  exact ⟨before ++ used, by simp [hne], by simp⟩

theorem length_lt {rest s : Text} (h : Behind rest s) : rest.length < s.length := by
  obtain ⟨used, hne, rfl⟩ := h
  have hpos := List.length_pos_of_ne_nil hne
  rw [List.length_append]
  omega

theorem byteLength_lt {rest s : Text} (h : Behind rest s) : byteLength rest < byteLength s := by
  obtain ⟨used, hne, rfl⟩ := h
  obtain ⟨c, used, rfl⟩ := List.exists_cons_of_ne_nil hne
  have hpos := Char.utf8Size_pos c
  rw [byteLength_append, byteLength_cons]
  omega

end Behind

/-- Of two cuts of a text, the one at the greater offset lies in what the other one leaves. -/
theorem exists_middle {before after front rest : Text} (h : before ++ after = front ++ rest)
    (hle : byteLength before ≤ byteLength front) :
    ∃ middle, front = before ++ middle ∧ after = middle ++ rest := by
  rcases List.append_eq_append_iff.mp h with ⟨middle, hfront, hafter⟩ | ⟨middle, hbefore, hrest⟩
  · exact ⟨middle, hfront, hafter⟩
  · cases middle with
    | nil => exact ⟨[], by simpa using hbefore.symm, by simpa using hrest.symm⟩
    | cons c middle =>
        have hpos := Char.utf8Size_pos c
        rw [hbefore, byteLength_append, byteLength_cons] at hle
        omega

/-- A recogniser that uses up at least one character and leaves the others as they are. -/
def Consumes {α : Type} (recognise : Recogniser α) : Prop :=
  ∀ ⦃s found rest⦄, recognise s = some (found, rest) → Behind rest s

variable {α : Type} {recognise : Recogniser α}

theorem findAllFrom_eq (skip : Nat) (s : Text) :
    findAllFrom recognise skip s = findAll recognise (s.drop skip) := by
  induction s generalizing skip with
  | nil => cases skip <;> rfl
  | cons c s ih =>
      cases skip with
      | zero => rfl
      | succ skip => exact ih skip

theorem findAll_of_none {c : Char} {s : Text} (h : recognise (c :: s) = none) :
    findAll recognise (c :: s) = findAll recognise s := by
  rw [findAll, findAllFrom, h]
  rfl

/-- A find is followed by the finds in what it leaves. -/
theorem findAll_of_some (hconsumes : Consumes recognise) {s rest : Text} {found : α}
    (h : recognise s = some (found, rest)) :
    findAll recognise s = (found, rest) :: findAll recognise rest := by
  obtain ⟨used, hne, rfl⟩ := hconsumes h
  obtain ⟨c, used, rfl⟩ := List.exists_cons_of_ne_nil hne
  rw [List.cons_append] at h ⊢
  have hdrop : (used ++ rest).drop ((used ++ rest).length - rest.length) = rest := by
    rw [List.length_append, Nat.add_sub_cancel]
    exact List.drop_left
  rw [findAll, findAllFrom, h]
  simp only [findAllFrom_eq, hdrop]

/-- Induction along a scan: a character at which nothing is found is passed, and a find is passed as
a whole. -/
theorem find_induction (hconsumes : Consumes recognise) {motive : Text → Prop} (nil : motive [])
    (pass : ∀ c s, recognise (c :: s) = none → motive s → motive (c :: s))
    (find : ∀ s found rest, recognise s = some (found, rest) → motive rest → motive s)
    (s : Text) : motive s := by
  -- a find may leave any shorter text, so the induction is on the length
  induction hlength : s.length using Nat.strongRecOn generalizing s with
  | ind length ih =>
      cases s with
      | nil => exact nil
      | cons c s =>
          cases hstart : recognise (c :: s) with
          | none => exact pass c s hstart (ih s.length (by simp [← hlength]) s rfl)
          | some first =>
              obtain ⟨found, rest⟩ := first
              have hshorter := hlength ▸ (hconsumes hstart).length_lt
              exact find _ found rest hstart (ih rest.length hshorter rest rfl)

/-- What a find leaves lies behind the start of the text. -/
theorem findAll_behind (hconsumes : Consumes recognise) (s : Text) :
    ∀ find ∈ findAll recognise s, Behind find.2 s := by
  induction s using find_induction hconsumes with
  | nil => simp [findAll, findAllFrom]
  | pass c s hnone ih =>
      rw [findAll_of_none hnone]
      exact fun find hfind => .cons (.inr (ih find hfind))
  | find s found rest hsome ih =>
      rw [findAll_of_some hconsumes hsome]
      intro find hfind
      rcases List.mem_cons.mp hfind with rfl | hfind
      · exact hconsumes hsome
      · exact (ih find hfind).trans (hconsumes hsome)

/-- A find is made at the start of some rest of the text. -/
theorem exists_of_mem_findAll (hconsumes : Consumes recognise) {s : Text} {find : α × Text}
    (h : find ∈ findAll recognise s) : ∃ before rest, s = before ++ rest ∧ recognise rest = find := by
  induction s using find_induction hconsumes with
  | nil => cases h
  | pass c s hnone ih =>
      rw [findAll_of_none hnone] at h
      obtain ⟨before, rest, rfl, hrest⟩ := ih h
      exact ⟨c :: before, rest, rfl, hrest⟩
  | find s found after hsome ih =>
      rw [findAll_of_some hconsumes hsome] at h
      rcases List.mem_cons.mp h with rfl | h
      · exact ⟨[], s, rfl, hsome⟩
      · obtain ⟨used, -, rfl⟩ := hconsumes hsome
        obtain ⟨before, rest, rfl, hrest⟩ := ih h
        exact ⟨used ++ before, rest, by simp, hrest⟩

/-- Of two finds, the later one leaves what lies behind the start of what the earlier one left. -/
theorem findAll_pairwise (hconsumes : Consumes recognise) (s : Text) :
    (findAll recognise s).Pairwise fun first second => Behind second.2 first.2 := by
  induction s using find_induction hconsumes with
  | nil => exact .nil
  | pass c s hnone ih => rwa [findAll_of_none hnone]
  | find s found rest hsome ih =>
      rw [findAll_of_some hconsumes hsome]
      exact .cons (findAll_behind hconsumes rest) ih

/-! ## Steps of recognisers -/

theorem Behind.of_suffix {rest middle s : Text} (h : Behind rest middle) (hsuffix : middle <:+ s) :
    Behind rest s := by
  obtain ⟨used, hne, rfl⟩ := h
  obtain ⟨before, rfl⟩ := hsuffix
  exact ⟨before ++ used, by simp [hne], by simp⟩

theorem Behind.of_isPrefixOf? {opening s rest : Text} (h : opening.isPrefixOf? s = some rest)
    (hne : opening ≠ []) : Behind rest s :=
  ⟨opening, hne, (List.isPrefixOf?_eq_some_iff_append_eq.mp h).symm⟩

/-- A piece ends at the first of the characters that end it, so a text is split in one way. -/
theorem append_cons_inj {first second s t : Text} {c d : Char} (hfirst : d ∉ first)
    (hsecond : c ∉ second) :
    first ++ c :: s = second ++ d :: t ↔ first = second ∧ c = d ∧ s = t := by
  constructor
  · intro h
    rcases List.append_eq_append_iff.mp h with ⟨more, rfl, hmore⟩ | ⟨more, rfl, hmore⟩
    · cases more with
      | nil => simpa using hmore
      | cons e more =>
          obtain ⟨rfl, -⟩ := List.cons.inj hmore
          simp at hsecond
    · cases more with
      | nil => simpa [eq_comm] using hmore
      | cons e more =>
          obtain ⟨rfl, -⟩ := List.cons.inj hmore
          simp at hfirst
  · rintro ⟨rfl, rfl, rfl⟩
    rfl

/-- A quoted name has no quotes inside and is not empty; the quotes around it may differ. -/
theorem quotedName?_eq_some_iff {s name rest : Text} :
    quotedName? s = some (name, rest) ↔
      ∃ opening closing, isQuote opening ∧ isQuote closing ∧ name ≠ [] ∧
        (∀ c ∈ name, isQuote c = false) ∧ s = opening :: name ++ closing :: rest := by
  constructor
  · intro h
    cases s with
    | nil => cases h
    | cons opening s =>
        rw [quotedName?] at h
        split at h
        next hopening =>
          split at h
          next c inside closing after hinside hafter =>
            obtain ⟨rfl, rfl⟩ := Prod.mk.inj (Option.some.inj h)
            refine ⟨opening, closing, hopening, ?_, by simp, ?_, ?_⟩
            · have hhead := List.head_dropWhile_not (!isQuote ·) (l := s) (by simp [hafter])
              simpa [hafter] using hhead
            · intro d hd
              have hmem := List.all_eq_true.mp (List.all_takeWhile (l := s)) d (hinside ▸ hd)
              simpa using hmem
            · rw [← hinside, ← hafter, List.cons_append, List.takeWhile_append_dropWhile]
          next => cases h
        next => cases h
  · rintro ⟨opening, closing, hopening, hclosing, hne, hname, rfl⟩
    obtain ⟨c, inside, rfl⟩ := List.exists_cons_of_ne_nil hne
    have hfree : ∀ d ∈ c :: inside, (!isQuote d) = true := by simpa using hname
    rw [List.cons_append, quotedName?, if_pos hopening, List.takeWhile_append_of_pos hfree,
      List.dropWhile_append_of_pos hfree]
    simp [hclosing]

theorem consumes_quotedName? : Consumes quotedName? := by
  intro s name rest h
  obtain ⟨opening, closing, -, -, -, -, rfl⟩ := quotedName?_eq_some_iff.mp h
  exact ⟨opening :: name ++ [closing], by simp, by simp⟩

end SkipChecks.Text
