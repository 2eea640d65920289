import Mathlib.Data.Set.List
import SkipChecks.Proofs.Text.Finds

/-!
# Where finds start

A find shows where it stands when it is told together with the text from its start on. Told so, the
finds in a text are in order and do not overlap. And none is missing: what could be recognised at
any other place of the text starts inside a find, behind its first character.

Places are values of some type that stand for all that can be recognised in a text, with or without
being found there. What holds of finds is then said of places.
-/

namespace SkipChecks.Text

variable {α : Type} {recognise : Recogniser α}

/-- Gives a find together with the text at whose start it was recognised. -/
def started (recognise : Recogniser α) : Recogniser (Text × α) := fun s =>
  (recognise s).map fun (found, rest) => ((s, found), rest)

theorem started_eq_some_iff {s start rest : Text} {found : α} :
    started recognise s = some ((start, found), rest) ↔
      start = s ∧ recognise s = some (found, rest) := by
  rw [started, Option.map_eq_some_iff]
  constructor
  · rintro ⟨⟨other, after⟩, hsome, heq⟩
    simp only [Prod.mk.injEq] at heq
    obtain ⟨⟨rfl, rfl⟩, rfl⟩ := heq
    exact ⟨rfl, hsome⟩
  · rintro ⟨rfl, hsome⟩
    exact ⟨(found, rest), hsome, rfl⟩

theorem started_eq_none {s : Text} (h : recognise s = none) : started recognise s = none := by
  rw [started, h, Option.map_none]

theorem consumes_started (hconsumes : Consumes recognise) : Consumes (started recognise) := by
  rintro s ⟨start, found⟩ rest h
  exact hconsumes (started_eq_some_iff.mp h).2

theorem Behind.of_ne {rest s : Text} (h : rest <:+ s) (hne : rest ≠ s) : Behind rest s := by
  obtain ⟨used, rfl⟩ := h
  refine ⟨used, ?_, rfl⟩
  rintro rfl
  exact hne rfl

theorem Behind.suffix {rest s : Text} (h : Behind rest s) : rest <:+ s := by
  obtain ⟨used, -, rfl⟩ := h
  exact List.suffix_append used rest

variable (hconsumes : Consumes recognise)

include hconsumes

theorem findAll_started_of_some {s rest : Text} {found : α} (h : recognise s = some (found, rest)) :
    findAll (started recognise) s =
      ((s, found), rest) :: findAll (started recognise) rest :=
  findAll_of_some (consumes_started hconsumes) (started_eq_some_iff.mpr ⟨rfl, h⟩)

theorem map_findAll_started (s : Text) :
    (findAll (started recognise) s).map (fun find => (find.1.2, find.2)) =
      findAll recognise s := by
  induction s using find_induction hconsumes with
  | nil => rfl
  | pass c s hnone ih =>
      rw [findAll_of_none hnone, findAll_of_none (started_eq_none hnone), ih]
  | find s found rest hsome ih =>
      rw [findAll_of_some hconsumes hsome, findAll_started_of_some hconsumes hsome, List.map_cons, ih]

theorem of_mem_findAll_started {s start rest : Text} {found : α}
    (h : ((start, found), rest) ∈ findAll (started recognise) s) :
    start <:+ s ∧ recognise start = some (found, rest) := by
  obtain ⟨before, text, rfl, hsome⟩ := exists_of_mem_findAll (consumes_started hconsumes) h
  obtain ⟨rfl, hsome⟩ := started_eq_some_iff.mp hsome
  exact ⟨List.suffix_append before start, hsome⟩

/-- A find starts in what the finds before it have left. -/
theorem findAll_started_pairwise (s : Text) :
    (findAll (started recognise) s).Pairwise fun first second => second.1.1 <:+ first.2 := by
  induction s using find_induction (consumes_started hconsumes) with
  | nil => exact .nil
  | pass c s hnone ih => rwa [findAll_of_none hnone]
  | find s found rest hsome ih =>
      rw [findAll_of_some (consumes_started hconsumes) hsome]
      refine .cons ?_ ih
      rintro ⟨⟨start, other⟩, after⟩ hfind
      exact (of_mem_findAll_started hconsumes hfind).1

/-- What is recognised somewhere in a text is a find, or it starts inside one. -/
theorem mem_findAll_started_or_inside {s start rest : Text} {found : α} (hstart : start <:+ s)
    (h : recognise start = some (found, rest)) :
    ((start, found), rest) ∈ findAll (started recognise) s ∨
      ∃ find ∈ findAll (started recognise) s, Behind start find.1.1 ∧ Behind find.2 start := by
  induction s using find_induction hconsumes with
  | nil =>
      -- an empty text leaves nothing to use up
      obtain rfl := List.suffix_nil.mp hstart
      exact absurd (hconsumes h).length_lt (by simp)
  | pass c s hnone ih =>
      rw [findAll_of_none (started_eq_none hnone)]
      rcases List.suffix_cons_iff.mp hstart with rfl | hlater
      · rw [hnone] at h
        cases h
      · exact ih hlater
  | find s first after hsome ih =>
      rw [findAll_started_of_some hconsumes hsome]
      by_cases heq : start = s
      · subst heq
        rw [hsome] at h
        cases h
        exact .inl List.mem_cons_self
      · by_cases hlater : start <:+ after
        · -- the search goes on behind the find
          rcases ih hlater with hfind | ⟨find, hfind, hinside⟩
          · exact .inl (List.mem_cons_of_mem _ hfind)
          · exact .inr ⟨find, List.mem_cons_of_mem _ hfind, hinside⟩
        · have hafter : after <:+ start :=
            (List.suffix_or_suffix_of_suffix hstart (hconsumes hsome).suffix).resolve_left hlater
          have hne : after ≠ start := by
            rintro rfl
            exact hlater (List.suffix_refl _)
          exact .inr ⟨_, List.mem_cons_self, .of_ne hstart heq, .of_ne hafter hne⟩

/-- Where no find reaches from one text into the next, the finds in both are those in each, provided
that what is recognised does not depend on what a find leaves. -/
theorem findAll_append (hextends : ∀ s rest more found,
      recognise (s ++ more) = some (found, rest ++ more) ↔ recognise s = some (found, rest))
    {s t : Text}
    (hapart : ∀ find ∈ findAll (started recognise) (s ++ t), Behind t find.1.1 → t <:+ find.2) :
    findAll recognise (s ++ t) =
      (findAll recognise s).map (fun find => (find.1, find.2 ++ t)) ++ findAll recognise t := by
  induction s using find_induction hconsumes with
  | nil => rfl
  | pass c s hnone ih =>
      -- a find here would need characters of the next text
      have hnone' : recognise (c :: (s ++ t)) = none := by
        rw [Option.eq_none_iff_forall_ne_some]
        rintro ⟨found, rest⟩ hsome
        rw [List.cons_append, findAll_started_of_some hconsumes hsome] at hapart
        obtain ⟨kept, rfl⟩ := hapart _ List.mem_cons_self ⟨c :: s, List.cons_ne_nil c s, rfl⟩
        rw [(hextends (c :: s) kept t found).mp hsome] at hnone
        cases hnone
      rw [List.cons_append, findAll_of_none (started_eq_none hnone')] at hapart
      rw [List.cons_append, findAll_of_none hnone', findAll_of_none hnone, ih hapart]
  | find s found rest hsome ih =>
      have hsome' := (hextends s rest t found).mpr hsome
      rw [findAll_started_of_some hconsumes hsome'] at hapart
      have hrest := ih fun find hfind => hapart find (List.mem_cons_of_mem _ hfind)
      rw [findAll_of_some hconsumes hsome', findAll_of_some hconsumes hsome, hrest, List.map_cons,
        List.cons_append]

/-- The finds in a text come first among the finds in it and what follows it, provided that what is
recognised does not depend on what a find leaves, and that nothing is found in a text with which
something is recognised only when more follows. -/
theorem findAll_prefix_append (hextends : ∀ s rest more found,
      recognise (s ++ more) = some (found, rest ++ more) ↔ recognise s = some (found, rest))
    (hbeyond : ∀ s more find, recognise s = none → recognise (s ++ more) = some find →
      findAll recognise s = [])
    (s more : Text) :
    (findAll recognise s).map (fun find => (find.1, find.2 ++ more)) <+:
      findAll recognise (s ++ more) := by
  induction s using find_induction hconsumes with
  | nil => exact List.nil_prefix
  | pass c s hnone ih =>
      cases hlonger : recognise (c :: (s ++ more)) with
      | none => rwa [List.cons_append, findAll_of_none hlonger, findAll_of_none hnone]
      | some find =>
          rw [hbeyond (c :: s) more find hnone hlonger]
          exact List.nil_prefix
  | find s found rest hsome ih =>
      have hsome' := (hextends s rest more found).mpr hsome
      rw [findAll_of_some hconsumes hsome', findAll_of_some hconsumes hsome, List.map_cons]
      exact (List.prefix_cons_inj _).mpr ih

omit hconsumes

/-! ## Places -/

/-- Each place tells the find that is made where a search comes by it. There is one for every end of
the text that begins with something recognised, and no other. -/
structure Places {σ : Type} (recognise : Recogniser α) (s : Text) (find : σ → (Text × α) × Text) :
    Prop where
  injective : Function.Injective find
  exists_iff : ∀ start found rest, (∃ place, find place = ((start, found), rest)) ↔
    start <:+ s ∧ recognise start = some (found, rest)

/-- The places where something is found follow one another, and every other place starts inside one
of them. -/
theorem Places.exists_located {σ : Type} {s : Text} {find : σ → (Text × α) × Text}
    (h : Places recognise s find) (hconsumes : Consumes recognise) :
    ∃ located : List σ, located.map find = findAll (started recognise) s ∧
      (∀ place, place ∈ located ↔ find place ∈ findAll (started recognise) s) ∧
      located.Pairwise
        (fun first second => byteLength (find second).1.1 ≤ byteLength (find first).2) ∧
      ∀ place, place ∈ located ∨ ∃ other ∈ located,
        Behind (find place).1.1 (find other).1.1 ∧ Behind (find other).2 (find place).1.1 := by
  -- every find is the find of some place, so the finds are those of some list of places
  have hrange : findAll (started recognise) s ∈ Set.range (List.map find) := by
    rw [Set.range_list_map]
    rintro ⟨⟨start, found⟩, rest⟩ hfind
    exact (h.exists_iff start found rest).mpr (of_mem_findAll_started hconsumes hfind)
  obtain ⟨located, hlocated⟩ := hrange
  have hmem : ∀ place, place ∈ located ↔ find place ∈ findAll (started recognise) s := by
    intro place
    rw [← hlocated, List.mem_map_of_injective h.injective]
  refine ⟨located, hlocated, hmem, ?_, fun place => ?_⟩
  · have hpairwise := findAll_started_pairwise hconsumes s
    rw [← hlocated, List.pairwise_map] at hpairwise
    refine hpairwise.imp fun {first second} hsuffix => ?_
    obtain ⟨gap, hgap⟩ := hsuffix
    rw [← hgap, byteLength_append]
    exact Nat.le_add_left _ _
  · obtain ⟨hstart, hsome⟩ := (h.exists_iff _ _ _).mp ⟨place, rfl⟩
    rcases mem_findAll_started_or_inside hconsumes hstart hsome with hfind | ⟨other, hother, hinside⟩
    · exact .inl ((hmem place).mpr hfind)
    · rw [← hlocated] at hother
      obtain ⟨place', hplace', rfl⟩ := List.mem_map.mp hother
      exact .inr ⟨place', hplace', hinside⟩

end SkipChecks.Text
