import SkipChecks.Proofs.Declaration.Nesting
import SkipChecks.Proofs.Injection.Weave

/-!
# Sources one behind the other

When no declaration reaches from one source into the next, and the bodies in the first one are closed
there, both together have the declarations of each, with the same bodies. So they get the same guards
at the same places as by themselves.
-/

namespace SkipChecks

open Text Declaration

/-! ## Declarations -/

namespace Declaration

/-- Whether a declaration is recognised does not depend on what follows its opening brace. -/
theorem name?_append_eq_some_iff (s rest more name : Text) :
    name? (s ++ more) = some (name, rest ++ more) ↔ name? s = some (name, rest) := by
  simp only [name?_eq_some_iff, ← List.append_assoc, List.append_left_inj]

/-- The body at an offset ends in front of a brace. -/
def IsClosedAt (source : Text) (start : Nat) : Prop :=
  ∃ before body after, source = before ++ (body ++ '}' :: after) ∧ byteLength before = start ∧
    bodyAt? source start = some body

theorem upToClose_append_of_closed {depth : Nat} {s after : Text}
    (h : s = upToClose depth s ++ '}' :: after) (more : Text) :
    upToClose depth (s ++ more) = upToClose depth s := by
  rcases upToClose_append_cases depth s with ⟨used, -, -, -, hused⟩ | ⟨inner, -, hinner⟩
  · have hbody := hused []
    rw [List.append_nil] at hbody
    rw [hused, hbody]
  · -- a body that goes on would be the whole text
    have hwhole := hinner []
    rw [List.append_nil, upToClose, List.append_nil] at hwhole
    rw [hwhole] at h
    simp at h

theorem IsClosedAt.upToClose_append {source before rest : Text} {start : Nat}
    (h : IsClosedAt source start) (hsplit : splitAtByte? source start = some (before, rest))
    (more : Text) : upToClose 0 (rest ++ more) = upToClose 0 rest := by
  obtain ⟨front, body, after, hsource, hstart, hbody⟩ := h
  have hcut : splitAtByte? source start = some (front, body ++ '}' :: after) :=
    splitAtByte?_eq_some_iff.mpr ⟨hsource, hstart⟩
  rw [hsplit] at hcut
  obtain ⟨rfl, rfl⟩ := Prod.mk.inj (Option.some.inj hcut)
  have hbody : upToClose 0 (body ++ '}' :: after) = body := by
    simpa only [bodyAt?, hsplit, Option.map_some, Option.some.injEq] using hbody
  have hcloses : body ++ '}' :: after = upToClose 0 (body ++ '}' :: after) ++ '}' :: after := by
    rw [hbody]
  exact upToClose_append_of_closed hcloses more

/-- No declaration is located that starts in the first source and ends in the second one. -/
def Apart (first second : Text) : Prop :=
  ∀ site : Site (first ++ second), site.IsLocated →
    ¬ (site.start < byteLength first ∧ byteLength first < site.stop)

theorem apart_iff {first second : Text} :
    Apart first second ↔ ∀ find ∈ findAll (started name?) (first ++ second),
      byteLength second < byteLength find.1.1 → byteLength second ≤ byteLength find.2 := by
  constructor
  · rintro h ⟨⟨start, name⟩, rest⟩ hfind hstart
    obtain ⟨site, hsite⟩ := ((Site.places (first ++ second)).exists_iff start name rest).mpr
      (of_mem_findAll_started consumes_name? hfind)
    have hlocated : site.find ∈ findAll (started name?) (first ++ second) := by
      rw [hsite]
      exact hfind
    have hwithin := h site hlocated
    have hlengths := site.byteLength_source
    rw [hsite, byteLength_append] at hlengths
    simp only at hlengths hstart ⊢
    omega
  · intro h site hlocated hacross
    have hwithin := h site.find hlocated
    have hlengths := site.byteLength_source
    rw [byteLength_append] at hlengths
    omega

theorem Apart.findAll_append {first second : Text} (h : Apart first second) :
    findAll name? (first ++ second) =
      (findAll name? first).map (fun find => (find.1, find.2 ++ second)) ++
        findAll name? second := by
  apply Text.findAll_append consumes_name?
  · intro s rest more name
    exact name?_append_eq_some_iff s rest more name
  · rintro ⟨⟨start, name⟩, rest⟩ hfind hbehind
    have hlength : byteLength second ≤ byteLength rest :=
      apart_iff.mp h _ hfind hbehind.byteLength_lt
    obtain ⟨hstart, hsome⟩ := of_mem_findAll_started consumes_name? hfind
    have hrest : rest <:+ first ++ second := (consumes_name? hsome).suffix.trans hstart
    -- both end the text, and the find leaves no less than the second source
    rcases List.suffix_or_suffix_of_suffix (List.suffix_append first second) hrest with hs | hs
    · exact hs
    · by_cases heq : rest = second
      · subst heq
        exact List.suffix_refl rest
      · have hshorter := (Behind.of_ne hs heq).byteLength_lt
        omega

end Declaration

namespace Injection

/-! ## Placements -/

/-- A declaration and its guards, so many bytes further back. -/
def shift (bytes : Nat) (opened : Declaration × List Guard) : Declaration × List Guard :=
  (⟨opened.1.name, bytes + opened.1.bodyStart⟩, opened.2)

variable {first second : Text}

theorem opened_append (hclosed : ∀ d ∈ locate first, IsClosedAt first d.bodyStart)
    (hapart : Apart first second) :
    opened (first ++ second) =
      opened first ++ (opened second).map (shift (byteLength first)) := by
  simp only [opened_eq, hapart.findAll_append, List.map_append, List.map_map]
  congr 1
  · -- the offset counts from the front, and the body ends before the second source
    refine List.map_congr_left fun find hfind => ?_
    obtain ⟨before, hsplit⟩ := splitAtByte?_of_behind (findAll_behind consumes_name? first _ hfind)
    have hlocated : ⟨find.1, byteLength first - byteLength find.2⟩ ∈ locate first := by
      rw [locate]
      exact List.mem_map_of_mem hfind
    have hbody := (hclosed _ hlocated).upToClose_append hsplit second
    have hstart : byteLength (first ++ second) - byteLength (find.2 ++ second) =
        byteLength first - byteLength find.2 := by
      rw [byteLength_append, byteLength_append, Nat.add_sub_add_right]
    simp only [Function.comp_apply, ofFind, hbody, hstart]
  · -- the body is the same, and the offset counts the first source as well
    refine List.map_congr_left fun find hfind => ?_
    have hshorter := (findAll_behind consumes_name? second _ hfind).byteLength_lt
    have hstart : byteLength (first ++ second) - byteLength find.2 =
        byteLength first + (byteLength second - byteLength find.2) := by
      rw [byteLength_append, Nat.add_sub_assoc (Nat.le_of_lt hshorter)]
    simp only [Function.comp_apply, ofFind, shift, hstart]

theorem placements_append (hclosed : ∀ d ∈ locate first, IsClosedAt first d.bodyStart)
    (hapart : Apart first second) :
    placements (first ++ second) =
      placements first ++ (placements second).map fun placement =>
        (byteLength first + placement.1, placement.2) := by
  simp only [placements_eq_opened, opened_append hclosed hapart, List.filter_append,
    List.map_append, List.filter_map, List.map_map]
  rfl

/-! ## Insertions -/

namespace Inserted

variable {copied : Nat} {placed later : List (Nat × Text)} {source content rest ending : Text}

theorem shift (h : Inserted copied placed source content) (bytes : Nat) :
    Inserted (bytes + copied) (placed.map fun put => (bytes + put.1, put.2)) source content := by
  induction h with
  | rest copied source => exact .rest _ source
  | put hstart _ ih => exact .put (by rw [Nat.add_assoc, hstart]) ih

theorem append (h : Inserted copied placed source content)
    (hrest : Inserted (copied + byteLength source) later rest ending) :
    Inserted copied (placed ++ later) (source ++ rest) (content ++ ending) := by
  induction h with
  | rest copied source => exact hrest.prepend
  | @put copied start inserted before source content placed hstart _ ih =>
      rw [byteLength_append, ← Nat.add_assoc, hstart] at hrest
      have hput : Inserted copied ((start, inserted) :: (placed ++ later))
          (before ++ (source ++ rest)) (before ++ inserted ++ (content ++ ending)) :=
        .put hstart (ih hrest)
      simpa only [List.append_assoc, List.cons_append] using hput

theorem content_eq (h : Inserted 0 placed source content)
    (hrest : Inserted 0 placed source rest) : content = rest := by
  have hcontent := h.foldr_insertAt [] rfl
  rw [List.nil_append, List.nil_append] at hcontent
  rw [← hcontent]
  exact hrest.foldr_insertAt [] rfl

end Inserted

/-- Tests get their guards independently of the tests in front of them and behind them. Of two
sources one behind the other the content is what becomes of each, and the counts add up, when every
body located in the first one is closed there and no located declaration reaches into the next. -/
theorem ofSource_append (first second : Text)
    (hclosed : ∀ d ∈ locate first, IsClosedAt first d.bodyStart) (hapart : Apart first second) :
    (ofSource (first ++ second)).content = (ofSource first).content ++ (ofSource second).content ∧
    (ofSource (first ++ second)).guardedTests =
      (ofSource first).guardedTests + (ofSource second).guardedTests ∧
    (ofSource (first ++ second)).guards = (ofSource first).guards + (ofSource second).guards := by
  have hplacements := placements_append hclosed hapart
  have hguards : ∀ source, (ofSource source).guards =
      ((placements source).map (·.2.length)).sum := fun source => rfl
  have htests : ∀ source, (ofSource source).guardedTests = (placements source).length :=
    fun source => rfl
  refine ⟨?_, ?_, ?_⟩
  · -- the same texts are put in at the same offsets, which settles what the content is
    have hfirst := (onePass?_locate first).2
    have hsecond := (onePass?_locate second).2.shift (byteLength first)
    have hboth := (onePass?_locate (first ++ second)).2
    rw [Nat.add_comm (byteLength first)] at hsecond
    have hinserted := hfirst.append hsecond
    rw [hplacements, List.map_append, List.map_map] at hboth
    rw [List.map_map] at hinserted
    exact hboth.content_eq hinserted
  · rw [htests, htests, htests, hplacements, List.length_append, List.length_map]
  · rw [hguards, hguards, hguards, hplacements, List.map_append, List.sum_append, List.map_map]
    rfl

/-- Two tests that need a guard each, one source for each of them. -/
theorem ofSource_append_two_tests :
    let first := "test('a', function () \x7b route('x'); \x7d);\n".toList
    let second := "test('b', function () \x7b route('y'); \x7d);\n".toList
    (∀ d ∈ locate first, IsClosedAt first d.bodyStart) ∧ Apart first second ∧
      (ofSource first).guardedTests = 1 ∧ (ofSource second).guardedTests = 1 ∧
      (ofSource (first ++ second)).content =
        (ofSource first).content ++ (ofSource second).content ∧
      (ofSource (first ++ second)).guardedTests = 2 ∧ (ofSource (first ++ second)).guards = 2 := by
  intro first second
  have hlocate : locate first = [⟨['a'], 23⟩] := by decide +kernel
  have hclosed : ∀ d ∈ locate first, IsClosedAt first d.bodyStart := by
    rw [hlocate]
    intro d hd
    obtain rfl := List.mem_singleton.mp hd
    refine ⟨"test('a', function () \x7b".toList, " route('x'); ".toList, ");\n".toList, rfl, ?_, ?_⟩
    · decide +kernel
    · decide +kernel
  have hapart : Apart first second := by
    rw [apart_iff]
    decide +kernel
  have hfirst : (ofSource first).guardedTests = 1 ∧ (ofSource first).guards = 1 := by
    decide +kernel
  have hsecond : (ofSource second).guardedTests = 1 ∧ (ofSource second).guards = 1 := by
    decide +kernel
  obtain ⟨hcontent, htests, hguards⟩ := ofSource_append first second hclosed hapart
  rw [hfirst.1, hsecond.1] at htests
  rw [hfirst.2, hsecond.2] at hguards
  exact ⟨hclosed, hapart, hfirst.1, hsecond.1, hcontent, htests, hguards⟩

end Injection

end SkipChecks
