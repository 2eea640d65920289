import Mathlib.Algebra.GroupWithZero.Nat
import SkipChecks.Injection.Basic
import SkipChecks.Proofs.Declaration.Places
import SkipChecks.Proofs.Text.Pieces

/-!
# Injection inserts and does nothing else

The content after injection is the source with blocks of guards put in at the offsets where guarded
bodies open. `ofSource` puts the blocks in from the last one on. A single pass from the front, which
cuts the pieces between the blocks out of the source, comes to the same result, and none of its cuts
fails. Taking the blocks out again gives back the source.
-/

namespace SkipChecks.Injection

open Text

/-! ## Texts put in at offsets -/

/-- The content is the source with each text put in at its byte offset. Offsets count from `copied`
bytes in front of the source, and ascend. -/
inductive Inserted : Nat → List (Nat × Text) → Text → Text → Prop
  | rest (copied : Nat) (source : Text) : Inserted copied [] source source
  | put {copied start : Nat} {inserted before source content : Text} {later : List (Nat × Text)}
      (hstart : copied + byteLength before = start) (hlater : Inserted start later source content) :
      Inserted copied ((start, inserted) :: later) (before ++ source)
        (before ++ inserted ++ content)

/-- Takes out texts at the offsets where they were put in. There is no answer where one of them is
not found. -/
def withdraw? : Nat → List (Nat × Text) → Text → Option Text
  | _, [], content => some content
  | copied, (start, inserted) :: later, content => do
      let (before, rest) ← splitAtByte? content (start - copied)
      let rest ← inserted.isPrefixOf? rest
      let source ← withdraw? start later rest
      return before ++ source

namespace Inserted

variable {copied : Nat} {placed : List (Nat × Text)} {source content : Text}

theorem eq_of_nil (h : Inserted copied [] source content) : content = source := by
  cases h
  rfl

theorem length_eq (h : Inserted copied placed source content) :
    content.length = source.length + (placed.map (·.2.length)).sum := by
  induction h with
  | rest => simp
  | put _ _ ih =>
      simp only [List.length_append, List.map_cons, List.sum_cons, ih]
      omega

/-- What stands in front of everything stays where it is. -/
theorem prepend {before : Text} (h : Inserted (copied + byteLength before) placed source content) :
    Inserted copied placed (before ++ source) (before ++ content) := by
  cases h with
  | rest => exact .rest copied _
  | @put _ start inserted middle source content later hstart hlater =>
      have hwhole : copied + byteLength (before ++ middle) = start := by
        rw [byteLength_append, ← Nat.add_assoc, hstart]
      have hput : Inserted copied ((start, inserted) :: later) ((before ++ middle) ++ source)
          ((before ++ middle) ++ inserted ++ content) := .put hwhole hlater
      simpa only [List.append_assoc] using hput

/-- Taking out what was put in gives back the source. -/
theorem withdraw?_eq (h : Inserted copied placed source content) :
    withdraw? copied placed content = some source := by
  induction h with
  | rest => rfl
  | @put copied start inserted before source content later hstart _ ih =>
      have hsplit : splitAtByte? (before ++ (inserted ++ content)) (start - copied) =
          some (before, inserted ++ content) :=
        splitAtByte?_eq_some_iff.mpr ⟨rfl, by omega⟩
      have hprefix : inserted.isPrefixOf? (inserted ++ content) = some content :=
        List.isPrefixOf?_eq_some_iff_append_eq.mpr rfl
      rw [List.append_assoc]
      simp [withdraw?, hsplit, hprefix, ih]

/-- Putting the texts in one by one, the last one first, gives the content. -/
theorem foldr_insertAt (h : Inserted copied placed source content) (before : Text)
    (hbefore : byteLength before = copied) :
    placed.foldr (fun (start, inserted) s => insertAt start inserted s) (before ++ source) =
      before ++ content := by
  induction h generalizing before with
  | rest => rfl
  | @put copied start inserted middle source content later hstart _ ih =>
      -- the later texts are in place already and leave this offset as it is
      have hlater := ih (before ++ middle) (by rw [byteLength_append, hbefore, hstart])
      have hsplit : splitAtByte? (before ++ middle ++ content) start =
          some (before ++ middle, content) :=
        splitAtByte?_eq_some_iff.mpr ⟨rfl, by rw [byteLength_append, hbefore, hstart]⟩
      rw [List.foldr_cons, ← List.append_assoc, hlater]
      change insertAt start inserted (before ++ middle ++ content) = _
      rw [insertAt, hsplit]
      simp

end Inserted

/-! ## A single pass from the front -/

/-- The piece between two byte offsets. There is none when the second one comes first, lies past the
end or inside a character, or when the first one lies inside a character. -/
def slice? (s : Text) (start stop : Nat) : Option Text := do
  let (front, _) ← splitAtByte? s stop
  let (_, piece) ← splitAtByte? front start
  return piece

/-- Goes through declarations from the front and copies the source piece by piece, up to `copied` so
far. Bodies and pieces are cut out of the source; there is no result when a cut fails. -/
def onePass? (source : Text) : Nat → List Declaration → Option Injection
  | copied, [] => do
      let (_, rest) ← splitAtByte? source copied
      return ⟨rest, 0, 0⟩
  | copied, d :: ds => do
      let body ← Declaration.bodyAt? source d.bodyStart
      let guards := (Dependencies.scan body).guards
      if guards.isEmpty then
        onePass? source copied ds
      else
        let piece ← slice? source copied d.bodyStart
        let later ← onePass? source d.bodyStart ds
        return ⟨piece ++ block guards ++ later.content, later.guardedTests + 1,
          guards.length + later.guards⟩

/-- Where guards go for some of the declarations in a source, and which ones. -/
def placed (source : Text) (ds : List Declaration) : List (Nat × List Guard) :=
  (ds.map fun d => (d.bodyStart, guardsAt source d.bodyStart)).filter fun (_, guards) =>
    !guards.isEmpty

/-- The text that goes to an offset. -/
def blockAt (placement : Nat × List Guard) : Nat × Text := (placement.1, block placement.2)

theorem slice?_append (before middle after : Text) :
    slice? (before ++ middle ++ after) (byteLength before) (byteLength (before ++ middle)) =
      some middle := by
  have houter : splitAtByte? (before ++ middle ++ after) (byteLength (before ++ middle)) =
      some (before ++ middle, after) := splitAtByte?_eq_some_iff.mpr ⟨rfl, rfl⟩
  have hinner : splitAtByte? (before ++ middle) (byteLength before) = some (before, middle) :=
    splitAtByte?_eq_some_iff.mpr ⟨rfl, rfl⟩
  simp only [slice?, houter, hinner, Option.bind_eq_bind, Option.bind_some, Option.pure_def]

/-- At an offset that splits the source there is a body, and guards are taken from it. -/
theorem guardsAt_of_split {source before after : Text} {start : Nat}
    (h : splitAtByte? source start = some (before, after)) :
    Declaration.bodyAt? source start = some (Declaration.upToClose 0 after) ∧
      guardsAt source start = (Dependencies.scan (Declaration.upToClose 0 after)).guards := by
  have hbody : Declaration.bodyAt? source start = some (Declaration.upToClose 0 after) := by
    rw [Declaration.bodyAt?, h]
    rfl
  exact ⟨hbody, by rw [guardsAt, hbody]⟩

/-- The pass succeeds wherever it stands, and puts in the blocks of the declarations to come. -/
theorem onePass?_inserted {source : Text} {ds : List Declaration}
    (hsplit : ∀ d ∈ ds, ∃ front rest, splitAtByte? source d.bodyStart = some (front, rest))
    (hascending : (ds.map (·.bodyStart)).Pairwise (· < ·)) {before after : Text}
    (hsource : source = before ++ after) (hahead : ∀ d ∈ ds, byteLength before ≤ d.bodyStart) :
    ∃ content,
      Inserted (byteLength before) ((placed source ds).map blockAt) after content ∧
      onePass? source (byteLength before) ds =
        some ⟨content, (placed source ds).length, ((placed source ds).map (·.2.length)).sum⟩ := by
  induction ds generalizing before after with
  | nil =>
      have hcut : splitAtByte? source (byteLength before) = some (before, after) :=
        splitAtByte?_eq_some_iff.mpr ⟨hsource, rfl⟩
      exact ⟨after, .rest _ _, by simp [onePass?, placed, hcut]⟩
  | cons d ds ih =>
      obtain ⟨front, rest, hcut⟩ := hsplit d List.mem_cons_self
      obtain ⟨hcutSource, hcutStart⟩ := splitAtByte?_eq_some_iff.mp hcut
      obtain ⟨hfirst, hascending⟩ := List.pairwise_cons.mp hascending
      obtain ⟨hbody, hguards⟩ := guardsAt_of_split hcut
      have hsplit := fun e he => hsplit e (List.mem_cons_of_mem d he)
      by_cases hnone : (guardsAt source d.bodyStart).isEmpty
      · -- nothing to insert: the pass goes on without copying
        have hplaced : placed source (d :: ds) = placed source ds := by
          simp [placed, hnone]
        obtain ⟨content, hinserted, hpass⟩ := ih hsplit hascending hsource
          fun e he => hahead e (List.mem_cons_of_mem d he)
        refine ⟨content, hplaced ▸ hinserted, ?_⟩
        simp only [onePass?, hbody, ← hguards, hnone, hplaced, hpass, Option.bind_eq_bind,
          Option.bind_some, if_true]
      · obtain ⟨middle, rfl, rfl⟩ :=
          exists_middle (hsource.symm.trans hcutSource) (hcutStart ▸ hahead d List.mem_cons_self)
        have hplaced : placed source (d :: ds) =
            (d.bodyStart, guardsAt source d.bodyStart) :: placed source ds := by
          simp [placed, hnone]
        have hpiece : slice? source (byteLength before) d.bodyStart = some middle := by
          rw [hcutSource, ← hcutStart]
          exact slice?_append before middle rest
        obtain ⟨content, hinserted, hpass⟩ := ih hsplit hascending hcutSource fun e he => by
          rw [hcutStart]
          exact Nat.le_of_lt (hfirst _ (List.mem_map_of_mem he))
        rw [hcutStart] at hinserted hpass
        refine ⟨middle ++ block (guardsAt source d.bodyStart) ++ content, ?_, ?_⟩
        · rw [hplaced]
          exact .put (by rw [← hcutStart, byteLength_append]) hinserted
        · simp only [onePass?, hbody, ← hguards, hnone, hplaced, hpiece, hpass, Option.bind_eq_bind,
            Option.bind_some, if_false, List.length_cons, List.map_cons, List.sum_cons,
            Bool.false_eq_true, Option.pure_def]

/-! ## What injection makes of a source -/

/-- Guards stand one a line, each line indented, with a line feed at either end. -/
theorem block_eq_join {guards : List Guard} (hne : guards ≠ []) :
    block guards =
      "\n    ".toList ++ join "\n    ".toList (guards.map Guard.text) ++ ['\n'] := by
  obtain ⟨guard, guards, rfl⟩ := List.exists_cons_of_ne_nil hne
  have hjoin := flatMap_eq_join "\n    ".toList guard.text (guards.map Guard.text)
  rw [← List.map_cons, List.flatMap_map] at hjoin
  rw [block, hjoin]

theorem block_length_pos (guards : List Guard) : 0 < (block guards).length := by
  rw [block, List.length_append]
  exact Nat.lt_add_left _ (by decide)

theorem onePass?_locate (source : Text) :
    onePass? source 0 (Declaration.locate source) = some (ofSource source) ∧
      Inserted 0 ((placements source).map blockAt) source (ofSource source).content := by
  have hstart : source = [] ++ source := rfl
  obtain ⟨content, hinserted, hpass⟩ :=
    onePass?_inserted (fun d hd => Declaration.splitAtByte?_bodyStart hd)
      (Declaration.bodyStart_pairwise source) hstart fun _ _ => Nat.zero_le _
  have hcontent : (ofSource source).content = content := by
    have hfoldr := hinserted.foldr_insertAt [] rfl
    rw [List.foldr_map] at hfoldr
    exact hfoldr
  rw [hcontent]
  refine ⟨hpass.trans ?_, hinserted⟩
  rw [← hcontent]
  rfl

/-- The placements, told by the offsets at which located bodies open. -/
theorem placements_eq (source : Text) :
    placements source =
      (((Declaration.locate source).map (·.bodyStart)).filter fun start =>
        guardsAt source start ≠ []).map fun start => (start, guardsAt source start) := by
  rw [placements, List.filter_map, List.filter_map, List.map_map]
  congr 1
  refine List.filter_congr fun d _ => ?_
  cases hguards : guardsAt source d.bodyStart <;> simp [hguards]

/-- Offsets without guards add nothing to the number of guards. -/
theorem sum_length_placements (source : Text) :
    ((placements source).map (·.2.length)).sum =
      (((Declaration.locate source).map (·.bodyStart)).map fun start =>
        (guardsAt source start).length).sum := by
  rw [placements_eq, List.map_map]
  induction (Declaration.locate source).map (·.bodyStart) with
  | nil => rfl
  | cons start starts ih =>
      by_cases hnone : guardsAt source start = []
      · simpa [hnone] using ih
      · simpa [hnone] using ih

/-- Whether guards were inserted shows in the content. -/
theorem changed_iff (source : Text) :
    (ofSource source).changed ↔ (ofSource source).content ≠ source := by
  have hinserted := (onePass?_locate source).2
  have hguards : (ofSource source).guards = ((placements source).map (·.2.length)).sum := rfl
  rw [changed, decide_eq_true_eq, hguards]
  cases hplacements : placements source with
  | nil =>
      rw [hplacements] at hinserted
      simp [hinserted.eq_of_nil]
  | cons placement later =>
      have hmem : placement ∈ placements source := hplacements ▸ List.mem_cons_self
      have hne : placement.2 ≠ [] := by
        obtain ⟨-, hsome⟩ := List.mem_filter.mp hmem
        simpa using hsome
      have hsome := List.length_pos_of_ne_nil hne
      -- every block has a line feed at least, so the content is longer than the source
      have hlonger := hinserted.length_eq
      have hblock := block_length_pos placement.2
      rw [hplacements] at hlonger
      simp only [List.map_cons, List.sum_cons, blockAt] at hlonger ⊢
      constructor
      · intro _ hsame
        rw [hsame] at hlonger
        omega
      · intro _
        omega

/-- Injection inserts and does nothing else. Bodies open at ascending offsets, and each can be read
in the source as it was. The pass from the front succeeds, so no cut is out of range or inside a
character, and its result is the injection. The content is the source with the rendered guards put
in at the offsets that have some; taking them out again gives back the source. The counts tell what
was put in, and whether anything was. -/
theorem ofSource_inserts_guards_only (source : Text) :
    let starts := (Declaration.locate source).map (·.bodyStart)
    let guarded := starts.filter fun start => guardsAt source start ≠ []
    let blocks := guarded.map fun start =>
      (start, "\n    ".toList ++
        join "\n    ".toList ((guardsAt source start).map Guard.text) ++ ['\n'])
    let injection := ofSource source
    starts.Pairwise (· < ·) ∧
      (∀ start ∈ starts, ∃ body, Declaration.bodyAt? source start = some body ∧
        guardsAt source start = (Dependencies.scan body).guards) ∧
      onePass? source 0 (Declaration.locate source) = some injection ∧
      Inserted 0 blocks source injection.content ∧
      withdraw? 0 blocks injection.content = some source ∧
      injection.guardedTests = guarded.length ∧
      injection.guards = (starts.map fun start => (guardsAt source start).length).sum ∧
      (injection.changed ↔ injection.content ≠ source) := by
  intro starts guarded blocks injection
  obtain ⟨hpass, hinserted⟩ := onePass?_locate source
  have hblocks : (placements source).map blockAt = blocks := by
    rw [placements_eq, List.map_map]
    refine List.map_congr_left fun start hstart => ?_
    have hne : guardsAt source start ≠ [] := by simpa using (List.mem_filter.mp hstart).2
    rw [Function.comp_apply, blockAt, block_eq_join hne]
  rw [hblocks] at hinserted
  refine ⟨Declaration.bodyStart_pairwise source, ?_, hpass, hinserted, hinserted.withdraw?_eq, ?_,
    sum_length_placements source, changed_iff source⟩
  · intro start hstart
    obtain ⟨d, hd, rfl⟩ := List.mem_map.mp hstart
    obtain ⟨before, after, hsplit⟩ := Declaration.splitAtByte?_bodyStart hd
    exact ⟨_, guardsAt_of_split hsplit⟩
  · change (placements source).length = guarded.length
    rw [placements_eq, List.length_map]

end SkipChecks.Injection
