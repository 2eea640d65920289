import SkipChecks.Proofs.Injection.Weave

/-!
# Rounds of injection

Injection does not look for guards that are there already, so every round puts in the same ones
again. With bodies apart from each other and route names that neither open nor close anything, that
is all a round does: a source woven with so many blocks becomes the source woven with one more.
-/

namespace SkipChecks.Injection

open Text Declaration Dependencies

/-! ## Taking a source apart -/

/-- The guards for a body are inert when its route names are. -/
theorem isInert_of_mem_guards {body : Text}
    (hnames : ∀ name ∈ (scan body).routes, '(' ∉ name ∧ '{' ∉ name ∧ '}' ∉ name) :
    ∀ guard ∈ (scan body).guards, guard.IsInert := by
  intro guard hguard
  rcases mem_guards hguard with rfl | ⟨name, hname, rfl⟩ | ⟨method, hmethod, rfl⟩
  · trivial
  · exact hnames name hname
  · obtain ⟨name, hname, rfl⟩ := mem_methods hmethod
    exact ⟨rfl, hname⟩

/-- Of two texts that begin another one, the one with fewer bytes has fewer characters. -/
theorem length_le_of_prefix {first second s : Text} (hfirst : first <+: s) (hsecond : second <+: s)
    (h : byteLength first ≤ byteLength second) : first.length ≤ second.length := by
  obtain ⟨after, rfl⟩ := hfirst
  obtain ⟨rest, hrest⟩ := hsecond
  obtain ⟨middle, rfl, -⟩ := exists_middle hrest.symm h
  rw [List.length_append]
  exact Nat.le_add_right _ _

/-- Pieces are settled where the bodies behind them stay apart. -/
theorem exists_settled {tail : Text} (heads : List Head)
    (hnames : ∀ find ∈ findAll name? (heads.flatMap Head.text ++ tail),
      ∀ name ∈ (scan (upToClose 0 find.2)).routes, '(' ∉ name ∧ '{' ∉ name ∧ '}' ∉ name)
    (hapart : (findAll name? (heads.flatMap Head.text ++ tail)).Pairwise fun find later =>
      byteLength (upToClose 0 find.2) + byteLength later.2 ≤ byteLength find.2) :
    ∃ tests : List Opened, tests.map (·.head) = heads ∧
      weave (repeated 0) tail tests = heads.flatMap Head.text ++ tail ∧ Settled tail tests := by
  induction heads with
  | nil => exact ⟨[], rfl, rfl, .nil⟩
  | cons head heads ih =>
      rw [List.flatMap_cons, List.append_assoc, Head.findAll_text_append] at hnames hapart
      obtain ⟨hfirst, hapart⟩ := List.pairwise_cons.mp hapart
      obtain ⟨tests, hheads, hweave, hsettled⟩ :=
        ih (fun find hfind => hnames find (List.mem_cons_of_mem _ hfind)) hapart
      refine ⟨⟨head, (scan (upToClose 0 (weave (repeated 0) tail tests))).guards⟩ :: tests,
        by rw [List.map_cons, hheads], ?_, .cons rfl ?_ ?_ hsettled⟩
      · rw [weave, repeated_zero, hweave, List.nil_append, List.flatMap_cons, List.append_assoc]
      · rw [hweave]
        exact isInert_of_mem_guards (hnames _ List.mem_cons_self)
      · intro next hnext
        -- the body ends where the next one opens, or before
        obtain ⟨later, rfl⟩ := List.head?_eq_some_iff.mp hnext
        obtain rfl := hheads
        rw [hweave]
        rw [List.map_cons, List.flatMap_cons, List.append_assoc] at hfirst ⊢
        rw [Head.findAll_text_append] at hfirst
        have hbytes := hfirst _ List.mem_cons_self
        simp only [byteLength_append] at hbytes
        exact length_le_of_prefix (upToClose_isPrefix 0 _) (List.prefix_append _ _) (by omega)

/-- Where no route name of a body has an opening parenthesis or a brace, and no body opens inside
another one, the source is a weave of settled pieces. -/
theorem exists_weave {source : Text}
    (hnames : ∀ d ∈ locate source, ∀ body ∈ bodyAt? source d.bodyStart,
      ∀ name ∈ (scan body).routes, '(' ∉ name ∧ '{' ∉ name ∧ '}' ∉ name)
    (hapart : ∀ d ∈ locate source, ∀ body ∈ bodyAt? source d.bodyStart,
      ∀ e ∈ locate source,
        ¬ (d.bodyStart < e.bodyStart ∧ e.bodyStart < d.bodyStart + byteLength body)) :
    ∃ tail tests, weave (repeated 0) tail tests = source ∧ findAll name? tail = [] ∧
      Settled tail tests := by
  -- every find is a declaration, at an offset that splits the source
  have hlocate : ∀ find ∈ findAll name? source,
      ⟨find.1, byteLength source - byteLength find.2⟩ ∈ locate source ∧
        bodyAt? source (byteLength source - byteLength find.2) = some (upToClose 0 find.2) := by
    intro find hfind
    obtain ⟨before, hsplit⟩ := splitAtByte?_of_behind (findAll_behind consumes_name? source _ hfind)
    exact ⟨List.mem_map_of_mem hfind, (guardsAt_of_split hsplit).1⟩
  have hroutes : ∀ find ∈ findAll name? source,
      ∀ name ∈ (scan (upToClose 0 find.2)).routes, '(' ∉ name ∧ '{' ∉ name ∧ '}' ∉ name :=
    fun find hfind => hnames _ (hlocate find hfind).1 _ (hlocate find hfind).2
  have hpairwise : (findAll name? source).Pairwise fun find later =>
      byteLength (upToClose 0 find.2) + byteLength later.2 ≤ byteLength find.2 := by
    refine (findAll_pairwise consumes_name? source).imp_of_mem ?_
    intro find later hfirst hsecond hbehind
    have hshorter := hbehind.byteLength_lt
    have hwhole := (findAll_behind consumes_name? source find hfirst).byteLength_lt
    have houtside := hapart _ (hlocate find hfirst).1 _ (hlocate find hfirst).2 _
      (hlocate later hsecond).1
    simp only at houtside
    omega
  obtain ⟨heads, tail, rfl, htail⟩ := exists_heads source
  obtain ⟨tests, -, hweave, hsettled⟩ := exists_settled heads hroutes hpairwise
  exact ⟨tail, tests, hweave, htail, hsettled⟩

/-! ## Rounds -/

/-- The content after so many rounds. -/
def contentAfter (n : Nat) (source : Text) : Text :=
  ((rounds n source).map (·.content)).getLastD source

/-- Neither names nor guards depend on what is put in. -/
theorem map_openedIn {α : Type} (f : Text → List Guard → α) (put : List Guard → Text)
    (copied : Nat) (tests : List Opened) :
    (openedIn put copied tests).map (fun o => f o.1.name o.2) =
      tests.map fun test => f test.head.form.name test.guards := by
  induction tests generalizing copied with
  | nil => rfl
  | cons test later ih => rw [openedIn, List.map_cons, List.map_cons, ih]

section Weaves

variable {tail : Text} {tests : List Opened} (hsettled : Settled tail tests)
  (htail : findAll name? tail = [])

include hsettled htail

/-- One round puts one more block in front of each body. -/
theorem ofSource_weave (n : Nat) :
    (ofSource (weave (repeated n) tail tests)).content = weave (repeated (n + 1)) tail tests := by
  have hinserted := weave_inserted (repeated n) block (repeated (n + 1))
    (by rw [repeated_nil, repeated_nil]) (fun guards h => repeated_succ n h) tail 0 tests
  have hfoldr := hinserted.foldr_insertAt [] rfl
  rw [List.foldr_map] at hfoldr
  change insertAll (placements (weave (repeated n) tail tests)) (weave (repeated n) tail tests) = _
  rw [insertAll, placements_eq_opened, opened_weave hsettled htail, List.foldr_map]
  exact hfoldr

/-- So many rounds go from one weave to the next. -/
theorem rounds_weave (n k : Nat) :
    rounds n (weave (repeated k) tail tests) =
      (List.range n).map fun i => ofSource (weave (repeated (k + i)) tail tests) := by
  induction n generalizing k with
  | zero => rfl
  | succ n ih =>
      rw [rounds, ofSource_weave hsettled htail, ih, List.range_succ_eq_map, List.map_cons,
        List.map_map]
      simp only [Function.comp_def, Nat.add_zero, Nat.succ_eq_add_one, Nat.add_assoc,
        Nat.add_comm 1]

theorem contentAfter_weave (n : Nat) :
    contentAfter n (weave (repeated 0) tail tests) = weave (repeated n) tail tests := by
  rw [contentAfter, rounds_weave hsettled htail, List.map_map]
  cases n with
  | zero => rfl
  | succ n =>
      rw [List.range_succ, List.map_append, List.map_singleton, List.getLastD_concat,
        Function.comp_apply, ofSource_weave hsettled htail, Nat.zero_add]

theorem map_name_locate_weave (n : Nat) :
    (locate (weave (repeated n) tail tests)).map (·.name) =
      tests.map (·.head.form.name) := by
  have hopened := congrArg (List.map (·.1.name)) (opened_weave hsettled htail n)
  rw [opened, List.map_map, map_openedIn (fun name _ => name)] at hopened
  exact hopened

theorem map_guards_placements_weave (n : Nat) :
    (placements (weave (repeated n) tail tests)).map (·.2) =
      (tests.map (·.guards)).filter fun guards => guards ≠ [] := by
  rw [placements_eq_opened, opened_weave hsettled htail, List.map_map,
    ← map_openedIn (fun _ guards => guards) (repeated n) 0, List.filter_map]
  rfl

end Weaves

/-- The counts tell how many guards each test got. -/
theorem counts_eq_of_map_guards {first second : Text}
    (h : (placements first).map (·.2) = (placements second).map (·.2)) :
    (ofSource first).guardedTests = (ofSource second).guardedTests ∧
      (ofSource first).guards = (ofSource second).guards := by
  have hlengths := congrArg (List.map List.length) h
  have hcount := congrArg List.length h
  rw [List.map_map, List.map_map] at hlengths
  rw [List.length_map, List.length_map] at hcount
  exact ⟨hcount, congrArg (List.foldr (· + ·) 0) hlengths⟩

/-- Every further round inserts the same guards again. Where no route name of a body has
parentheses that open or braces, and no body opens inside another one, the content after so many
rounds is the source with the block of each guarded test put in so many times, and nothing else.
The same tests are located in it, and all rounds count the same. -/
theorem rounds_repeat_guards (source : Text)
    (hnames : ∀ d ∈ locate source, ∀ body ∈ bodyAt? source d.bodyStart,
      ∀ name ∈ (scan body).routes, '(' ∉ name ∧ '{' ∉ name ∧ '}' ∉ name)
    (hapart : ∀ d ∈ locate source, ∀ body ∈ bodyAt? source d.bodyStart,
      ∀ e ∈ locate source,
        ¬ (d.bodyStart < e.bodyStart ∧ e.bodyStart < d.bodyStart + byteLength body))
    (n : Nat) :
    let starts := (locate source).map (·.bodyStart)
    let guarded := starts.filter fun start => guardsAt source start ≠ []
    let blocks := guarded.map fun start =>
      (start, (List.replicate n (block (guardsAt source start))).flatten)
    Inserted 0 blocks source (contentAfter n source) ∧
      (locate (contentAfter n source)).map (·.name) = (locate source).map (·.name) ∧
      ∀ injection ∈ rounds n source,
        injection.guardedTests = (ofSource source).guardedTests ∧
          injection.guards = (ofSource source).guards := by
  intro starts guarded blocks
  have hblocks : blocks = (placements source).map fun placement =>
      (placement.1, (List.replicate n (block placement.2)).flatten) := by
    rw [placements_eq, List.map_map]
    rfl
  obtain ⟨tail, tests, hweave, htail, hsettled⟩ := exists_weave hnames hapart
  rw [hblocks, ← hweave, contentAfter_weave hsettled htail]
  refine ⟨?_, ?_, fun injection hround => ?_⟩
  · rw [placements_eq_opened, opened_weave hsettled htail, List.map_map]
    exact weave_inserted (repeated 0) (fun guards => (List.replicate n (block guards)).flatten)
      (repeated n) (by rw [repeated_nil, repeated_nil])
      (fun guards h => by rw [repeated_zero, repeated, if_neg h, List.append_nil]) tail 0 tests
  · rw [map_name_locate_weave hsettled htail, map_name_locate_weave hsettled htail]
  · rw [rounds_weave hsettled htail] at hround
    obtain ⟨i, -, rfl⟩ := List.mem_map.mp hround
    refine counts_eq_of_map_guards ?_
    rw [map_guards_placements_weave hsettled htail, map_guards_placements_weave hsettled htail]

/-- Two tests, one of them without guards, after two rounds. -/
theorem rounds_repeat_guards_two_tests :
    let source := "test('a', function () \x7b route('x'); \x7d); test('b', function () \x7b \x7d);".toList
    (∀ d ∈ locate source, ∀ body ∈ bodyAt? source d.bodyStart,
      ∀ name ∈ (scan body).routes, '(' ∉ name ∧ '{' ∉ name ∧ '}' ∉ name) ∧
    (∀ d ∈ locate source, ∀ body ∈ bodyAt? source d.bodyStart, ∀ e ∈ locate source,
      ¬ (d.bodyStart < e.bodyStart ∧ e.bodyStart < d.bodyStart + byteLength body)) ∧
    contentAfter 2 source = ("test('a', function () \x7b\n    skipIfRouteMissing('x');\n" ++
      "\n    skipIfRouteMissing('x');\n route('x'); \x7d); test('b', function () \x7b \x7d);").toList ∧
    (locate (contentAfter 2 source)).map (·.name) = [['a'], ['b']] ∧
    ∀ injection ∈ rounds 2 source, injection.guardedTests = 1 ∧ injection.guards = 1 := by
  intro source
  have hnames : ∀ d ∈ locate source, ∀ body ∈ bodyAt? source d.bodyStart,
      ∀ name ∈ (scan body).routes, '(' ∉ name ∧ '{' ∉ name ∧ '}' ∉ name := by
    decide +kernel
  have hapart : ∀ d ∈ locate source, ∀ body ∈ bodyAt? source d.bodyStart, ∀ e ∈ locate source,
      ¬ (d.bodyStart < e.bodyStart ∧ e.bodyStart < d.bodyStart + byteLength body) := by
    decide +kernel
  obtain ⟨hinserted, hlocate, hcounts⟩ := rounds_repeat_guards source hnames hapart 2
  refine ⟨hnames, hapart, ?_, ?_, fun injection hround => ?_⟩
  · have hcontent := hinserted.foldr_insertAt [] rfl
    rw [List.nil_append, List.nil_append] at hcontent
    rw [← hcontent]
    decide +kernel
  · exact hlocate.trans (by decide +kernel)
  · obtain ⟨htests, hguards⟩ := hcounts injection hround
    exact ⟨htests.trans (by decide +kernel), hguards.trans (by decide +kernel)⟩

end SkipChecks.Injection
