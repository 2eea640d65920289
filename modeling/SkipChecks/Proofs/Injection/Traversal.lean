import Mathlib.Algebra.GroupWithZero.Nat
import SkipChecks.Injection.Pass
import SkipChecks.Proofs.Injection.Eligibility
import SkipChecks.Proofs.Tree.DepthFirst
import SkipChecks.Proofs.Tree.Hindrance

/-!
# A pass through a tree

A pass comes to the entries below a directory in depth-first order. It stops at the first one that
is an obstacle: a directory that cannot be opened, or an eligible file that cannot be read or, where
injection changes it, cannot be replaced. Until then it rewrites the sources that get guards,
announces each of them, and leaves everything else as it is.
-/

namespace SkipChecks.Injection

open Tree

/-- A source text that a pass reads. -/
structure Source where
  location : Location
  path : Path
  text : Text
  deriving DecidableEq

/-- What is put in place of a source. -/
def Source.rewrite (s : Source) : Entry := .file (Bytes.ofText (ofSource s.text).content)

/-- Whether injection changes a source. -/
def Source.IsChanged (s : Source) : Prop := (ofSource s.text).content ≠ s.text

instance : DecidablePred Source.IsChanged := fun s =>
  inferInstanceAs (Decidable ((ofSource s.text).content ≠ s.text))

variable (selection : Selection) (disk : Disk) (t : Tree) (root : Path) (l : Location)

/-- The source that an entry is, when it is an eligible file that holds a text. -/
def source? : Below → Option Source
  | (names, .file content) =>
    if selection.isEligible (root.under names) then
      content.text?.map fun text => ⟨l ++ names, root.under names, text⟩
    else none
  | (_, .directory) => none

/-- What stops a pass at an entry: a directory that cannot be opened, or an eligible file that
cannot be read or that injection changes and that cannot be replaced. -/
def obstacle? : Below → Option Failure
  | (names, .file content) =>
    let p := root.under names
    if selection.isEligible p then
      if Path.longest < Text.byteLength p.text then some (.file .read p .nameTooLong)
      else match content.text? with
      | none => some (.file .read p .notText)
      | some text => if (ofSource text).content = text then none else hindrance? disk t p
    else none
  | (names, .directory) =>
    let p := root.under names
    if Path.longest < Text.byteLength p.text then some (.walk root p .nameTooLong) else none

/-- The sources in front of the first obstacle. -/
def reached (entries : List Below) : List Source :=
  (entries.takeWhile fun entry => (obstacle? selection disk t root entry).isNone).filterMap
    (source? selection root l)

/-- What a walk tells of an entry, as far as a pass looks at it. -/
def target? : Below → Option (Except Path Path)
  | (names, .file _) =>
    if selection.isEligible (root.under names) then some (.ok (root.under names)) else none
  | (names, .directory) =>
    if Path.longest < Text.byteLength (root.under names).text then
      some (.error (root.under names))
    else none

variable {selection disk t root l} {entry : Below} {entries : List Below}

theorem target?_of_eligible {names : List Text} {content : Bytes}
    (h : selection.isEligible (root.under names)) :
    target? selection root (names, .file content) = some (.ok (root.under names)) := if_pos h

theorem targets_eq (hroot : t.resolve root = .ok l) :
    targets selection t root = (t.below l).filterMap (target? selection root) := by
  rw [targets, walk, hroot]
  dsimp only
  rw [List.filter_filterMap]
  congr 1
  funext ⟨names, entry⟩
  cases entry with
  | file content => rfl
  | directory =>
      change Option.filter _ (if Path.longest < Text.byteLength (root.under names).text then
        some (Except.error (root.under names)) else none) = _
      rw [target?]
      by_cases hlong : Path.longest < Text.byteLength (root.under names).text
      · rw [if_pos hlong, Option.filter_some, if_pos rfl]
      · rw [if_neg hlong, Option.filter_none]

theorem visit_wellFormed (hwell : t.WellFormed) (ps : List (Except Path Path)) (report : Report)
    (announced : List Path) : (visit disk root ps t report announced).tree.WellFormed := by
  induction ps generalizing t report announced with
  | nil => exact hwell
  | cons target ps ih =>
      cases target with
      | error p => exact hwell
      | ok p =>
          rw [visit]
          split
          next => exact hwell
          next =>
            dsimp only
            split
            next => exact ih hwell _ _
            next source _ _ =>
              have hreplaced := hwell.replaceFile disk p (Bytes.ofText (ofSource source).content)
              split
              next hfailed => rwa [hfailed] at hreplaced
              next hdone =>
                rw [hdone] at hreplaced
                exact ih hreplaced _ _

/-! ## Sources -/

/-- A source is an eligible file that holds its text. -/
theorem of_source?_eq_some {s : Source} (h : source? selection root l entry = some s) :
    (∃ content, entry.2 = .file content ∧ content.text? = some s.text) ∧
      selection.isEligible s.path ∧ s.location = l ++ entry.1 ∧ s.path = root.under entry.1 := by
  obtain ⟨names, e⟩ := entry
  cases e with
  | directory => cases h
  | file content =>
      rw [source?] at h
      split at h
      next heligible =>
        obtain ⟨text, htext, rfl⟩ := Option.map_eq_some_iff.mp h
        exact ⟨⟨content, rfl, htext⟩, heligible, rfl, rfl⟩
      next => cases h

/-- The path of a source that is no obstacle is not too long. -/
theorem byteLength_le_of_source? {s : Source} (hobstacle : obstacle? selection disk t root entry = none)
    (hsource : source? selection root l entry = some s) :
    Text.byteLength s.path.text ≤ Path.longest := by
  obtain ⟨⟨content, hcontent, -⟩, heligible, -, hpath⟩ := of_source?_eq_some hsource
  obtain ⟨names, e⟩ := entry
  obtain rfl : e = .file content := hcontent
  rw [hpath] at heligible ⊢
  rw [obstacle?, if_pos heligible] at hobstacle
  split at hobstacle
  next => cases hobstacle
  next hshort => exact Nat.not_lt.mp hshort

/-! ## What lies ahead -/

/-- The entries to come are as they were when the walk began. -/
structure Ahead (t : Tree) (root : Path) (l : Location) (entries : List Below) : Prop where
  wellFormed : t.WellFormed
  resolves : t.resolve root = .ok l
  nodup : (entries.map (·.1)).Nodup
  found : ∀ entry ∈ entries, entry.1 ≠ [] ∧ t.find? (l ++ entry.1) = some entry.2

namespace Ahead

theorem of_below (hwell : t.WellFormed) (hroot : t.resolve root = .ok l) :
    Ahead t root l (t.below l) := by
  refine ⟨hwell, hroot, ?_, fun entry hentry => hwell.mem_below_iff.mp hentry⟩
  rw [List.nodup_iff_pairwise_ne, List.pairwise_map]
  exact (hwell.below_pairwise l).imp fun hlt => ne_of_lt hlt

theorem tail (h : Ahead t root l (entry :: entries)) : Ahead t root l entries :=
  ⟨h.wellFormed, h.resolves, (List.nodup_cons.mp h.nodup).2,
    fun other hother => h.found other (List.mem_cons_of_mem entry hother)⟩

/-- A file that is put over the first one changes nothing ahead. -/
theorem put {names : List Text} {old : Bytes}
    (h : Ahead t root l ((names, .file old) :: entries)) (content : Bytes) :
    Ahead (t.put (l ++ names) (.file content)) root l entries := by
  obtain ⟨hne, hfind⟩ := h.found _ List.mem_cons_self
  obtain ⟨hnew, -⟩ := List.nodup_cons.mp h.nodup
  have hfile : t.find? (l ++ names) ≠ some .directory := by
    rw [hfind]
    simp
  refine ⟨?_, resolve_put hfile h.resolves, h.tail.nodup, fun other hother => ?_⟩
  · obtain ⟨front, n, rfl⟩ := (List.eq_nil_or_concat names).resolve_left hne
    rw [List.concat_eq_append, ← List.append_assoc] at hfind hfile ⊢
    obtain ⟨hparent, hn⟩ := h.wellFormed.of_find?_concat hfind
    exact h.wellFormed.put hparent hn fun hdirectory => absurd hdirectory hfile
  · obtain ⟨hother_ne, hother_find⟩ := h.found other (List.mem_cons_of_mem _ hother)
    have hdifferent : l ++ other.1 ≠ l ++ names := by
      intro heq
      have hmem : other.1 ∈ entries.map (·.1) := List.mem_map_of_mem hother
      rw [List.append_cancel_left heq] at hmem
      exact hnew hmem
    exact ⟨hother_ne, by rw [find?_put (ne_nil_of_find? hfile), if_neg hdifferent, hother_find]⟩

end Ahead

/-! ## Runs -/

/-- What a pass has done when it ends: it has read these sources, in this order, and was stopped in
this way. -/
structure Outcome (done : Pass) (t : Tree) (report : Report) (announced : List Path)
    (sources : List Source) (stop : Option Failure) : Prop where
  home_eq : done.tree.home = t.home
  stop_eq : done.stop = stop
  report_eq : stop = none → done.report =
    ⟨report.filesScanned + sources.length,
      report.updated ++ (sources.filter Source.IsChanged).map (·.path),
      report.guards + ((sources.filter Source.IsChanged).map fun s => (ofSource s.text).guards).sum⟩
  announced_eq : done.announced = announced ++ (sources.filter Source.IsChanged).map (·.path)
  rewritten : ∀ s ∈ sources.filter Source.IsChanged, done.tree.find? s.location = some s.rewrite
  others : ∀ m, (∀ s ∈ sources.filter Source.IsChanged, s.location ≠ m) →
    done.tree.find? m = t.find? m

variable {done : Pass} {report : Report} {announced : List Path} {sources : List Source}
  {stop : Option Failure}

namespace Outcome

theorem ended (t : Tree) (report : Report) (announced : List Path) :
    Outcome ⟨t, report, announced, none⟩ t report announced [] none :=
  ⟨rfl, rfl, fun _ => by simp, by simp, by simp, fun _ _ => rfl⟩

theorem stopped (t : Tree) (before report : Report) (announced : List Path) (failure : Failure) :
    Outcome ⟨t, report, announced, some failure⟩ t before announced [] (some failure) :=
  ⟨rfl, rfl, nofun, by simp, by simp, fun _ _ => rfl⟩

/-- A source that stays as it is only counts as scanned. -/
theorem skip {s : Source} (hsame : ¬ s.IsChanged)
    (h : Outcome done t { report with filesScanned := report.filesScanned + 1 } announced sources
      stop) :
    Outcome done t report announced (s :: sources) stop := by
  have hsources : (s :: sources).filter Source.IsChanged = sources.filter Source.IsChanged := by
    simp [hsame]
  refine ⟨h.home_eq, h.stop_eq, fun hstop => ?_, ?_, ?_, ?_⟩
  · rw [h.report_eq hstop, hsources, List.length_cons, Nat.add_assoc, Nat.add_comm 1]
  · rw [h.announced_eq, hsources]
  · rw [hsources]
    exact h.rewritten
  · rw [hsources]
    exact h.others

/-- A source that is rewritten is announced, and stays rewritten since no later one is in its
place. -/
theorem rewrite {s : Source} (hchanged : s.IsChanged) (hlocation : s.location ≠ [])
    (hlater : ∀ other ∈ sources, other.location ≠ s.location)
    (h : Outcome done (t.put s.location s.rewrite)
      ⟨report.filesScanned + 1, report.updated ++ [s.path],
        report.guards + (ofSource s.text).guards⟩
      (announced ++ [s.path]) sources stop) :
    Outcome done t report announced (s :: sources) stop := by
  have hsources : (s :: sources).filter Source.IsChanged =
      s :: sources.filter Source.IsChanged := by
    simp [hchanged]
  have hothers : ∀ other ∈ sources.filter Source.IsChanged, other.location ≠ s.location :=
    fun other hother => hlater other (List.mem_of_mem_filter hother)
  refine ⟨h.home_eq, h.stop_eq, fun hstop => ?_, ?_, ?_, ?_⟩
  · rw [h.report_eq hstop, hsources]
    simp only [List.length_cons, List.map_cons, List.sum_cons, List.append_assoc,
      List.singleton_append, Nat.add_assoc, Nat.add_comm 1]
  · rw [h.announced_eq, hsources, List.map_cons, List.append_assoc, List.singleton_append]
  · intro other hother
    rw [hsources] at hother
    rcases List.mem_cons.mp hother with rfl | hother
    · rw [h.others _ hothers, find?_put hlocation, if_pos rfl]
    · exact h.rewritten other hother
  · intro m hm
    rw [hsources] at hm
    have hne := hm s List.mem_cons_self
    rw [h.others m fun other hother => hm other (List.mem_cons_of_mem s hother),
      find?_put hlocation, if_neg (Ne.symm hne)]

end Outcome

theorem exists_entry_of_mem_reached {s : Source} (h : s ∈ reached selection disk t root l entries) :
    ∃ entry ∈ entries, source? selection root l entry = some s := by
  obtain ⟨entry, hentry, hsource⟩ := List.mem_filterMap.mp h
  exact ⟨entry, (List.takeWhile_sublist _).subset hentry, hsource⟩

theorem reached_of_obstacle {failure : Failure}
    (h : obstacle? selection disk t root entry = some failure) :
    reached selection disk t root l (entry :: entries) = [] := by
  simp [reached, h]

theorem reached_cons (h : obstacle? selection disk t root entry = none) :
    reached selection disk t root l (entry :: entries) =
      (source? selection root l entry).toList ++ reached selection disk t root l entries := by
  rw [reached, List.takeWhile_cons_of_pos (by simp [h]), List.filterMap_cons, reached]
  cases source? selection root l entry <;> rfl

/-- What stops a pass does not depend on what has been put in place of files before. -/
theorem obstacle?_put {m : Location} {old : Bytes} (hold : t.find? m = some (.file old))
    (content : Bytes) :
    obstacle? selection disk (t.put m (.file content)) root = obstacle? selection disk t root := by
  funext entry
  obtain ⟨names, e⟩ := entry
  cases e with
  | directory => rfl
  | file content' =>
      rw [obstacle?, obstacle?]
      simp only [hindrance?_put_file hold content]

/-! ## Steps -/

/-- A text is rewritten when injection changes it, unless something is against it. -/
theorem visit_text {names : List Text} {content : Bytes} {text : Text}
    (h : Ahead t root l ((names, .file content) :: entries))
    (heligible : selection.isEligible (root.under names))
    (hshort : ¬ Path.longest < Text.byteLength (root.under names).text)
    (htext : content.text? = some text) (report : Report) (announced : List Path) :
    visit disk root (((names, .file content) :: entries).filterMap (target? selection root)) t
        report announced =
      if (ofSource text).content = text then
        visit disk root (entries.filterMap (target? selection root)) t
          { report with filesScanned := report.filesScanned + 1 } announced
      else match hindrance? disk t (root.under names) with
      | some failure =>
        ⟨t, { report with filesScanned := report.filesScanned + 1 }, announced, some failure⟩
      | none =>
        visit disk root (entries.filterMap (target? selection root))
          (t.put (l ++ names) (.file (Bytes.ofText (ofSource text).content)))
          ⟨report.filesScanned + 1, report.updated ++ [root.under names],
            report.guards + (ofSource text).guards⟩
          (announced ++ [root.under names]) := by
  obtain ⟨-, hfind⟩ := h.found _ List.mem_cons_self
  have hread := readText_under h.wellFormed h.resolves hfind
  rw [if_neg hshort, htext] at hread
  have hresolve := resolve_under h.wellFormed h.resolves hfind (Nat.not_lt.mp hshort)
  rw [List.filterMap_cons_some (target?_of_eligible heligible), visit, hread]
  dsimp only [Option.elim]
  rw [replaceFile_of_resolve h.wellFormed hresolve hfind]
  cases hindrance? disk t (root.under names) <;> rfl

/-- An obstacle stops a pass. -/
theorem visit_obstacle {failure : Failure} (h : Ahead t root l (entry :: entries))
    (hobstacle : obstacle? selection disk t root entry = some failure) (report : Report)
    (announced : List Path) :
    ∃ counted, visit disk root ((entry :: entries).filterMap (target? selection root)) t report
      announced = ⟨t, counted, announced, some failure⟩ := by
  obtain ⟨-, hfind⟩ := h.found _ List.mem_cons_self
  obtain ⟨names, e⟩ := entry
  cases e with
  | directory =>
      rw [obstacle?] at hobstacle
      split at hobstacle
      next hlong =>
        cases hobstacle
        have htarget : target? selection root (names, .directory) =
            some (.error (root.under names)) := if_pos hlong
        rw [List.filterMap_cons_some htarget, visit]
        exact ⟨report, rfl⟩
      next => cases hobstacle
  | file content =>
      have hread := readText_under h.wellFormed h.resolves hfind
      rw [obstacle?] at hobstacle
      split at hobstacle
      next heligible =>
        split at hobstacle
        next hlong =>
          cases hobstacle
          rw [if_pos hlong] at hread
          rw [List.filterMap_cons_some (target?_of_eligible heligible), visit, hread]
          exact ⟨_, rfl⟩
        next hshort =>
          split at hobstacle
          next hnone =>
            cases hobstacle
            rw [if_neg hshort, hnone] at hread
            rw [List.filterMap_cons_some (target?_of_eligible heligible), visit, hread]
            exact ⟨_, rfl⟩
          next text htext =>
            rw [visit_text h heligible hshort htext]
            split at hobstacle
            next => cases hobstacle
            next hchanged =>
              rw [if_neg hchanged, hobstacle]
              exact ⟨_, rfl⟩
      next => cases hobstacle

/-- An entry that is neither an obstacle nor a source is passed over. -/
theorem filterMap_target?_cons (hobstacle : obstacle? selection disk t root entry = none)
    (hsource : source? selection root l entry = none) :
    (entry :: entries).filterMap (target? selection root) =
      entries.filterMap (target? selection root) := by
  refine List.filterMap_cons_none ?_
  obtain ⟨names, e⟩ := entry
  cases e with
  | directory =>
      rw [obstacle?] at hobstacle
      split at hobstacle
      next => cases hobstacle
      next hshort => exact if_neg hshort
  | file content =>
      by_cases heligible : selection.isEligible (root.under names)
      · rw [source?, if_pos heligible, Option.map_eq_none_iff] at hsource
        rw [obstacle?, if_pos heligible, hsource] at hobstacle
        dsimp only at hobstacle
        split at hobstacle <;> cases hobstacle
      · exact if_neg heligible

/-- A source is rewritten when injection changes it. -/
theorem visit_source {s : Source} (h : Ahead t root l (entry :: entries))
    (hobstacle : obstacle? selection disk t root entry = none)
    (hsource : source? selection root l entry = some s) (report : Report)
    (announced : List Path) :
    visit disk root ((entry :: entries).filterMap (target? selection root)) t report announced =
      if s.IsChanged then
        visit disk root (entries.filterMap (target? selection root)) (t.put s.location s.rewrite)
          ⟨report.filesScanned + 1, report.updated ++ [s.path],
            report.guards + (ofSource s.text).guards⟩
          (announced ++ [s.path])
      else
        visit disk root (entries.filterMap (target? selection root)) t
          { report with filesScanned := report.filesScanned + 1 } announced := by
  have hshort := byteLength_le_of_source? hobstacle hsource
  obtain ⟨⟨content, hcontent, htext⟩, heligible, hlocation, hpath⟩ := of_source?_eq_some hsource
  obtain ⟨names, e⟩ := entry
  obtain rfl : e = .file content := hcontent
  rw [hpath] at hshort heligible
  rw [visit_text h heligible (Nat.not_lt.mpr hshort) htext, hlocation, hpath]
  by_cases hchanged : s.IsChanged
  · rw [obstacle?, if_pos heligible, if_neg (Nat.not_lt.mpr hshort), htext] at hobstacle
    dsimp only at hobstacle
    rw [if_neg hchanged] at hobstacle
    rw [if_pos hchanged, if_neg hchanged, hobstacle]
    rfl
  · rw [if_neg hchanged, if_pos (not_not.mp hchanged)]

/-- No later source is in the place of an earlier one. -/
theorem Ahead.location_ne {s : Source} (h : Ahead t root l (entry :: entries))
    (hsource : source? selection root l entry = some s) :
    ∀ other ∈ reached selection disk t root l entries, other.location ≠ s.location := by
  intro other hother heq
  obtain ⟨later, hlater, hlaterSource⟩ := exists_entry_of_mem_reached hother
  obtain ⟨-, -, hlocation, -⟩ := of_source?_eq_some hsource
  obtain ⟨-, -, hlaterLocation, -⟩ := of_source?_eq_some hlaterSource
  have hmem : later.1 ∈ entries.map (·.1) := List.mem_map_of_mem hlater
  rw [hlocation, hlaterLocation] at heq
  rw [List.append_cancel_left heq] at hmem
  exact (List.nodup_cons.mp h.nodup).1 hmem

/-- What lies ahead of a source that is rewritten is as before, and so is what stops a pass. -/
theorem Ahead.rewrite {s : Source} (h : Ahead t root l (entry :: entries))
    (hsource : source? selection root l entry = some s) (disk : Disk) :
    s.location ≠ [] ∧ Ahead (t.put s.location s.rewrite) root l entries ∧
      obstacle? selection disk (t.put s.location s.rewrite) root =
        obstacle? selection disk t root := by
  obtain ⟨⟨content, hcontent, -⟩, -, hlocation, -⟩ := of_source?_eq_some hsource
  obtain ⟨hne, hfind⟩ := h.found _ List.mem_cons_self
  obtain ⟨names, e⟩ := entry
  obtain rfl : e = .file content := hcontent
  rw [hlocation]
  exact ⟨by simp [hne], h.put _, obstacle?_put hfind _⟩

/-- From any entry on, a pass reads the sources in front of the first obstacle. -/
theorem visit_outcome (h : Ahead t root l entries) (report : Report) (announced : List Path) :
    Outcome (visit disk root (entries.filterMap (target? selection root)) t report announced) t report
      announced (reached selection disk t root l entries)
      (entries.findSome? (obstacle? selection disk t root)) := by
  induction entries generalizing t report announced with
  | nil => exact .ended t report announced
  | cons entry later ih =>
      rw [List.findSome?_cons]
      cases hobstacle : obstacle? selection disk t root entry with
      | some failure =>
          obtain ⟨counted, hvisit⟩ := visit_obstacle h hobstacle report announced
          rw [hvisit, reached_of_obstacle hobstacle]
          exact .stopped t report counted announced failure
      | none =>
          rw [reached_cons hobstacle]
          cases hsource : source? selection root l entry with
          | none =>
              rw [filterMap_target?_cons hobstacle hsource]
              exact ih h.tail report announced
          | some s =>
              rw [visit_source h hobstacle hsource]
              -- the rest of the pass goes on in another tree, in which the same is ahead
              obtain ⟨hlocation, hahead, hsame⟩ := h.rewrite hsource disk
              split
              next hchanged =>
                refine .rewrite hchanged hlocation (h.location_ne hsource) ?_
                have hlater := ih hahead
                simp only [reached, hsame] at hlater
                exact hlater _ _
              next hsame => exact .skip hsame (ih h.tail _ _)

/-- The sources that are read have different paths, since each path leads to its own place. -/
theorem Ahead.paths_nodup (h : Ahead t root l entries) :
    ((reached selection disk t root l entries).map (·.path)).Nodup := by
  have hdistinct : entries.Pairwise (·.1 ≠ ·.1) := List.pairwise_map.mp h.nodup
  rw [List.nodup_iff_pairwise_ne, List.pairwise_map, reached, List.pairwise_filterMap]
  refine (hdistinct.sublist (List.takeWhile_sublist _)).imp_of_mem ?_
  -- two sources with one path would lie in one place
  have hresolve : ∀ entry ∈ entries.takeWhile (obstacle? selection disk t root · |>.isNone),
      ∀ s, source? selection root l entry = some s →
        t.resolve s.path = .ok (l ++ entry.1) := by
    intro entry hentry s hsource
    have hpassed := List.all_eq_true.mp List.all_takeWhile entry hentry
    have hshort := byteLength_le_of_source? (Option.isNone_iff_eq_none.mp hpassed) hsource
    obtain ⟨-, -, -, hpath⟩ := of_source?_eq_some hsource
    obtain ⟨-, hfind⟩ := h.found entry ((List.takeWhile_sublist _).subset hentry)
    rw [hpath] at hshort ⊢
    exact resolve_under h.wellFormed h.resolves hfind hshort
  intro first second hfirst hsecond hne s hs other hother heq
  have hplace := hresolve first hfirst s hs
  rw [heq, hresolve second hsecond other hother] at hplace
  exact hne (List.append_cancel_left (Except.ok.inj hplace).symm)

theorem isDirectory_of_resolve (hroot : t.resolve root = .ok l)
    (hfind : t.find? l = some .directory) : t.isDirectory root := by
  rw [isDirectory, reached?_of_resolve hroot, hfind]
  rfl

theorem pass_of_resolve (hroot : t.resolve root = .ok l) (hfind : t.find? l = some .directory) :
    pass disk selection t root =
      visit disk root ((t.below l).filterMap (target? selection root)) t ⟨0, [], 0⟩ [] := by
  rw [pass, if_pos (isDirectory_of_resolve hroot hfind), targets_eq hroot]

/-- A pass goes through the entries below its root in depth-first order, each directory by ascending
names, up to the first obstacle. The sources that it reads on the way and that injection changes are
rewritten and announced, each once and in this order, and nothing else in the tree changes, which
stays well formed. Without an obstacle it ends well, and reports how many sources it read, which
ones it rewrote and how many guards they got; otherwise it ends with the failure that the obstacle
stands for. Where there is no directory, it fails and leaves the tree as it is. -/
theorem pass_goes_depth_first (selection : Selection) (disk : Disk) (t : Tree)
    (hwell : t.WellFormed) (root : Path) :
    let pass := pass disk selection t root
    pass.tree.WellFormed ∧
    (t.isDirectory root = false → pass = ⟨t, ⟨0, [], 0⟩, [], some (.directoryNotFound root)⟩) ∧
    ∀ l, t.resolve root = .ok l → t.find? l = some .directory →
      (∃ order, t.DepthFirst l order) ∧ ∀ order, t.DepthFirst l order →
        let sources := reached selection disk t root l order
        let rewritten := sources.filter Source.IsChanged
        pass.stop = order.findSome? (obstacle? selection disk t root) ∧
        (pass.stop = none → pass.report = ⟨sources.length, rewritten.map (·.path),
          (rewritten.map fun s => (ofSource s.text).guards).sum⟩) ∧
        pass.announced = rewritten.map (·.path) ∧ pass.announced.Nodup ∧
        (∀ s ∈ rewritten, pass.tree.find? s.location = some s.rewrite) ∧
        (∀ m, (∀ s ∈ rewritten, s.location ≠ m) → pass.tree.find? m = t.find? m) ∧
        pass.tree.home = t.home := by
  intro pass
  refine ⟨?_, fun hnone => ?_, fun l hroot hfind =>
    ⟨⟨_, hwell.depthFirst_below l⟩, fun order horder => ?_⟩⟩
  · change (Injection.pass disk selection t root).tree.WellFormed
    rw [Injection.pass]
    split
    · exact visit_wellFormed hwell _ _ _
    · exact hwell
  · simp only [pass, Injection.pass, hnone, Bool.false_eq_true, if_false]
  · obtain rfl := horder.eq (hwell.depthFirst_below l)
    have hpass : pass = visit disk root ((t.below l).filterMap (target? selection root)) t
        ⟨0, [], 0⟩ [] := pass_of_resolve hroot hfind
    have houtcome : Outcome pass t ⟨0, [], 0⟩ [] (reached selection disk t root l (t.below l))
        ((t.below l).findSome? (obstacle? selection disk t root)) := by
      rw [hpass]
      exact visit_outcome (Ahead.of_below hwell hroot) _ _
    intro sources rewritten
    have hannounced : pass.announced = rewritten.map (·.path) := houtcome.announced_eq
    refine ⟨houtcome.stop_eq, fun hstop => ?_, hannounced, ?_, houtcome.rewritten,
      houtcome.others, houtcome.home_eq⟩
    · rw [houtcome.report_eq (houtcome.stop_eq.symm.trans hstop), Nat.zero_add, Nat.zero_add]
      rfl
    · rw [hannounced]
      exact (Ahead.of_below hwell hroot).paths_nodup.sublist (List.filter_sublist.map _)

/-- The first file gets a guard, the second one holds no text, and the third one is not come to. -/
theorem pass_goes_depth_first_to_bad_file :
    let source := "test('a', function () \x7b route('x'); \x7d);".toList
    let directory : Location := ["Browser".toList]
    let t : Tree := ⟨[(directory, .directory),
      (directory ++ ["a.php".toList], .file (Bytes.ofText source)),
      (directory ++ ["b.php".toList], .file ⟨#[0xff]⟩),
      (directory ++ ["c.php".toList], .file (Bytes.ofText source))], []⟩
    let pass := pass .obliging .standard t ⟨"Browser".toList⟩
    t.WellFormed ∧
      pass.stop = some (.file .read ⟨"Browser/b.php".toList⟩ .notText) ∧
      pass.announced = [⟨"Browser/a.php".toList⟩] ∧
      pass.tree.find? (directory ++ ["a.php".toList]) =
        some (.file (Bytes.ofText (ofSource source).content)) ∧
      pass.tree.find? (directory ++ ["c.php".toList]) = some (.file (Bytes.ofText source)) := by
  intro source directory t pass
  have hwell : t.WellFormed := by decide +kernel
  have hroot : t.resolve ⟨"Browser".toList⟩ = .ok directory := by decide +kernel
  obtain ⟨-, hpass⟩ := (pass_goes_depth_first .standard .obliging t hwell ⟨"Browser".toList⟩).2.2
    directory hroot (by decide +kernel)
  obtain ⟨hstop, -, hannounced, -, hrewritten, hothers, -⟩ :=
    hpass _ (hwell.depthFirst_below directory)
  have hsources : (reached .standard .obliging t ⟨"Browser".toList⟩ directory
      (t.below directory)).filter Source.IsChanged =
        [⟨directory ++ ["a.php".toList], ⟨"Browser/a.php".toList⟩, source⟩] := by
    decide +kernel
  rw [hsources] at hannounced hrewritten hothers
  refine ⟨hwell, hstop.trans (by decide +kernel), hannounced, hrewritten _ List.mem_cons_self, ?_⟩
  rw [hothers _ (by decide +kernel)]
  decide +kernel

/-- Every file holds a text, but the path of the only one, as it is seen through the first of these
roots, is longer than the system takes, and through the second one that of its temporary file is. -/
theorem long_roots_stop_pass :
    let source := "test('a', function () \x7b route('x'); \x7d);".toList
    let home : Location := ["home".toList]
    let directory : Location := home ++ ["Browser".toList]
    let t : Tree := ⟨[(home, .directory), (directory, .directory),
      (directory ++ ["LoginTest.php".toList], .file (Bytes.ofText source))], home⟩
    let root (dots : Nat) : Path := .behindDots dots "Browser".toList
    let file (dots : Nat) : Path := (root dots).under ["LoginTest.php".toList]
    t.WellFormed ∧ t.isDirectory (root 2042) ∧ t.isDirectory (root 2037) ∧
      Bytes.text? (Bytes.ofText source) = some source ∧
      (pass .obliging .standard t (root 2042)).stop =
        some (.file .read (file 2042) .nameTooLong) ∧
      (pass .obliging .standard t (root 2037)).stop =
        some (.file .createTemporary (root 2037)
          (.atPath (t.temporaryPath .obliging (file 2037)) .nameTooLong)) := by
  intro source home directory t root file
  have hwell : t.WellFormed := by decide +kernel
  have hfind : t.find? directory = some .directory := by decide +kernel
  have hfile (dots : Nat) : file dots = .behindDots dots "Browser/LoginTest.php".toList :=
    Path.join_behindDots dots (by decide) (by decide) rfl
  have heligible (dots : Nat) : Selection.standard.isEligible (file (dots + 1)) := by
    rw [hfile, Selection.isEligible_congr (Path.components_behindDots dots _)]
    decide +kernel
  have hstop (dots : Nat) (hdots : dots ≤ 2042) {failure : Failure}
      (hobstacle : obstacle? .standard .obliging t (root dots)
        (["LoginTest.php".toList], .file (Bytes.ofText source)) = some failure) :
      t.isDirectory (root dots) ∧
        (pass .obliging .standard t (root dots)).stop = some failure := by
    have hroot : t.resolve (root dots) = .ok directory := by
      have hlength : 2 * dots + Text.byteLength "Browser".toList ≤ Path.longest := by
        have hname : Text.byteLength "Browser".toList = 7 := by decide
        rw [hname, Path.longest]
        omega
      rw [resolve_behindDots (by decide +kernel) ⟨rfl, by decide⟩ rfl hlength]
      decide +kernel
    have hbelow : t.below directory =
        [(["LoginTest.php".toList], .file (Bytes.ofText source))] := rfl
    have hahead := Ahead.of_below hwell hroot
    rw [hbelow] at hahead
    obtain ⟨counted, hvisit⟩ := visit_obstacle hahead hobstacle ⟨0, [], 0⟩ []
    exact ⟨isDirectory_of_resolve hroot hfind,
      by rw [pass_of_resolve hroot hfind, hbelow, hvisit]⟩
  have hlength (dots : Nat) : Text.byteLength (file dots).text = 2 * dots + 21 := by
    rw [hfile, Path.byteLength_behindDots]
    rfl
  have hread : obstacle? .standard .obliging t (root 2042)
      (["LoginTest.php".toList], .file (Bytes.ofText source)) =
        some (.file .read (file 2042) .nameTooLong) := by
    rw [obstacle?, if_pos (heligible 2041), if_pos (by rw [hlength]; decide)]
  have hhindrance (dots : Nat) (hdots : 2037 ≤ dots) :
      hindrance? .obliging t (file dots) = some (.file .createTemporary (root dots)
        (.atPath (t.temporaryPath .obliging (file dots)) .nameTooLong)) := by
    have hhome : Text.byteLength t.homePath.text = 5 := by decide +kernel
    have hname : Text.byteLength "Browser".toList = 7 := by decide
    rw [hfile]
    refine hindrance?_behindDots (s := "Browser".toList) (n := "LoginTest.php".toList) hwell
      (by decide +kernel) (by simp [Path.IsStep]) (by simp [Path.IsStep]) ?_ .obliging
    rw [hhome, hname, Path.longest]
    omega
  have hmade : obstacle? .standard .obliging t (root 2037)
      (["LoginTest.php".toList], .file (Bytes.ofText source)) =
        some (.file .createTemporary (root 2037)
          (.atPath (t.temporaryPath .obliging (file 2037)) .nameTooLong)) := by
    have hchanged : (ofSource source).content ≠ source := by decide +kernel
    rw [obstacle?, if_pos (heligible 2036), if_neg (by rw [hlength]; decide), Bytes.text?_ofText]
    dsimp only
    rw [if_neg hchanged]
    exact hhindrance 2037 (by decide)
  obtain ⟨hfirst, hunread⟩ := hstop 2042 (by decide) hread
  obtain ⟨hsecond, hunmade⟩ := hstop 2037 (by decide) hmade
  exact ⟨hwell, hfirst, hsecond, Bytes.text?_ofText source, hunread, hunmade⟩

end SkipChecks.Injection
