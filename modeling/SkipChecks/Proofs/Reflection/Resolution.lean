import Mathlib.Data.List.Nodup
import SkipChecks.Proofs.Path.Names
import SkipChecks.Reflection.Autoload

/-!
# Which namespace a class belongs to

Of the namespaces that begin the name of a class the longest decides where the class lies, and of
equal ones the first: that one comes first among those that begin the name when they are sorted. So
where no two are equal, their order does not matter. What follows in the name leads to the file step
by step. When no step is empty or has a dot or a slash, it can be read back from the path, so that two
classes of one namespace lie in different files.
-/

namespace SkipChecks

open Text

namespace Rule

variable {rule other : Rule} {rules before after : List Rule}

/-- The rule with the longest beginning, and of equally long ones the first. -/
def longest? : List Rule → Option Rule
  | [] => none
  | rule :: rules =>
    match longest? rules with
    | some other => if rule.size < other.size then some other else some rule
    | none => some rule

theorem mem_of_longest? (h : longest? rules = some rule) : rule ∈ rules := by
  induction rules generalizing rule with
  | nil => cases h
  | cons first rules ih =>
      rw [longest?] at h
      split at h
      next other hother =>
        split at h
        · obtain rfl := Option.some.inj h
          exact List.mem_cons_of_mem first (ih hother)
        · exact List.mem_cons.mpr (.inl (Option.some.inj h).symm)
      next => exact List.mem_cons.mpr (.inl (Option.some.inj h).symm)

/-- A rule is picked when it is longer than those before it and none behind it is longer. -/
theorem longest?_append_cons (hbefore : ∀ other ∈ before, other.size < rule.size)
    (hafter : ∀ other ∈ after, other.size ≤ rule.size) :
    longest? (before ++ rule :: after) = some rule := by
  induction before with
  | nil =>
      rw [List.nil_append, longest?]
      split
      next other hother => rw [if_neg (Nat.not_lt.mpr (hafter other (mem_of_longest? hother)))]
      next => rfl
  | cons first before ih =>
      rw [List.cons_append, longest?,
        ih fun other hother => hbefore other (List.mem_cons_of_mem first hother)]
      exact if_pos (hbefore first List.mem_cons_self)

/-! ## Sorted rules -/

theorem mem_insert : other ∈ insert rule rules ↔ other = rule ∨ other ∈ rules := by
  induction rules with
  | nil => simp [insert]
  | cons first rules ih =>
      rw [insert]
      split
      · rw [List.mem_cons, ih, List.mem_cons]
        exact or_left_comm
      · exact List.mem_cons

/-- The longest rules come first. -/
def Sorted (rules : List Rule) : Prop := rules.Pairwise fun first second => second.size ≤ first.size

theorem Sorted.insert (h : Sorted rules) (rule : Rule) : Sorted (rule.insert rules) := by
  induction rules with
  | nil => exact List.pairwise_singleton _ _
  | cons first rules ih =>
      obtain ⟨hfirst, hrules⟩ := List.pairwise_cons.mp h
      rw [Rule.insert]
      split
      next hshorter =>
        refine List.pairwise_cons.mpr ⟨fun other hother => ?_, ih hrules⟩
        rcases mem_insert.mp hother with rfl | hother
        · exact Nat.le_of_lt hshorter
        · exact hfirst other hother
      next hlonger =>
        refine List.pairwise_cons.mpr ⟨fun other hother => ?_, h⟩
        rcases List.mem_cons.mp hother with rfl | hother
        · exact Nat.not_lt.mp hlonger
        · exact (hfirst other hother).trans (Nat.not_lt.mp hlonger)

theorem sorted_sort (rules : List Rule) : Sorted (sort rules) := by
  induction rules with
  | nil => exact .nil
  | cons rule rules ih => exact ih.insert rule

/-- A rule that is put among sorted ones is found when it fits and no longer one does. -/
theorem find?_insert (h : Sorted rules) (rule : Rule) (fits : Rule → Bool) :
    (insert rule rules).find? fits =
      if fits rule then
        match rules.find? fits with
        | some other => if rule.size < other.size then some other else some rule
        | none => some rule
      else rules.find? fits := by
  induction rules with
  | nil =>
      rw [insert, List.find?_singleton]
      rfl
  | cons first rules ih =>
      obtain ⟨hfirst, hrules⟩ := List.pairwise_cons.mp h
      rw [insert]
      split
      next hshorter =>
        rw [List.find?_cons, List.find?_cons, ih hrules]
        cases fits first with
        | true => simp [hshorter]
        | false => rfl
      next hlonger =>
        cases hfits : fits rule with
        | false => rw [List.find?_cons_of_neg (by simp [hfits]), if_neg Bool.false_ne_true]
        | true =>
            rw [List.find?_cons_of_pos hfits, if_pos rfl]
            cases hother : (first :: rules).find? fits with
            | none => rfl
            | some other =>
                -- the rule came before the first one, which is the longest of the others
                have hsize : other.size ≤ first.size := by
                  rcases List.mem_cons.mp (List.mem_of_find?_eq_some hother) with rfl | hmem
                  · exact Nat.le_refl _
                  · exact hfirst other hmem
                exact (if_neg (by omega)).symm

/-- The first of the sorted rules that fits is the longest of those that fit. -/
theorem find?_sort (rules : List Rule) (fits : Rule → Bool) :
    (sort rules).find? fits = longest? (rules.filter fits) := by
  induction rules with
  | nil => rfl
  | cons rule rules ih =>
      rw [sort, find?_insert (sorted_sort rules), ih]
      cases hfits : fits rule with
      | false => rw [List.filter_cons_of_neg (by simp [hfits]), if_neg Bool.false_ne_true]
      | true => rw [List.filter_cons_of_pos hfits, if_pos rfl, longest?]

end Rule

namespace Autoload

/-- A namespace with a backslash at its end. -/
def completed (space : Text) : Text := if ['\\'] <:+ space then space else space ++ ['\\']

/-- A namespace is written in two ways at most. -/
theorem eq_or_of_completed_eq {space spelled : Text}
    (h : completed spelled = completed space) :
    spelled = space ∨ (spelled = space ++ ['\\'] ∧ ¬ ['\\'] <:+ space) ∨ spelled ++ ['\\'] = space := by
  unfold completed at h
  split_ifs at h with hspelled hspace hspace
  · exact .inl h
  · exact .inr (.inl ⟨h, hspace⟩)
  · exact .inr (.inr h)
  · exact .inl (List.append_cancel_right h)

theorem completed_append {space : Text} (h : ¬ ['\\'] <:+ space) :
    completed (space ++ ['\\']) = completed space := by
  rw [completed, completed, if_pos (List.suffix_append space _), if_neg h]

theorem beginning_ofNamespace (space : Text) (directory : Path) :
    (Rule.ofNamespace space directory).beginning = completed space := by
  have hlast : space.getLast? = some '\\' ↔ ['\\'] <:+ space := by
    simp only [List.getLast?_eq_some_iff, List.IsSuffix, eq_comm]
  simp only [Rule.ofNamespace, completed, hlast]

/-- The name of a class begins with a namespace that is listed with its directory. -/
def Begins (entry : Text × Path) (name : Text) : Prop := completed entry.1 <+: className name

instance (entry : Text × Path) (name : Text) : Decidable (Begins entry name) :=
  inferInstanceAs (Decidable (_ <+: _))

/-- The namespace of a class in a list of namespaces with their directories: among those that begin
the name of the class it is longer than the ones before it, and none behind it is longer. -/
structure Deciding (namespaces : List (Text × Path)) (name : Text) where
  before : List (Text × Path)
  space : Text
  directory : Path
  after : List (Text × Path)
  /-- What follows in the name of the class. -/
  inside : Text
  namespaces_eq : namespaces = before ++ (space, directory) :: after
  className_eq : className name = completed space ++ inside
  longer : ∀ entry ∈ before, Begins entry name →
    (completed entry.1).length < (completed space).length
  longest : ∀ entry ∈ after, Begins entry name →
    (completed entry.1).length ≤ (completed space).length

variable {root : Path} {namespaces others : List (Text × Path)} {name other : Text}

namespace Deciding

/-- The file of the class: what follows the namespace are steps on from its directory. -/
def file (root : Path) (d : Deciding namespaces name) : Path :=
  ((root.join d.directory).under (split '\\' d.inside)).withExtension "php".toList

theorem mem (d : Deciding namespaces name) : (d.space, d.directory) ∈ namespaces := by
  obtain ⟨before, space, directory, after, inside, rfl, -, -, -⟩ := d
  exact List.mem_append_right before List.mem_cons_self

theorem begins (d : Deciding namespaces name) : Begins (d.space, d.directory) name :=
  ⟨d.inside, d.className_eq.symm⟩

theorem length_le (d : Deciding namespaces name) {entry : Text × Path} (hentry : entry ∈ namespaces)
    (hbegins : Begins entry name) : (completed entry.1).length ≤ (completed d.space).length := by
  rw [d.namespaces_eq] at hentry
  rcases List.mem_append.mp hentry with hentry | hentry
  · exact Nat.le_of_lt (d.longer entry hentry hbegins)
  · rcases List.mem_cons.mp hentry with rfl | hentry
    · exact Nat.le_refl _
    · exact d.longest entry hentry hbegins

end Deciding

/-- Where namespaces begin the name of a class, one of them decides. -/
theorem exists_deciding (h : ∃ entry ∈ namespaces, Begins entry name) :
    Nonempty (Deciding namespaces name) := by
  induction namespaces with
  | nil => simp at h
  | cons first namespaces ih =>
      by_cases hlater : ∃ entry ∈ namespaces, Begins entry name
      · obtain ⟨d⟩ := ih hlater
        by_cases hfirst : Begins first name ∧
            (completed d.space).length ≤ (completed first.1).length
        · -- the first one is as long as the one that decides among the others
          obtain ⟨inside, hinside⟩ := hfirst.1
          exact ⟨⟨[], first.1, first.2, namespaces, inside, rfl, hinside.symm, by simp,
            fun entry hentry hbegins => (d.length_le hentry hbegins).trans hfirst.2⟩⟩
        · refine ⟨⟨first :: d.before, d.space, d.directory, d.after, d.inside, ?_, d.className_eq,
            fun entry hentry hbegins => ?_, d.longest⟩⟩
          · rw [List.cons_append, ← d.namespaces_eq]
          · rcases List.mem_cons.mp hentry with rfl | hentry
            · exact Nat.not_le.mp fun hle => hfirst ⟨hbegins, hle⟩
            · exact d.longer entry hentry hbegins
      · obtain ⟨entry, hentry, inside, hinside⟩ := h
        rcases List.mem_cons.mp hentry with rfl | hentry
        · exact ⟨⟨[], entry.1, entry.2, namespaces, inside, rfl, hinside.symm, by simp,
            fun other hother hbegins => absurd ⟨other, hother, hbegins⟩ hlater⟩⟩
        · exact absurd ⟨entry, hentry, inside, hinside⟩ hlater

/-- The rule for a class is picked among those for the namespaces that begin its name. -/
theorem rule?_ofNamespaces (root : Path) (namespaces : List (Text × Path)) (name : Text) :
    (ofNamespaces root namespaces).rule? name =
      Rule.longest? ((namespaces.filter (Begins · name)).map fun entry =>
        .ofNamespace entry.1 entry.2) := by
  have hbegins (entry : Text × Path) :
      (Rule.ofNamespace entry.1 entry.2).beginning.isPrefixOf (className name) =
        decide (Begins entry name) := by
    rw [Bool.eq_iff_iff, List.isPrefixOf_iff_prefix, beginning_ofNamespace, decide_eq_true_iff]
    rfl
  rw [rule?, ofNamespaces, Rule.find?_sort, List.filter_map]
  simp only [Function.comp_def, hbegins]

/-- Of the beginnings of one name the longer ones have more bytes. -/
theorem byteLength_lt_iff {a b s : Text} (ha : a <+: s) (hb : b <+: s) :
    byteLength a < byteLength b ↔ a.length < b.length := by
  have hlonger {a b : Text} (hbegins : a <+: b) (hlength : a.length < b.length) :
      byteLength a < byteLength b := by
    obtain ⟨_ | ⟨c, more⟩, rfl⟩ := hbegins
    · simp at hlength
    · rw [byteLength_append, byteLength_cons]
      have hpos := c.utf8Size_pos
      omega
  rcases Nat.lt_trichotomy a.length b.length with hlt | heq | hgt
  · exact iff_of_true (hlonger (List.prefix_of_prefix_length_le ha hb hlt.le) hlt) hlt
  · have hsame : a = b := (List.prefix_of_prefix_length_le ha hb heq.le).eq_of_length heq
    simp [hsame]
  · have hmore := hlonger (List.prefix_of_prefix_length_le hb ha hgt.le) hgt
    exact iff_of_false (Nat.not_lt.mpr hmore.le) (Nat.not_lt.mpr hgt.le)

theorem rule?_eq_some (root : Path) (d : Deciding namespaces name) :
    (ofNamespaces root namespaces).rule? name = some (.ofNamespace d.space d.directory) := by
  rw [rule?_ofNamespaces]
  simp only [d.namespaces_eq, List.filter_append, List.map_append]
  rw [List.filter_cons, if_pos (decide_eq_true d.begins), List.map_cons]
  apply Rule.longest?_append_cons
  · intro rule hrule
    obtain ⟨entry, hentry, rfl⟩ := List.mem_map.mp hrule
    obtain ⟨hbefore, hbegins⟩ := List.mem_filter.mp hentry
    simp only [Rule.size, beginning_ofNamespace]
    rw [byteLength_lt_iff (of_decide_eq_true hbegins) d.begins]
    exact d.longer entry hbefore (of_decide_eq_true hbegins)
  · intro rule hrule
    obtain ⟨entry, hentry, rfl⟩ := List.mem_map.mp hrule
    obtain ⟨hafter, hbegins⟩ := List.mem_filter.mp hentry
    simp only [Rule.size, beginning_ofNamespace]
    rw [← Nat.not_lt, byteLength_lt_iff d.begins (of_decide_eq_true hbegins), Nat.not_lt]
    exact d.longest entry hafter (of_decide_eq_true hbegins)

theorem file?_eq_some (root : Path) (d : Deciding namespaces name) :
    (ofNamespaces root namespaces).file? name = some (d.file root) := by
  have hinside : (completed d.space).isPrefixOf? (className name) = some d.inside :=
    List.isPrefixOf?_eq_some_iff_append_eq.mpr d.className_eq.symm
  have hsteps (start : Path) (steps : List Text) :
      (steps.map Path.mk).foldl Path.join start = start.under steps := by
    rw [List.foldl_map, Path.under]
  rw [file?, rule?_eq_some root d]
  simp only [Option.bind_eq_bind, Option.bind_some, beginning_ofNamespace, hinside, hsteps]
  rfl

theorem file?_eq_none_iff :
    (ofNamespaces root namespaces).file? name = none ↔
      ∀ entry ∈ namespaces, ¬ Begins entry name := by
  constructor
  · intro hnone entry hentry hbegins
    obtain ⟨d⟩ := exists_deciding ⟨entry, hentry, hbegins⟩
    rw [file?_eq_some root d] at hnone
    cases hnone
  · intro hnone
    have hnamespaces : namespaces.filter (Begins · name) = [] := by
      simpa only [List.filter_eq_nil_iff, decide_eq_true_eq] using hnone
    rw [file?, rule?_ofNamespaces, hnamespaces]
    rfl

theorem file?_eq_some_iff {file : Path} :
    (ofNamespaces root namespaces).file? name = some file ↔
      ∃ d : Deciding namespaces name, file = d.file root := by
  constructor
  · intro hsome
    have hbegins : ∃ entry ∈ namespaces, Begins entry name := by
      by_contra hnone
      simp only [not_exists, not_and] at hnone
      rw [file?_eq_none_iff.mpr hnone] at hsome
      cases hsome
    obtain ⟨d⟩ := exists_deciding hbegins
    rw [file?_eq_some root d] at hsome
    exact ⟨d, (Option.some.inj hsome).symm⟩
  · rintro ⟨d, rfl⟩
    exact file?_eq_some root d

/-! ## The order of the list -/

/-- Two lists of the same namespaces are decided by namespaces of equal length. -/
theorem Deciding.completed_eq_of_perm (hperm : others.Perm namespaces)
    (d : Deciding namespaces name) (e : Deciding others name) :
    completed d.space = completed e.space ∧ d.inside = e.inside := by
  have hle := d.length_le (hperm.mem_iff.mp e.mem) e.begins
  have hge := e.length_le (hperm.mem_iff.mpr d.mem) d.begins
  exact List.append_inj (d.className_eq.symm.trans e.className_eq) (Nat.le_antisymm hge hle)

theorem file?_perm (hnodup : (namespaces.map fun entry => completed entry.1).Nodup)
    (hperm : others.Perm namespaces) :
    (ofNamespaces root others).file? name = (ofNamespaces root namespaces).file? name := by
  by_cases hbegins : ∃ entry ∈ namespaces, Begins entry name
  · obtain ⟨d⟩ := exists_deciding hbegins
    obtain ⟨e⟩ : Nonempty (Deciding others name) := by
      obtain ⟨entry, hentry, hbegins⟩ := hbegins
      exact exists_deciding ⟨entry, hperm.mem_iff.mpr hentry, hbegins⟩
    obtain ⟨hspace, hinside⟩ := d.completed_eq_of_perm hperm e
    have hentry : (d.space, d.directory) = (e.space, e.directory) :=
      List.inj_on_of_nodup_map hnodup d.mem (hperm.mem_iff.mp e.mem) hspace
    have hdirectory : d.directory = e.directory := (Prod.mk.inj hentry).2
    rw [file?_eq_some root d, file?_eq_some root e, Deciding.file, Deciding.file, hdirectory,
      hinside]
  · simp only [not_exists, not_and] at hbegins
    rw [file?_eq_none_iff.mpr hbegins,
      file?_eq_none_iff.mpr fun entry hentry => hbegins entry (hperm.mem_iff.mp hentry)]

/-! ## Plain steps -/

namespace Deciding

/-- The steps to the file are not empty and hold neither dots nor slashes. -/
def IsPlain (d : Deciding namespaces name) : Prop :=
  ∀ step ∈ split '\\' d.inside, step ≠ [] ∧ '.' ∉ step ∧ '/' ∉ step

theorem IsPlain.isStep {d : Deciding namespaces name} (h : d.IsPlain) {step : Text}
    (hstep : step ∈ split '\\' d.inside) : Path.IsStep step := by
  obtain ⟨hne, hdot, hslash⟩ := h step hstep
  refine ⟨hne, ?_, ?_, hslash⟩ <;> rintro rfl <;> simp at hdot

/-- Plain steps lead on from the directory to a file whose name is the last one with the
extension. -/
theorem IsPlain.file_eq {d : Deciding namespaces name} (h : d.IsPlain) (root : Path) :
    ∃ steps last, split '\\' d.inside = steps ++ [last] ∧
      d.file root = (root.join d.directory).under (steps ++ [last ++ ".php".toList]) ∧
      (d.file root).parts =
        (root.join d.directory).parts ++ (steps ++ [last ++ ".php".toList]).map .name := by
  obtain ⟨steps, last, hsplit⟩ :=
    (List.eq_nil_or_concat' (split '\\' d.inside)).resolve_left (split_ne_nil '\\' d.inside)
  have hsteps : ∀ step ∈ steps, Path.IsStep step := fun step hstep =>
    h.isStep (by simp [hsplit, hstep])
  have hlast : last ∈ split '\\' d.inside := by simp [hsplit]
  obtain ⟨hne, hdot, hslash⟩ := h last hlast
  have hphp : "php".toList = ['p', 'h', 'p'] := rfl
  have hdotted : ".php".toList = '.' :: "php".toList := rfl
  have hfile : d.file root = (root.join d.directory).under (steps ++ [last ++ ".php".toList]) := by
    rw [file, hsplit, Path.under_concat, Path.under_concat,
      Path.withExtension_join _ (h.isStep hlast) hdot (by simp [hphp]), hdotted]
  refine ⟨steps, last, hsplit, hfile, ?_⟩
  rw [hfile]
  apply Path.parts_under
  intro step hstep
  rcases List.mem_append.mp hstep with hstep | hstep
  · exact hsteps step hstep
  · obtain rfl := List.mem_singleton.mp hstep
    refine ⟨by simp [hne], ?_, ?_, by simp [hslash, hdotted, hphp]⟩ <;>
      exact fun heq => absurd (congrArg List.length heq) (by simp [hdotted, hphp])

/-- Plain steps can be read back from the parts of the path. -/
theorem IsPlain.className_eq_of_parts {d : Deciding namespaces name} {e : Deciding namespaces other}
    (hd : d.IsPlain) (he : e.IsPlain) (hspace : d.space = e.space)
    (hdirectory : d.directory = e.directory)
    (hparts : (d.file root).parts = (e.file root).parts) : className name = className other := by
  obtain ⟨steps, last, hsplit, -, hfile⟩ := hd.file_eq root
  obtain ⟨steps', last', hsplit', -, hfile'⟩ := he.file_eq root
  rw [hfile, hfile', hdirectory, List.append_cancel_left_eq] at hparts
  have hnames := List.map_injective_iff.mpr (fun _ _ => Part.name.inj) hparts
  obtain ⟨rfl, hlast⟩ := List.append_inj' hnames rfl
  obtain rfl := List.append_cancel_right (List.cons.inj hlast).1
  have hinside : d.inside = e.inside := by
    rw [← join_split '\\' d.inside, ← join_split '\\' e.inside, hsplit, hsplit']
  rw [d.className_eq, e.className_eq, hspace, hinside]

end Deciding

/-- The longest namespace decides. A class has no file exactly when no namespace begins its name.
Otherwise the longest namespace that does gives the directory, and of equal ones the first, so that
no order of different namespaces changes anything. Plain steps in the rest of the name lead on from
that directory, and the last one gets the extension. Of two classes whose namespace has one entry
and whose steps are plain, the paths agree part by part only if the classes are the same. -/
theorem longest_namespace_decides (root : Path) (namespaces : List (Text × Path)) (name : Text) :
    let autoload := ofNamespaces root namespaces
    (autoload.file? name = none ↔ ∀ entry ∈ namespaces, ¬ Begins entry name) ∧
    (∀ file, autoload.file? name = some file ↔
      ∃ d : Deciding namespaces name, file = d.file root) ∧
    ((namespaces.map fun entry => completed entry.1).Nodup → ∀ others, others.Perm namespaces →
      (ofNamespaces root others).file? name = autoload.file? name) ∧
    (∀ d : Deciding namespaces name, d.IsPlain → ∃ steps last,
      split '\\' d.inside = steps ++ [last] ∧
      autoload.file? name =
        some ((root.join d.directory).under (steps ++ [last ++ ".php".toList])) ∧
      (d.file root).parts =
        (root.join d.directory).parts ++ (steps ++ [last ++ ".php".toList]).map .name) ∧
    ∀ other, ∀ d : Deciding namespaces name, ∀ e : Deciding namespaces other,
      d.space = e.space → d.directory = e.directory → d.IsPlain → e.IsPlain →
      ∀ file same, autoload.file? name = some file → autoload.file? other = some same →
        file.parts = same.parts → className name = className other := by
  refine ⟨file?_eq_none_iff, fun file => file?_eq_some_iff,
    fun hnodup others hperm => file?_perm hnodup hperm, fun d hd => ?_, ?_⟩
  · obtain ⟨steps, last, hsplit, hfile, hparts⟩ := hd.file_eq root
    exact ⟨steps, last, hsplit, hfile ▸ file?_eq_some root d, hparts⟩
  · intro other d e hspace hdirectory hd he file same hfile hsame hparts
    rw [file?_eq_some root d] at hfile
    rw [file?_eq_some root e] at hsame
    obtain rfl := Option.some.inj hfile
    obtain rfl := Option.some.inj hsame
    exact hd.className_eq_of_parts he hspace hdirectory hparts

/-- A namespace inside another one, in either order of the list. -/
theorem longest_namespace_decides_models :
    let app := ("App".toList, Path.mk "app".toList)
    let models := ("App\\Models\\".toList, Path.mk "src/models/".toList)
    let name := "\\App\\Models\\Team\\User".toList
    let file := Path.mk "./src/models/Team/User.php".toList
    (ofNamespaces ⟨['.']⟩ [app, models]).file? name = some file ∧
      (ofNamespaces ⟨['.']⟩ [models, app]).file? name = some file := by
  intro app models name file
  have hfile : (ofNamespaces ⟨['.']⟩ [app, models]).file? name = some file := by decide +kernel
  have hperm := (longest_namespace_decides ⟨['.']⟩ [app, models] name).2.2.1 (by decide +kernel)
    [models, app] (List.Perm.swap app models [])
  exact ⟨hfile, hperm.trans hfile⟩

end Autoload

end SkipChecks
