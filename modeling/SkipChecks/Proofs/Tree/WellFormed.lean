import Mathlib.Data.Char
import Mathlib.Data.List.Induction
import Mathlib.Data.List.Lex
import SkipChecks.Proofs.Basic
import SkipChecks.Tree.Edit

/-!
# Well-formed trees

A tree lists its entries in ascending order, under names that a file system takes, and every entry
lies in a directory. Then what is listed is what is found.
-/

namespace SkipChecks.Tree

/-- A name that an entry of a directory can have. -/
def IsName (n : Text) : Prop :=
  n ≠ [] ∧ n ≠ ['.'] ∧ n ≠ ['.', '.'] ∧ '/' ∉ n ∧ '\x00' ∉ n ∧ Text.byteLength n ≤ longestName

instance : DecidablePred IsName := fun n => by
  unfold IsName
  infer_instance

/-- The entries are in ascending order, and each has a name of its own in a directory. -/
structure WellFormed (t : Tree) : Prop where
  ascending : t.entries.Pairwise (·.1 < ·.1)
  placed : ∀ entry ∈ t.entries,
    (∃ n ∈ entry.1.getLast?, IsName n) ∧ t.find? entry.1.dropLast = some .directory

instance (t : Tree) : Decidable t.WellFormed :=
  decidable_of_iff (t.entries.Pairwise (·.1 < ·.1) ∧ ∀ entry ∈ t.entries,
    (∃ n ∈ entry.1.getLast?, IsName n) ∧ t.find? entry.1.dropLast = some .directory)
    ⟨fun h => ⟨h.1, h.2⟩, fun h => ⟨h.ascending, h.placed⟩⟩

variable {t : Tree} {l : Location} {n : Text} {names : List Text} {e : Entry}

/-- What is listed in ascending order is found. -/
theorem lookup_of_mem {entries : List (Location × Entry)} (h : entries.Pairwise (·.1 < ·.1))
    (hmem : (l, e) ∈ entries) : entries.lookup l = some e :=
  (Entries.lookup_eq_some_iff (h.imp ne_of_lt)).mpr hmem

namespace WellFormed

theorem exists_of_mem (hwell : t.WellFormed) (h : (l, e) ∈ t.entries) :
    ∃ above n, l = above ++ [n] ∧ IsName n ∧ t.find? above = some .directory := by
  obtain ⟨⟨n, hlast, hname⟩, hdirectory⟩ := hwell.placed _ h
  exact ⟨l.dropLast, n, (List.dropLast_append_getLast? n hlast).symm, hname, hdirectory⟩

theorem mem_entries_iff (hwell : t.WellFormed) :
    (l, e) ∈ t.entries ↔ l ≠ [] ∧ t.find? l = some e := by
  constructor
  · intro hmem
    obtain ⟨above, n, hl, -⟩ := hwell.exists_of_mem hmem
    have hne : l ≠ [] := by simp [hl]
    exact ⟨hne, (find?_of_ne_nil hne).trans (lookup_of_mem hwell.ascending hmem)⟩
  · rintro ⟨hne, hfind⟩
    rw [find?_of_ne_nil hne] at hfind
    exact Entries.mem_of_lookup hfind

/-- What lies in a place lies in a directory, under a name. -/
theorem of_find?_concat (hwell : t.WellFormed) (h : t.find? (l ++ [n]) = some e) :
    t.find? l = some .directory ∧ IsName n := by
  have hmem := hwell.mem_entries_iff.mpr ⟨by simp, h⟩
  obtain ⟨above, m, hl, hname, hdirectory⟩ := hwell.exists_of_mem hmem
  obtain ⟨rfl, hn⟩ := List.append_inj' hl rfl
  obtain rfl := List.singleton_inj.mp hn
  exact ⟨hdirectory, hname⟩

/-- What has something below it is a directory. -/
theorem find?_of_append (hwell : t.WellFormed) (hne : names ≠ [])
    (h : t.find? (l ++ names) = some e) : t.find? l = some .directory := by
  induction names using List.reverseRecOn generalizing e with
  | nil => exact absurd rfl hne
  | append_singleton names n ih =>
      rw [← List.append_assoc] at h
      have hparent := (hwell.of_find?_concat h).1
      cases names with
      | nil => simpa using hparent
      | cons m names => exact ih (List.cons_ne_nil m names) hparent

theorem isName_of_mem (hwell : t.WellFormed) (h : t.find? l = some e) (hn : n ∈ l) : IsName n := by
  induction l using List.reverseRecOn generalizing e with
  | nil => cases hn
  | append_singleton l m ih =>
      obtain ⟨hparent, hm⟩ := hwell.of_find?_concat h
      rcases List.mem_append.mp hn with hn | hn
      · exact ih hparent hn
      · rwa [List.mem_singleton.mp hn]

end WellFormed

/-! ## Edits -/

theorem putEntry_eq_insert (entries : List (Location × Entry)) :
    putEntry l e entries = Entries.insert l e entries := by
  induction entries with
  | nil => rfl
  | cons first rest ih =>
      obtain ⟨m, f⟩ := first
      rw [putEntry, Entries.insert, ih]
      -- the two sides decide the same by different means
      split_ifs <;> rfl

/-- A tree stays well formed when an entry is put into a directory, unless it is a file put over a
directory. -/
theorem WellFormed.put (hwell : t.WellFormed) (hparent : t.find? l = some .directory)
    (hn : IsName n) (hkeep : t.find? (l ++ [n]) = some .directory → e = .directory) :
    (t.put (l ++ [n]) e).WellFormed := by
  have hne : l ++ [n] ≠ [] := by simp
  have hdirectory : ∀ {m : Location}, t.find? m = some .directory →
      (t.put (l ++ [n]) e).find? m = some .directory := by
    intro m hm
    rw [find?_put hne]
    split
    next heq => rw [hkeep (heq ▸ hm)]
    next => exact hm
  have hentries : (t.put (l ++ [n]) e).entries = Entries.insert (l ++ [n]) e t.entries :=
    putEntry_eq_insert t.entries
  refine ⟨hentries ▸ Entries.insert_pairwise hwell.ascending, fun entry hentry => ?_⟩
  rcases Entries.mem_of_mem_insert (hentries ▸ hentry) with rfl | hentry
  · rw [List.getLast?_concat, List.dropLast_concat]
    exact ⟨⟨n, rfl, hn⟩, hdirectory hparent⟩
  · obtain ⟨hname, hfind⟩ := hwell.placed entry hentry
    exact ⟨hname, hdirectory hfind⟩

/-! ## Entries below a location -/

theorem mem_below_iff_mem_entries :
    (names, e) ∈ t.below l ↔ names ≠ [] ∧ (l ++ names, e) ∈ t.entries := by
  simp only [below, List.mem_filterMap, Prod.exists]
  constructor
  · rintro ⟨m, f, hmem, hsome⟩
    split at hsome
    next n ns hbegins =>
      cases hsome
      rw [← List.isPrefixOf?_eq_some_iff_append_eq.mp hbegins] at hmem
      exact ⟨List.cons_ne_nil n ns, hmem⟩
    next => cases hsome
  · rintro ⟨hne, hmem⟩
    obtain ⟨n, ns, rfl⟩ := List.exists_cons_of_ne_nil hne
    refine ⟨_, e, hmem, ?_⟩
    rw [List.isPrefixOf?_eq_some_iff_append_eq.mpr rfl]

theorem WellFormed.mem_below_iff (hwell : t.WellFormed) :
    (names, e) ∈ t.below l ↔ names ≠ [] ∧ t.find? (l ++ names) = some e := by
  rw [mem_below_iff_mem_entries, hwell.mem_entries_iff]
  refine and_congr_right fun hne => ?_
  simp [hne]

/-- Behind the names of a location, names are compared as the locations are. -/
theorem append_lt_append_iff {first second : List Text} :
    l ++ first < l ++ second ↔ first < second := by
  induction l with
  | nil => rfl
  | cons n l ih => simp [ih]

theorem WellFormed.below_pairwise (hwell : t.WellFormed) (l : Location) :
    (t.below l).Pairwise (·.1 < ·.1) := by
  rw [below, List.pairwise_filterMap]
  refine hwell.ascending.imp fun {first second} hlt found hfound other hother => ?_
  dsimp only at hfound hother
  split at hfound
  next hbegins =>
    split at hother
    next hbegins' =>
      cases hfound; cases hother
      rw [← List.isPrefixOf?_eq_some_iff_append_eq.mp hbegins,
        ← List.isPrefixOf?_eq_some_iff_append_eq.mp hbegins'] at hlt
      exact append_lt_append_iff.mp hlt
    next => cases hother
  next => cases hfound

end SkipChecks.Tree
