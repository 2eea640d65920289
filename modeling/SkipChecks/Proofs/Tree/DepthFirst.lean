import SkipChecks.Proofs.Tree.WellFormed

/-!
# Depth-first order

The entries below a location are listed in depth-first order: the list of a whole tree puts a
directory right before its contents, and the contents in the order of their names.
-/

namespace SkipChecks.Tree

/-- An entry as seen from a directory above it. -/
abbrev Below := List Text × Entry

/-- An entry as seen from the directory that holds what it was seen from. -/
def Below.under (n : Text) (entry : Below) : Below := (n :: entry.1, entry.2)

/-- The entries below a location in depth-first order: the entries of the directory by ascending
names, each of them right before what is below it. -/
inductive DepthFirst (t : Tree) : Location → List Below → Prop
  | directory {l : Location} (children : List (Text × Entry)) (below : Text → List Below)
      (hascending : children.Pairwise (·.1 < ·.1))
      (hchildren : ∀ n e, (n, e) ∈ children ↔ t.find? (l ++ [n]) = some e)
      (hbelow : ∀ child ∈ children, DepthFirst t (l ++ [child.1]) (below child.1)) :
      DepthFirst t l
        (children.flatMap fun child =>
          ([child.1], child.2) :: (below child.1).map (Below.under child.1))

variable {t : Tree} {l : Location}

/-- There is one depth-first order only. -/
theorem DepthFirst.eq {order other : List Below} (h : t.DepthFirst l order)
    (hother : t.DepthFirst l other) : order = other := by
  induction h generalizing other with
  | @directory l children below hascending hchildren _ ih =>
      obtain ⟨children', below', hascending', hchildren', hbelow'⟩ := hother
      have hsame : children = children' := by
        refine Entries.eq_of_mem_iff hascending hascending' ?_
        rintro ⟨n, e⟩
        rw [hchildren, hchildren']
      subst hsame
      refine List.flatMap_congr fun child hchild => ?_
      rw [ih child hchild (hbelow' child hchild)]

/-- The entries of a directory, by their names. -/
def children (t : Tree) (l : Location) : List (Text × Entry) :=
  (t.below l).filterMap fun
    | ([n], e) => some (n, e)
    | _ => none

theorem mem_children_iff (hwell : t.WellFormed) {n : Text} {e : Entry} :
    (n, e) ∈ t.children l ↔ t.find? (l ++ [n]) = some e := by
  have hbelow : (n, e) ∈ t.children l ↔ ([n], e) ∈ t.below l := by
    simp only [children, List.mem_filterMap, Prod.exists]
    constructor
    · rintro ⟨names, f, hmem, hsome⟩
      split at hsome
      next heq => cases hsome; cases heq; exact hmem
      next => cases hsome
    · exact fun hmem => ⟨[n], e, hmem, rfl⟩
  rw [hbelow, hwell.mem_below_iff]
  simp

theorem children_pairwise (hwell : t.WellFormed) (l : Location) :
    (t.children l).Pairwise (·.1 < ·.1) := by
  rw [children, List.pairwise_filterMap]
  refine (hwell.below_pairwise l).imp fun {first second} hlt found hfound other hother => ?_
  obtain ⟨names, e⟩ := first
  obtain ⟨others, f⟩ := second
  split at hfound
  next heq =>
    split at hother
    next heq' =>
      cases heq; cases heq'; cases hfound; cases hother
      simpa [List.cons_lt_cons_iff] using hlt
    next => cases hother
  next => cases hfound

/-- What is below a location is what is in it, each entry followed by what is below it. -/
theorem below_eq_flatMap (hwell : t.WellFormed) (l : Location) :
    t.below l = (t.children l).flatMap fun child =>
      ([child.1], child.2) :: (t.below (l ++ [child.1])).map (Below.under child.1) := by
  have hhead : ∀ (child : Text × Entry),
      ∀ entry ∈ ([child.1], child.2) :: (t.below (l ++ [child.1])).map (Below.under child.1),
        ∃ names, entry.1 = child.1 :: names := by
    intro child entry hentry
    rcases List.mem_cons.mp hentry with rfl | hentry
    · exact ⟨[], rfl⟩
    · obtain ⟨deeper, -, rfl⟩ := List.mem_map.mp hentry
      exact ⟨deeper.1, rfl⟩
  -- both sides are ascending and hold the same entries
  have hpairwise : ((t.children l).flatMap fun child =>
      ([child.1], child.2) :: (t.below (l ++ [child.1])).map (Below.under child.1)).Pairwise
        (·.1 < ·.1) := by
    rw [List.pairwise_flatMap]
    constructor
    · intro child hchild
      refine .cons ?_ ?_
      · intro entry hentry
        obtain ⟨⟨names, e⟩, hdeeper, rfl⟩ := List.mem_map.mp hentry
        obtain ⟨hne, -⟩ := mem_below_iff_mem_entries.mp hdeeper
        obtain ⟨n, names, rfl⟩ := List.exists_cons_of_ne_nil hne
        exact List.cons_lt_cons_iff.mpr (.inr ⟨rfl, List.nil_lt_cons n names⟩)
      · rw [List.pairwise_map]
        exact (hwell.below_pairwise _).imp fun hlt =>
          List.cons_lt_cons_iff.mpr (.inr ⟨rfl, hlt⟩)
    · refine (children_pairwise hwell l).imp fun {first second} hlt x hx y hy => ?_
      obtain ⟨names, hnames⟩ := hhead first x hx
      obtain ⟨others, hothers⟩ := hhead second y hy
      rw [hnames, hothers]
      exact List.cons_lt_cons_iff.mpr (.inl hlt)
  refine Entries.eq_of_mem_iff (hwell.below_pairwise l) hpairwise ?_
  rintro ⟨names, e⟩
  rw [hwell.mem_below_iff, List.mem_flatMap]
  constructor
  · rintro ⟨hne, hfind⟩
    obtain ⟨n, names, rfl⟩ := List.exists_cons_of_ne_nil hne
    cases names with
    | nil => exact ⟨(n, e), (mem_children_iff hwell).mpr hfind, List.mem_cons_self⟩
    | cons m names =>
        rw [List.append_cons] at hfind
        have hdeeper := List.cons_ne_nil m names
        refine ⟨(n, .directory), (mem_children_iff hwell).mpr (hwell.find?_of_append hdeeper hfind),
          List.mem_cons_of_mem _ (List.mem_map.mpr ⟨(m :: names, e), ?_, rfl⟩)⟩
        exact hwell.mem_below_iff.mpr ⟨hdeeper, hfind⟩
  · rintro ⟨⟨n, f⟩, hchild, hentry⟩
    rcases List.mem_cons.mp hentry with heq | hentry
    · cases heq
      exact ⟨List.cons_ne_nil n [], (mem_children_iff hwell).mp hchild⟩
    · obtain ⟨⟨deeper, f⟩, hdeeper, heq⟩ := List.mem_map.mp hentry
      cases heq
      obtain ⟨-, hfind⟩ := hwell.mem_below_iff.mp hdeeper
      exact ⟨List.cons_ne_nil n deeper, by simpa using hfind⟩

/-- What is below a location is listed in depth-first order. -/
theorem WellFormed.depthFirst_below (hwell : t.WellFormed) (l : Location) :
    t.DepthFirst l (t.below l) := by
  -- below a child there is less than below the directory
  induction hlength : (t.below l).length using Nat.strongRecOn generalizing l with
  | ind length ih =>
      rw [below_eq_flatMap hwell l]
      refine .directory (t.children l) (fun n => t.below (l ++ [n])) (children_pairwise hwell l)
        (fun n e => mem_children_iff hwell) fun child hchild => ih _ ?_ _ rfl
      have hsublist := List.sublist_flatten_of_mem (List.mem_map_of_mem hchild
        (f := fun child : Text × Entry =>
          ([child.1], child.2) :: (t.below (l ++ [child.1])).map (Below.under child.1)))
      have hle := hsublist.length_le
      rw [← List.flatMap_def, ← below_eq_flatMap hwell l, hlength, List.length_cons,
        List.length_map] at hle
      omega

end SkipChecks.Tree
