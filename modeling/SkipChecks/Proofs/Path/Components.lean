import SkipChecks.Proofs.Path.Files

/-!
# Components of paths

The components of a path are the pieces between its slashes, without the empty ones and the dots. A
path may start with one more: the slash of the root, or a dot. They are the parts of the path as they
are written, and the directory of a file has all of them but the last.
-/

namespace SkipChecks.Path

open Text

variable {p q : Path} {n : Text} {pieces front idle : List Text}

/-! ## Components -/

/-- What counts at the start of a path only. -/
def lead (p : Path) : List Text :=
  if p.text.head? = some '/' then [['/']]
  else if (split '/' p.text).head? = some ['.'] then [['.']]
  else []

def components (p : Path) : List Text :=
  p.lead ++ (split '/' p.text).filter fun piece => piece ≠ [] ∧ piece ≠ ['.']

/-- A piece that leads nowhere. -/
def IsIdle (piece : Text) : Prop := piece = [] ∨ piece = ['.']

theorem ofPiece?_eq_none_iff {piece : Text} : Part.ofPiece? piece = none ↔ IsIdle piece := by
  unfold Part.ofPiece? IsIdle
  split <;> simp_all

theorem map_text_filterMap (pieces : List Text) :
    (pieces.filterMap Part.ofPiece?).map Part.text =
      pieces.filter fun piece => piece ≠ [] ∧ piece ≠ ['.'] := by
  induction pieces with
  | nil => rfl
  | cons piece pieces ih =>
      cases hpart : Part.ofPiece? piece with
      | none =>
          have hidle : ¬ (piece ≠ [] ∧ piece ≠ ['.']) :=
            not_and_or.mpr ((ofPiece?_eq_none_iff.mp hpart).imp not_not.mpr not_not.mpr)
          rw [List.filterMap_cons_none hpart, ih, List.filter_cons_of_neg (by simpa using hidle)]
      | some part =>
          have hcounts : piece ≠ [] ∧ piece ≠ ['.'] := by
            rw [← not_or]
            intro hidle
            rw [ofPiece?_eq_none_iff.mpr hidle] at hpart
            cases hpart
          rw [List.filterMap_cons_some hpart, List.map_cons, ih,
            List.filter_cons_of_pos (by simpa using hcounts), (isMove_of_ofPiece? hpart).2]

theorem map_text_parts (p : Path) : p.parts.map Part.text = p.components := by
  unfold parts components lead isRooted Path.pieces
  simp only [← map_text_filterMap, beq_iff_eq]
  split_ifs <;> rfl

/-- A path ends in a name when its last component is neither the root nor one of the dots. -/
theorem fileName?_eq_some_iff :
    p.fileName? = some n ↔
      (∃ before, p.components = before ++ [n]) ∧ n ≠ ['/'] ∧ n ≠ ['.'] ∧ n ≠ ['.', '.'] := by
  rw [← map_text_parts]
  constructor
  · intro h
    obtain ⟨hpiece, hslash⟩ := ofPiece?_of_mem_parts (mem_parts_of_fileName? h)
    unfold fileName? at h
    split at h
    next m hlast =>
      obtain rfl := Option.some.inj h
      obtain ⟨init, hparts⟩ := List.getLast?_eq_some_iff.mp hlast
      refine ⟨⟨init.map Part.text, by simp [hparts, Part.text]⟩, ?_, ?_, ?_⟩
      · rintro rfl
        exact hslash List.mem_cons_self
      · rintro rfl
        cases hpiece
      · rintro rfl
        cases hpiece
    next => cases h
  · rintro ⟨⟨before, hcomponents⟩, hroot, hhere, hup⟩
    obtain ⟨init, last, hparts, -, hlast⟩ := List.map_eq_append_iff.mp hcomponents
    obtain ⟨part, rfl, rfl⟩ := List.map_eq_singleton_iff.mp hlast
    rw [fileName?, hparts, List.getLast?_concat]
    cases part with
    | name m => rfl
    | root => exact absurd rfl hroot
    | here => exact absurd rfl hhere
    | up => exact absurd rfl hup

/-! ## Directories -/

/-- What a path with these pieces starts with. -/
def start : List Text → List Part
  | [] :: _ :: _ => [.root]
  | ['.'] :: _ => [.here]
  | _ => []

theorem parts_eq_start (p : Path) : p.parts = start p.pieces ++ p.moves := by
  obtain ⟨_ | ⟨c, s⟩⟩ := p
  · rfl
  · obtain ⟨piece, others, hs⟩ := List.exists_cons_of_ne_nil (split_ne_nil '/' s)
    by_cases hc : c = '/'
    · have hpieces : (Path.mk (c :: s)).pieces = [] :: piece :: others := by
        rw [Path.pieces, split, if_pos hc, hs]
      rw [parts_of_isRooted (by simp [isRooted, hc]), hpieces]
      rfl
    · have hpieces : (Path.mk (c :: s)).pieces = (c :: piece) :: others := by
        rw [Path.pieces, split, if_neg hc, hs, List.modifyHead_cons]
      have hrooted : (Path.mk (c :: s)).isRooted = false := by simp [isRooted, hc]
      unfold parts
      rw [hrooted, hpieces, moves, hpieces]
      by_cases hhere : c :: piece = ['.']
      · rw [hhere]
        rfl
      · simp [hhere, start]

/-- What a path starts with shows in its first pieces, unless there is nothing but an empty one. -/
theorem start_append (hne : pieces ≠ []) (hempty : pieces ≠ [[]]) (more : List Text) :
    start (pieces ++ more) = start pieces := by
  match pieces, hne, hempty with
  | [c :: piece], _, _ =>
      rw [List.singleton_append]
      unfold start
      split <;> simp_all
  | [] :: next :: others, _, _ => rfl
  | (c :: piece) :: next :: others, _, _ =>
      unfold start
      split <;> simp_all

theorem dropIdle_append {before : List Text} (hidle : ∀ piece ∈ idle, IsIdle piece)
    (hn : ¬ IsIdle n) : dropIdle (idle ++ n :: before) = n :: before := by
  induction idle with
  | nil =>
      cases before with
      | nil => rfl
      | cons next before => exact if_neg hn
  | cons piece idle ih =>
      obtain ⟨hpiece, hothers⟩ := List.forall_mem_cons.mp hidle
      obtain ⟨next, others, hnext⟩ := List.exists_cons_of_ne_nil
        (List.append_ne_nil_of_right_ne_nil idle (List.cons_ne_nil n before))
      have hrest := ih hothers
      rw [hnext] at hrest
      rw [List.cons_append, hnext, dropIdle]
      exact (if_pos hpiece).trans hrest

theorem exists_eq_append_dropIdle (pieces : List Text) :
    ∃ idle, pieces = idle ++ dropIdle pieces ∧ ∀ piece ∈ idle, IsIdle piece := by
  fun_induction dropIdle pieces with
  | case1 piece next pieces hpiece ih =>
      obtain ⟨idle, hidle, hall⟩ := ih
      exact ⟨piece :: idle, by rw [List.cons_append, ← hidle], by simpa using ⟨hpiece, hall⟩⟩
  | case2 => exact ⟨[], rfl, by simp⟩
  | case3 => exact ⟨[], rfl, by simp⟩

theorem dropIdle_ne_nil (h : pieces ≠ []) : dropIdle pieces ≠ [] := by
  fun_induction dropIdle pieces with
  | case1 piece next pieces _ ih => exact ih (List.cons_ne_nil next pieces)
  | case2 => exact h
  | case3 => exact h

/-- Behind the name that a path ends in nothing leads on. -/
theorem exists_pieces_of_fileName? (h : p.fileName? = some n) :
    ∃ front idle, p.pieces = front ++ n :: idle ∧ (∀ piece ∈ idle, IsIdle piece) ∧
      Part.ofPiece? n = some (.name n) ∧ p.parts = start p.pieces ++
        (front.filterMap Part.ofPiece? ++ [.name n]) := by
  have hname := (ofPiece?_of_mem_parts (mem_parts_of_fileName? h)).1
  unfold fileName? at h
  split at h
  next m hlast =>
    obtain rfl := Option.some.inj h
    obtain ⟨init, hparts⟩ := List.getLast?_eq_some_iff.mp hlast
    have hmoves : p.moves = init.filter Part.isMove ++ [.name m] := by
      rw [← filter_isMove_parts, hparts, List.filter_append]
      rfl
    obtain ⟨first, second, hpieces, hfirst, hsecond⟩ := List.filterMap_eq_append_iff.mp hmoves
    obtain ⟨between, piece, idle, rfl, hbetween, hpiece, hidle⟩ :=
      List.filterMap_eq_cons_iff.mp hsecond
    obtain rfl : m = piece := (isMove_of_ofPiece? hpiece).2
    refine ⟨first ++ between, idle, by rw [hpieces, List.append_assoc], fun piece hmem => ?_,
      hname, ?_⟩
    · exact ofPiece?_eq_none_iff.mp (List.filterMap_eq_nil_iff.mp hidle piece hmem)
    · rw [parts_eq_start, hmoves, List.filterMap_append, hfirst,
        List.filterMap_eq_nil_iff.mpr hbetween, List.append_nil]
  next => cases h

theorem pieces_ofPieces (hne : pieces ≠ []) (hfree : ∀ piece ∈ pieces, '/' ∉ piece) :
    (ofPieces pieces).pieces = pieces.reverse :=
  split_join (List.reverse_ne_nil_iff.mpr hne) fun piece hmem =>
    hfree piece (List.mem_reverse.mp hmem)

theorem filterMap_of_idle (hidle : ∀ piece ∈ idle, IsIdle piece) :
    idle.filterMap Part.ofPiece? = [] :=
  List.filterMap_eq_nil_iff.mpr fun piece hmem => ofPiece?_eq_none_iff.mpr (hidle piece hmem)

theorem start_of_not_isIdle (hn : ¬ IsIdle n) (more : List Text) : start (n :: more) = [] := by
  obtain ⟨hempty, hdot⟩ := not_or.mp hn
  unfold start
  split <;> simp_all

/-- What a path has in front of its last name is its parent, but for idle pieces at the end of either,
and the parent starts where the path does. -/
theorem exists_parent? (hpieces : p.pieces = front ++ n :: idle)
    (hidle : ∀ piece ∈ idle, IsIdle piece) (hn : ¬ IsIdle n) :
    front = [] ∧ p.parent? = some ⟨[]⟩ ∨
      ∃ parent kept dropped more, p.parent? = some parent ∧ parent.text ≠ [] ∧
        start parent.pieces = start p.pieces ∧ front = kept ++ dropped ∧
        parent.pieces = kept ++ more ∧ ∀ piece ∈ dropped ++ more, IsIdle piece := by
  have hdrop : dropIdle p.pieces.reverse = n :: front.reverse := by
    rw [hpieces, List.reverse_append, List.reverse_cons, List.append_assoc]
    exact dropIdle_append (fun piece hmem => hidle piece (List.mem_reverse.mp hmem)) hn
  obtain ⟨hempty, -⟩ := not_or.mp hn
  rcases eq_or_ne front [] with rfl | hfront
  · exact .inl ⟨rfl, by simp [parent?, hdrop]⟩
  · refine .inr ?_
    obtain ⟨dropped, hdropped, hall⟩ := exists_eq_append_dropIdle front.reverse
    have hkept := dropIdle_ne_nil (List.reverse_ne_nil_iff.mpr hfront)
    generalize hrest : dropIdle front.reverse = kept at hdropped hkept
    have hsplit : front = kept.reverse ++ dropped.reverse := by
      rw [← List.reverse_append, ← hdropped, List.reverse_reverse]
    have hwhole : p.pieces = kept.reverse ++ (dropped.reverse ++ n :: idle) := by
      rw [hpieces, hsplit, List.append_assoc]
    by_cases hroot : kept = [[]]
    · -- in front of the name there are slashes only
      subst hroot
      refine ⟨⟨['/']⟩, [[]], dropped.reverse, [[]], by simp [parent?, hdrop, hrest, hfront],
        List.cons_ne_nil _ _, ?_, hsplit, rfl, ?_⟩
      · rw [hwhole]
        cases dropped.reverse <;> rfl
      · simpa [IsIdle, or_imp, forall_and] using hall
    · have hfree : ∀ piece ∈ kept, '/' ∉ piece := fun piece hmem =>
        notMem_of_mem_split (s := p.text) (by rw [← pieces, hwhole]; simp [hmem])
      have hparent := pieces_ofPieces hkept hfree
      refine ⟨ofPieces kept, kept.reverse, dropped.reverse, [],
        by simp [parent?, hdrop, hrest, hfront], fun hempty => ?_, ?_, hsplit,
        by rw [hparent, List.append_nil], by simpa using hall⟩
      · rw [pieces, hempty] at hparent
        have hsingle : kept.reverse = [[]] := hparent.symm
        exact hroot (by simpa using congrArg List.reverse hsingle)
      · rw [hparent, hwhole,
          start_append (List.reverse_ne_nil_iff.mpr hkept) (by simpa using hroot)]

/-- The directory of a file has all parts of its path but the name. -/
theorem exists_parent?_of_fileName? (h : p.fileName? = some n) :
    ∃ parent, p.parent? = some parent ∧ p.parts = parent.parts ++ [.name n] := by
  obtain ⟨front, idle, hpieces, hidle, hname, hparts⟩ := exists_pieces_of_fileName? h
  have hn : ¬ IsIdle n := fun hn => by
    rw [ofPiece?_eq_none_iff.mpr hn] at hname
    cases hname
  obtain ⟨hfront, hparent⟩ | ⟨parent, kept, dropped, more, hparent, -, hstart, hsplit, hkept, hall⟩ :=
    exists_parent? hpieces hidle hn
  · refine ⟨_, hparent, ?_⟩
    rw [hparts, hpieces, hfront, List.nil_append, start_of_not_isIdle hn]
    rfl
  · obtain ⟨hdropped, hmore⟩ := List.forall_mem_append.mp hall
    have hmoves : front.filterMap Part.ofPiece? = parent.moves := by
      rw [moves, hkept, hsplit, List.filterMap_append, List.filterMap_append,
        filterMap_of_idle hdropped, filterMap_of_idle hmore]
    refine ⟨parent, hparent, ?_⟩
    rw [hparts, parts_eq_start, hstart, hmoves, List.append_assoc]

theorem directory_of_parent? (h : p.parent? = some q) (hne : q.text ≠ []) : p.directory = q := by
  rw [directory, h]
  split
  next heq => exact absurd (congrArg Path.text (Option.some.inj heq)) hne
  next heq => cases heq
  next heq => exact (Option.some.inj heq).symm

/-- A file lies in the directory that its name was joined on to. -/
theorem directory_join {last : Text} (hpieces : p.pieces = pieces ++ [last]) (hlast : ¬ IsIdle last)
    (hn : IsStep n) : (p.join ⟨n⟩).directory = p := by
  obtain ⟨hempty, -⟩ := not_or.mp hlast
  have htext : p.text ≠ [] := by
    intro hnone
    have hlone : [] ++ [[]] = pieces ++ [last] := by rwa [Path.pieces, hnone] at hpieces
    obtain ⟨-, heq⟩ := List.append_inj' hlone rfl
    exact hempty (List.singleton_inj.mp heq).symm
  have hjoin : (p.join ⟨n⟩).pieces = pieces ++ [last] ++ [n] := by
    obtain ⟨before, hjoin, hbefore⟩ := exists_pieces_join p
    rw [hjoin n hn.2.2.2, ← hpieces]
    rcases hbefore with hbefore | hbefore
    · rw [hbefore]
    · rw [hpieces] at hbefore
      obtain ⟨-, heq⟩ := List.append_inj' hbefore rfl
      exact absurd (List.singleton_inj.mp heq) hempty
  have hkept : dropIdle (last :: pieces.reverse) = last :: pieces.reverse :=
    dropIdle_append (List.forall_mem_nil IsIdle) hlast
  have hparent : (p.join ⟨n⟩).parent? = some p := by
    have hp : ofPieces (last :: pieces.reverse) = p := by
      rw [ofPieces, List.reverse_cons, List.reverse_reverse, ← hpieces, Path.pieces, join_split]
    simp only [parent?, hjoin, List.reverse_concat, hn.dropIdle_eq, hkept]
    split
    next heq => exact absurd (List.cons.inj heq).1 hempty
    next => rw [hp]
  exact directory_of_parent? hparent htext

/-! ## Spellings -/

variable {a : Text}

/-- What a path starts with is told by what stands in front of its first slash. -/
theorem lead_append_slash (hne : a ≠ []) (b : Text) : lead ⟨a ++ '/' :: b⟩ = lead ⟨a⟩ := by
  unfold lead
  simp only [split_append_cons, List.head?_append_of_ne_nil _ hne,
    List.head?_append_of_ne_nil _ (split_ne_nil '/' a)]

theorem components_append_slash (hne : a ≠ []) (b : Text) :
    components ⟨a ++ '/' :: b⟩ =
      components ⟨a⟩ ++ (split '/' b).filter fun piece => piece ≠ [] ∧ piece ≠ ['.'] := by
  simp only [components, lead_append_slash hne, split_append_cons, List.filter_append,
    List.append_assoc]

theorem components_slash (b : Text) :
    components ⟨'/' :: b⟩ =
      ['/'] :: (split '/' b).filter fun piece => piece ≠ [] ∧ piece ≠ ['.'] := rfl

/-- An idle piece between two slashes counts for nothing. -/
theorem components_append_idle {idle : Text} (hidle : IsIdle idle) (a b : Text) :
    components ⟨a ++ '/' :: (idle ++ '/' :: b)⟩ = components ⟨a ++ '/' :: b⟩ := by
  have hsplit : split '/' (idle ++ '/' :: b) = idle :: split '/' b := by
    rw [split_append_cons]
    rcases hidle with rfl | rfl <;> rfl
  have hdropped : ¬ (idle ≠ [] ∧ idle ≠ ['.']) :=
    not_and_or.mpr (hidle.imp not_not.mpr not_not.mpr)
  by_cases hne : a = []
  · rw [hne, List.nil_append, List.nil_append, components_slash, components_slash, hsplit,
      List.filter_cons_of_neg (by simpa using hdropped)]
  · rw [components_append_slash hne, components_append_slash hne, hsplit,
      List.filter_cons_of_neg (by simpa using hdropped)]

/-- A slash at the end counts for nothing, unless it is all there is. -/
theorem components_concat_slash (hne : a ≠ []) : components ⟨a ++ ['/']⟩ = components ⟨a⟩ := by
  rw [components_append_slash hne]
  exact List.append_nil _

/-- The components of a path that could stand anywhere come last in a path that ends in it. -/
theorem exists_components_append (hrooted : ¬ p.isRooted) (hdot : p.components.head? ≠ some ['.'])
    (front : Text) : ∃ before, components ⟨front ++ '/' :: p.text⟩ = before ++ p.components := by
  have hlead : p.lead = [] := by
    rw [isRooted, beq_iff_eq] at hrooted
    unfold lead
    rw [if_neg hrooted]
    split
    next hhere =>
      refine absurd ?_ hdot
      rw [components, lead, if_neg hrooted, if_pos hhere]
      rfl
    next => rfl
  have hown : p.components = (split '/' p.text).filter fun piece => piece ≠ [] ∧ piece ≠ ['.'] := by
    rw [components, hlead, List.nil_append]
  rw [hown]
  by_cases hne : front = []
  · exact ⟨[['/']], by rw [hne]; rfl⟩
  · exact ⟨components ⟨front⟩, components_append_slash hne _⟩

end SkipChecks.Path
