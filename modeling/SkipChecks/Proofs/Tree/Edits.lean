import SkipChecks.Proofs.Text.Pieces
import SkipChecks.Proofs.Tree.Replace
import SkipChecks.Proofs.Tree.WellFormed

/-!
# Edits keep trees well formed

Directories are made, and files put in place, where a path leads: under a name in a directory. So
every tree that edits make of an empty one is well formed, also where an edit breaks off.
-/

namespace SkipChecks.Tree

variable {t u : Tree} {disk : Disk} {p : Path} {l m : Location} {n : Text}

/-! ## Where paths lead -/

/-- A piece of a path that the system takes has neither slashes nor the character that ends
texts. -/
theorem notMem_of_mem_pieces (hfault : p.fault? = none) (hn : n ∈ p.pieces) :
    '/' ∉ n ∧ '\x00' ∉ n := by
  refine ⟨Text.notMem_of_mem_split hn, fun hend => ?_⟩
  have hbroken : p.isBroken = true :=
    List.any_eq_true.mpr ⟨'\x00', (Text.infix_of_mem_split hn).subset hend, by simp⟩
  rw [Path.fault?, if_pos hbroken] at hfault
  cases hfault

/-- A step to something that is no directory goes from a directory to a name in it. -/
theorem exists_of_step (hwell : t.WellFormed) (h : t.step m n = .ok l)
    (hl : t.find? l ≠ some .directory) (hn : '/' ∉ n ∧ '\x00' ∉ n) :
    l = m ++ [n] ∧ IsName n ∧ t.find? m = some .directory := by
  have hfind := find?_of_step h
  simp only [step, hfind] at h
  split at h
  next => cases h; exact absurd hfind hl
  next => cases h; exact absurd hfind hl
  next =>
    -- one step up from a directory lies a directory
    cases h
    obtain rfl | ⟨above, last, rfl⟩ := List.eq_nil_or_concat m
    · exact absurd hfind hl
    · rw [List.concat_eq_append] at hfind hl
      rw [List.dropLast_concat] at hl
      exact absurd (hwell.of_find?_concat hfind).1 hl
  next hempty hdot hdots =>
    split at h
    next hlength =>
      cases h
      exact ⟨rfl, ⟨hempty, hdot, hdots, hn.1, hn.2, hlength⟩, hfind⟩
    next => cases h

/-- A path that leads to something that is no directory leads to a name in a directory. -/
theorem exists_of_resolve (hwell : t.WellFormed) (h : t.resolve p = .ok l)
    (hl : t.find? l ≠ some .directory) :
    ∃ before above n, p.pieces = before ++ [n] ∧ t.follow p before = .ok above ∧
      l = above ++ [n] ∧ IsName n ∧ t.find? above = some .directory := by
  rw [resolve] at h
  split at h
  next => cases h
  next hfault =>
    obtain hpieces | ⟨before, n, hpieces⟩ := List.eq_nil_or_concat p.pieces
    · exact absurd hpieces (Text.split_ne_nil '/' p.text)
    · rw [List.concat_eq_append] at hpieces
      have hn := notMem_of_mem_pieces hfault (n := n) (by simp [hpieces])
      rw [hpieces] at h
      obtain ⟨above, hplace, -⟩ := exists_of_follow_append h
      rw [follow_concat hplace] at h
      obtain ⟨hl, hname, hfind⟩ := exists_of_step hwell h hl hn
      exact ⟨before, above, n, hpieces, hplace, hl, hname, hfind⟩

namespace WellFormed

/-! ## Edits -/

/-- A file can be put where a path leads, unless a directory is there. -/
theorem put_of_resolve (hwell : t.WellFormed) (h : t.resolve p = .ok l)
    (hfile : t.find? l ≠ some .directory) (content : Bytes) :
    (t.put l (.file content)).WellFormed := by
  obtain ⟨-, above, n, -, -, rfl, hn, hparent⟩ := exists_of_resolve hwell h hfile
  exact hwell.put hparent hn fun hdirectory => absurd hdirectory hfile

theorem replaceFile (hwell : t.WellFormed) (disk : Disk) (p : Path) (content : Bytes) :
    (t.replaceFile disk p content).2.WellFormed := by
  rcases replaceFile_cases disk t p content with ⟨failure, hfailed⟩ | ⟨l, hresolve, hfile, hdone⟩
  · rwa [hfailed]
  · rw [hdone]
    exact hwell.put_of_resolve hresolve hfile content

theorem makeDirectory (hwell : t.WellFormed) (h : t.makeDirectory disk p = .ok u) :
    u.WellFormed := by
  obtain ⟨n, above, l, hfault, hlast, -, hstep, hfree, rfl⟩ := exists_of_makeDirectory h
  obtain ⟨after, hpieces⟩ := Path.exists_pieces_eq_of_cut hlast
  have hn := notMem_of_mem_pieces hfault (n := n) (by simp [hpieces])
  obtain ⟨rfl, hname, hparent⟩ := exists_of_step hwell hstep (by simp [hfree]) hn
  exact hwell.put hparent hname fun _ => rfl

theorem ensureDirectory (hwell : t.WellFormed) (p : Path) :
    (t.ensureDirectory disk p).2.WellFormed := by
  rw [Tree.ensureDirectory]
  split
  next hmade => exact hwell.makeDirectory hmade
  next => exact hwell

theorem makeChain (hwell : t.WellFormed) (above : List Path) :
    (t.makeChain disk above).2.WellFormed := by
  induction above with
  | nil => exact hwell
  | cons p above ih =>
      rw [Tree.makeChain]
      split
      next =>
        split
        next hmade =>
          rw [hmade] at ih
          exact ih.ensureDirectory p
        next hmade => rwa [hmade] at ih
      next => exact hwell.ensureDirectory p

theorem makeDirectories (hwell : t.WellFormed) (disk : Disk) (p : Path) :
    (t.makeDirectories disk p).2.WellFormed :=
  hwell.makeChain p.ancestors

end WellFormed

end SkipChecks.Tree
