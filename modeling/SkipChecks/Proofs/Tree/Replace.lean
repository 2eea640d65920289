import SkipChecks.Proofs.Basic
import SkipChecks.Tree.Replacement

/-!
# Replaced files

Replacing a file either fails and leaves the tree as it was, without the temporary file that was made
on the way, or puts the new content where the path leads and changes nothing else. The path still
leads there then: the way goes through directories only, and no directory is put over.
-/

namespace SkipChecks

/-- A path is its front, its last piece, and the slashes that follow. -/
theorem Path.exists_pieces_eq_of_cut {p : Path} {n : Text} (h : p.cut.last = some n) :
    ∃ after, p.pieces = p.cut.before ++ n :: after := by
  rw [cut] at h ⊢
  obtain ⟨others, hothers⟩ := List.head?_eq_some_iff.mp h
  have hsplit := List.takeWhile_append_dropWhile (p := (·.isEmpty)) (l := p.pieces.reverse)
  rw [hothers] at hsplit ⊢
  generalize p.pieces.reverse.takeWhile (·.isEmpty) = slashes at hsplit
  refine ⟨slashes.reverse, ?_⟩
  rw [← List.reverse_reverse p.pieces, ← hsplit]
  simp

/-- A path that no slash follows is its front and its last piece. -/
theorem Path.pieces_eq_of_cut {p : Path} {n : Text} (hlast : p.cut.last = some n)
    (hslashed : p.cut.slashed = false) : p.pieces = p.cut.before ++ [n] := by
  have hlength : ¬(p.pieces.reverse.dropWhile (·.isEmpty)).length < p.pieces.reverse.length :=
    of_decide_eq_false hslashed
  have hall : p.pieces.reverse.dropWhile (·.isEmpty) = p.pieces.reverse :=
    (List.dropWhile_suffix _).eq_of_length_le (Nat.le_of_not_lt hlength)
  rw [cut, hall] at hlast ⊢
  obtain ⟨others, hpieces⟩ := List.head?_eq_some_iff.mp hlast
  rw [← List.reverse_reverse p.pieces, hpieces]
  simp

namespace Tree

variable {t u : Tree} {disk : Disk} {p : Path} {l m next : Location} {e f : Entry} {piece : Text}

/-- Only a directory is stepped from. -/
theorem find?_of_step (h : t.step l piece = .ok next) : t.find? l = some .directory := by
  unfold step at h
  split at h
  next => cases h
  next => cases h
  next hfind => exact hfind

theorem eq_of_step_nil (h : t.step l [] = .ok next) : next = l := by
  simp only [step, find?_of_step h] at h
  cases h
  rfl

/-! ## Entries put and taken away -/

theorem ne_nil_of_find? (h : t.find? l ≠ some .directory) : l ≠ [] := by
  rintro rfl
  exact h rfl

theorem putEntry_putEntry (l : Location) (e f : Entry) (entries : List (Location × Entry)) :
    putEntry l f (putEntry l e entries) = putEntry l f entries := by
  have hself : ¬ l < l := List.lt_irrefl l
  induction entries with
  | nil => simp [putEntry, hself]
  | cons entry rest ih =>
      obtain ⟨k, g⟩ := entry
      by_cases hlt : l < k
      · simp [putEntry, hlt, hself]
      · by_cases heq : l = k
        · subst heq
          simp [putEntry, hself]
        · simp [putEntry, hlt, heq, ih]

/-- Of two puts at a location the second one counts. -/
theorem put_put (t : Tree) (l : Location) (e f : Entry) : (t.put l e).put l f = t.put l f := by
  simp only [put, putEntry_putEntry]

theorem filter_putEntry {entries : List (Location × Entry)} (h : ∀ entry ∈ entries, entry.1 ≠ l)
    (e : Entry) : (putEntry l e entries).filter (·.1 ≠ l) = entries := by
  induction entries with
  | nil => simp [putEntry]
  | cons entry rest ih =>
      obtain ⟨k, g⟩ := entry
      obtain ⟨hk, hrest⟩ := List.forall_mem_cons.mp h
      have hkept : rest.filter (·.1 ≠ l) = rest := List.filter_eq_self.mpr (by simpa using hrest)
      rw [putEntry]
      split
      next => rw [List.filter_cons_of_neg (by simp), List.filter_cons_of_pos (by simpa using hk), hkept]
      next =>
        rw [if_neg (Ne.symm hk), List.filter_cons_of_pos (by simpa using hk), ih hrest]

/-- What is put where nothing was can be taken away again. -/
theorem erase_put (h : t.find? l = none) (e : Entry) : (t.put l e).erase l = t := by
  have hl : l ≠ [] := by
    rintro rfl
    cases h
  have hnew : ∀ entry ∈ t.entries, entry.1 ≠ l := by
    rintro ⟨k, g⟩ hentry rfl
    rw [find?_of_ne_nil hl, List.lookup_eq_none_iff] at h
    exact absurd (h _ hentry) (by simp)
  simp only [erase, put, filter_putEntry hnew]

theorem move_put (h : t.find? l = none) (e : Entry) (m : Location) :
    (t.put l e).move l m = t.put m e := by
  have hl : l ≠ [] := by
    rintro rfl
    cases h
  simp only [move, find?_put hl, if_pos, erase_put h]

/-! ## Paths after a put -/

theorem step_put (hput : t.find? l ≠ some .directory) (h : t.step m piece = .ok next) :
    (t.put l e).step m piece = .ok next := by
  -- what is stepped from is a directory, so nothing was put there
  have hne : m ≠ l := by
    rintro rfl
    exact hput (find?_of_step h)
  unfold step at h ⊢
  rwa [find?_put (ne_nil_of_find? hput), if_neg hne]

/-- What is no directory opens no way. -/
theorem step_of_put (hput : t.find? l ≠ some .directory) (he : e ≠ .directory)
    (h : (t.put l e).step m piece = .ok next) : t.step m piece = .ok next := by
  have hfind := find?_of_step h
  have hne : m ≠ l := by
    rintro rfl
    rw [find?_put (ne_nil_of_find? hput), if_pos rfl] at hfind
    exact he (Option.some.inj hfind)
  unfold step at h ⊢
  rwa [find?_put (ne_nil_of_find? hput), if_neg hne] at h

/-- Where every step of one tree is one of another, a path leads on alike. -/
theorem foldlM_step_imp (hstep : ∀ m piece next, t.step m piece = .ok next → u.step m piece = .ok next)
    {pieces : List Text} (h : pieces.foldlM t.step m = .ok next) :
    pieces.foldlM u.step m = .ok next := by
  induction pieces generalizing m with
  | nil => exact h
  | cons piece pieces ih =>
      rw [List.foldlM_cons] at h ⊢
      obtain ⟨middle, hfirst, h⟩ := exists_of_bind h
      rw [hstep m piece middle hfirst]
      exact ih h

theorem foldlM_step_put (hput : t.find? l ≠ some .directory) {pieces : List Text}
    (h : pieces.foldlM t.step m = .ok next) : pieces.foldlM (t.put l e).step m = .ok next :=
  foldlM_step_imp (fun _ _ _ => step_put hput) h

theorem resolve_imp (hhome : u.home = t.home)
    (hstep : ∀ m piece next, t.step m piece = .ok next → u.step m piece = .ok next)
    (h : t.resolve p = .ok m) : u.resolve p = .ok m := by
  rw [resolve] at h ⊢
  split at h
  next => cases h
  next =>
    rw [follow] at h ⊢
    rw [hhome]
    exact foldlM_step_imp hstep h

/-- A path leads where it led before, whatever is put at a place without a directory. -/
theorem resolve_put (hput : t.find? l ≠ some .directory) (h : t.resolve p = .ok m) :
    (t.put l e).resolve p = .ok m :=
  resolve_imp (put_home t l e) (fun _ _ _ => step_put hput) h

theorem resolve_of_put (hput : t.find? l ≠ some .directory) (he : e ≠ .directory)
    (h : (t.put l e).resolve p = .ok m) : t.resolve p = .ok m :=
  resolve_imp (put_home t l e).symm (fun _ _ _ => step_of_put hput he) h

/-! ## What edits come to -/

theorem follow_of_holder {cut : Path.Cut} (h : t.holder p cut = .ok m) :
    t.follow p cut.before = .ok m := by
  obtain ⟨before, hfollow, hstep⟩ := exists_of_bind h
  rw [eq_of_step_nil hstep, hfollow]

theorem follow_of_resolve (h : t.resolve p = .ok l) : t.follow p p.pieces = .ok l := by
  rw [resolve] at h
  split at h
  next => cases h
  next => exact h

/-- A path is followed to where its front leads, and on from there. -/
theorem exists_of_follow_append {before after : List Text}
    (h : t.follow p (before ++ after) = .ok l) :
    ∃ m, t.follow p before = .ok m ∧ after.foldlM t.step m = .ok l := by
  rw [follow, List.foldlM_append] at h
  exact exists_of_bind h

/-- A path that leads on starts in a directory. -/
theorem find?_of_foldlM {pieces : List Text} (hne : pieces ≠ [])
    (h : pieces.foldlM t.step l = .ok m) : t.find? l = some .directory := by
  obtain ⟨piece, others, rfl⟩ := List.exists_cons_of_ne_nil hne
  obtain ⟨next, hstep, -⟩ := exists_of_bind h
  exact find?_of_step hstep

theorem follow_concat {before : List Text} (h : t.follow p before = .ok m) :
    t.follow p (before ++ [piece]) = t.step m piece := by
  rw [follow] at h ⊢
  rw [List.foldlM_append, h]
  exact bind_pure (t.step m piece)

/-- A directory is made at a free place, to which a name leads. -/
theorem exists_of_makeDirectory (h : t.makeDirectory disk p = .ok u) :
    ∃ n above l, p.fault? = none ∧ p.cut.last = some n ∧ t.follow p p.cut.before = .ok above ∧
      t.step above n = .ok l ∧ t.find? l = none ∧ u = t.put l .directory := by
  simp only [makeDirectory] at h
  split at h
  next => cases h
  next hfault =>
    obtain ⟨above, hholder, h⟩ := exists_of_bind h
    split at h
    next => cases h
    next => cases h
    next => cases h
    next n _ _ hlast =>
      obtain ⟨l, hstep, h⟩ := exists_of_bind h
      split at h
      next => cases h
      next hfree =>
        split at h
        next => cases h
        next =>
          cases h
          exact ⟨n, above, l, Option.eq_none_iff_forall_ne_some.mpr hfault, hlast,
            follow_of_holder hholder, hstep, by simpa using hfree, rfl⟩

/-- A file is moved to where a path leads, and not over a directory. -/
theorem exists_of_moveFile {source : Location} (h : t.moveFile disk source p = .ok u) :
    ∃ l, t.resolve p = .ok l ∧ t.find? l ≠ some .directory ∧ u = t.move source l := by
  simp only [moveFile] at h
  split at h
  next => cases h
  next hfault =>
    obtain ⟨above, hholder, h⟩ := exists_of_bind h
    split at h
    next => cases h
    next => cases h
    next => cases h
    next n _ _ hlast =>
      obtain ⟨l, hstep, h⟩ := exists_of_bind h
      split at h
      next => cases h
      next hslashed =>
        split at h
        next => cases h
        next =>
          split at h
          next => cases h
          next hput =>
            cases h
            refine ⟨l, ?_, hput, rfl⟩
            -- without a slash at the end, the last piece is all that the holder leaves
            have hpieces := Path.pieces_eq_of_cut hlast (by simpa using hslashed)
            rw [resolve, Option.eq_none_iff_forall_ne_some.mpr hfault]
            dsimp only
            rw [hpieces, follow_concat (follow_of_holder hholder), hstep]

/-- A temporary file is made at a free place. -/
theorem exists_of_createTemporary {made : Location × Tree}
    (h : t.createTemporary disk p = .ok made) :
    t.find? made.1 = none ∧ made.2 = t.put made.1 (.file .empty) := by
  obtain ⟨directory, -, h⟩ := exists_of_bind h
  dsimp only at h
  split at h
  next => cases h
  next l _ =>
    split at h
    next => cases h
    next hfree =>
      split at h
      next => cases h
      next =>
        cases h
        exact ⟨by simpa using hfree, rfl⟩

theorem eq_put_of_fillTemporary {content : Bytes} (h : t.fillTemporary disk p l content = .ok u) :
    u = t.put l (.file content) := by
  simp only [fillTemporary, bind, Except.bind, pure, Except.pure] at h
  split at h
  next => cases h
  next =>
    split at h
    next =>
      split at h
      next => cases h
      next => exact (Except.ok.inj h).symm
    next => exact (Except.ok.inj h).symm

/-! ## Replaced files -/

/-- Replacing a file fails and leaves the tree as it was, or puts the content where the path leads. -/
theorem replaceFile_cases (disk : Disk) (t : Tree) (p : Path) (content : Bytes) :
    (∃ failure, t.replaceFile disk p content = (.error failure, t)) ∨
      ∃ l, t.resolve p = .ok l ∧ t.find? l ≠ some .directory ∧
        t.replaceFile disk p content = (.ok (), t.put l (.file content)) := by
  unfold replaceFile
  split
  next => exact .inl ⟨_, rfl⟩
  next m created hcreated =>
    -- nothing was where the temporary file is made, so taking it away brings the tree back
    obtain ⟨hfree, hmade⟩ := exists_of_createTemporary hcreated
    dsimp only at hfree hmade
    subst hmade
    split
    next => exact .inl ⟨_, by rw [erase_put hfree]⟩
    next filled hfilled =>
      have hfilled := eq_put_of_fillTemporary hfilled
      rw [put_put] at hfilled
      subst hfilled
      split
      next => exact .inl ⟨_, by rw [erase_put hfree]⟩
      next moved hmoved =>
        obtain ⟨l, hresolve, hput, rfl⟩ := exists_of_moveFile hmoved
        have hm : t.find? m ≠ some .directory := by simp [hfree]
        refine .inr ⟨l, resolve_of_put hm (by simp) hresolve, ?_, by rw [move_put hfree]⟩
        rintro hdirectory
        refine hput ?_
        rw [find?_put (ne_nil_of_find? hm), if_neg, hdirectory]
        rintro rfl
        exact hm hdirectory

/-- A file is put where its path leads, and not over a directory. -/
theorem exists_of_replaceFile {content : Bytes} (h : t.replaceFile disk p content = (.ok (), u)) :
    ∃ l, t.resolve p = .ok l ∧ t.find? l ≠ some .directory ∧ u = t.put l (.file content) := by
  rcases replaceFile_cases disk t p content with ⟨failure, hfailed⟩ | ⟨l, hresolve, hput, hdone⟩
  · rw [hfailed] at h
    cases h
  · rw [hdone] at h
    exact ⟨l, hresolve, hput, (Prod.mk.inj h).2.symm⟩

/-- A file is read as a text when it holds the UTF-8 form of that text. -/
theorem readText_eq_ok_iff {s : Text} :
    t.readText p = .ok s ↔ t.read p = .ok (Bytes.ofText s) := by
  unfold readText
  cases t.read p with
  | error fault => simp
  | ok content =>
      rw [Except.ok.injEq, ← Bytes.text?_eq_some_iff]
      dsimp only
      split <;> simp_all

/-- A file that is put where a path leads is read through the path. -/
theorem read_put (hput : t.find? l ≠ some .directory) (h : t.resolve p = .ok l)
    (content : Bytes) : (t.put l (.file content)).read p = .ok content := by
  rw [read, resolve_put hput h]
  simp only [find?_put (ne_nil_of_find? hput), if_pos]

theorem read_of_replaceFile {content : Bytes} (h : t.replaceFile disk p content = (.ok (), u)) :
    u.read p = .ok content := by
  obtain ⟨l, hresolve, hput, rfl⟩ := exists_of_replaceFile h
  exact read_put hput hresolve content

end Tree

end SkipChecks
