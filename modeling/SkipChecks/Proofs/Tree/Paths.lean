import SkipChecks.Proofs.Path.Names
import SkipChecks.Proofs.Tree.Edits

/-!
# Paths of the entries below a directory

A path that leads to a directory, with the names of an entry joined on, leads to that entry, as long
as the system takes a path of that length. No other fault is added.
-/

namespace SkipChecks

variable {t : Tree} {root p q : Path} {l m : Location} {n : Text} {names : List Text}
  {e : Entry}

namespace Path

open Text

/-- Nothing but its length can be wrong with a path. -/
def Sound (p : Path) : Prop := p.isBroken = false ∧ p.text ≠ []

theorem sound_of_resolve (h : t.resolve root = .ok l) :
    root.Sound ∧ byteLength root.text ≤ longest := by
  rw [Tree.resolve] at h
  split at h
  next => cases h
  next hfault =>
    rw [fault?] at hfault
    split at hfault
    next => cases hfault
    next hbroken =>
      split at hfault
      next => cases hfault
      next hne =>
        split at hfault
        next => cases hfault
        next hlength => exact ⟨⟨Bool.eq_false_iff.mpr hbroken, hne⟩, Nat.not_lt.mp hlength⟩

theorem Sound.notMem (h : p.Sound) : '\x00' ∉ p.text :=
  fun hmem => List.any_eq_false.mp h.1 _ hmem rfl

theorem Sound.fault?_eq (h : root.Sound) :
    root.fault? = if longest < byteLength root.text then some .nameTooLong else none := by
  rw [fault?, if_neg (by simp [h.1]), if_neg h.2]

/-- Joining a path on adds no fault but that of length, and leaves the start as it is. -/
theorem Sound.join_path (h : root.Sound) (hq : q.isRooted = false) (hend : '\x00' ∉ q.text) :
    (root.join q).Sound ∧ byteLength root.text ≤ byteLength (root.join q).text ∧
      (root.join q).isRooted = root.isRooted := by
  obtain ⟨hbroken, hne⟩ := h
  have hjoin := text_join hne hq
  generalize hback : (if root.text.getLast? = some '/' then q.text else '/' :: q.text) = back
    at hjoin
  have hfree : '\x00' ∉ back := by
    rw [← hback]
    split
    · exact hend
    · simpa using hend
  refine ⟨⟨?_, by simp [hjoin, hne]⟩, by simp [hjoin], ?_⟩
  · rw [isBroken, hjoin, List.any_append, Bool.or_eq_false_iff]
    refine ⟨hbroken, List.any_eq_false.mpr fun c hc heq => hfree ?_⟩
    rwa [beq_iff_eq.mp heq] at hc
  · rw [isRooted, isRooted, hjoin, List.head?_append_of_ne_nil _ hne]

theorem Sound.join (h : root.Sound) (hn : Tree.IsName n) :
    (root.join ⟨n⟩).Sound ∧ byteLength root.text ≤ byteLength (root.join ⟨n⟩).text ∧
      (root.join ⟨n⟩).isRooted = root.isRooted :=
  h.join_path (isRooted_of_notMem hn.2.2.2.1) hn.2.2.2.2.1

theorem Sound.under (h : root.Sound) (hnames : ∀ n ∈ names, Tree.IsName n) :
    (root.under names).Sound ∧ byteLength root.text ≤ byteLength (root.under names).text := by
  induction names generalizing root with
  | nil => exact ⟨h, Nat.le_refl _⟩
  | cons n names ih =>
      obtain ⟨hjoin, hlonger, -⟩ := h.join (hnames n List.mem_cons_self)
      obtain ⟨hunder, hlongest⟩ := ih hjoin fun m hm => hnames m (List.mem_cons_of_mem n hm)
      exact ⟨hunder, hlonger.trans hlongest⟩

end Path

namespace Tree

open Path

theorem step_name (hfind : t.find? l = some .directory) (hn : IsName n) :
    t.step l n = .ok (l ++ [n]) := by
  obtain ⟨hne, hdot, hdots, -, -, hlength⟩ := hn
  simp only [step, hfind]
  split <;> simp_all

/-- In front of a path that is joined on, a path leads where it led before. -/
theorem follow_join (hroot : t.resolve root = .ok l) (hq : q.isRooted = false)
    (hend : '\x00' ∉ q.text) :
    ∃ before, (root.join q).pieces = before ++ q.pieces ∧ t.follow (root.join q) before = .ok l := by
  obtain ⟨hsound, hshort⟩ := sound_of_resolve hroot
  obtain ⟨-, -, hrooted⟩ := hsound.join_path hq hend
  obtain ⟨before, hpieces, hbefore⟩ := exists_pieces_join_of_unrooted root
  refine ⟨before, hpieces q hq, ?_⟩
  rw [follow, hrooted, ← follow]
  rw [resolve, hsound.fault?_eq, if_neg (Nat.not_lt.mpr hshort)] at hroot
  dsimp only at hroot
  rcases hbefore with hbefore | hbefore
  · rwa [hbefore] at hroot
  · -- the piece behind the last slash leads nowhere else
    rw [hbefore] at hroot
    obtain ⟨m, hplace, hlast⟩ := exists_of_follow_append hroot
    obtain ⟨next, hstep, hnext⟩ := exists_of_bind hlast
    cases hnext
    rw [hplace, eq_of_step_nil hstep]

/-- A path that is joined on is followed from where the path in front leads. -/
theorem resolve_join (hroot : t.resolve root = .ok l) (hq : q.isRooted = false)
    (hend : '\x00' ∉ q.text) (hlength : Text.byteLength (root.join q).text ≤ longest) :
    t.resolve (root.join q) = q.pieces.foldlM t.step l := by
  obtain ⟨hjoin, -, -⟩ := (sound_of_resolve hroot).1.join_path hq hend
  obtain ⟨before, hpieces, hstart⟩ := follow_join hroot hq hend
  rw [follow] at hstart
  rw [resolve, hjoin.fault?_eq, if_neg (Nat.not_lt.mpr hlength)]
  dsimp only
  rw [follow, hpieces, List.foldlM_append, hstart]
  rfl

theorem resolve_join_name (hroot : t.resolve root = .ok l) (hfind : t.find? l = some .directory)
    (hn : IsName n) (hlength : Text.byteLength (root.join ⟨n⟩).text ≤ longest) :
    t.resolve (root.join ⟨n⟩) = .ok (l ++ [n]) := by
  have hpieces : (Path.mk n).pieces = [n] := Text.split_of_notMem hn.2.2.2.1
  rw [resolve_join hroot (isRooted_of_notMem hn.2.2.2.1) hn.2.2.2.2.1 hlength, hpieces,
    List.foldlM_cons, step_name hfind hn]
  rfl

/-- The path of an entry leads to it, unless it is too long. -/
theorem resolve_under (hwell : t.WellFormed) (hroot : t.resolve root = .ok l)
    (hfind : t.find? (l ++ names) = some e)
    (hlength : Text.byteLength (root.under names).text ≤ longest) :
    t.resolve (root.under names) = .ok (l ++ names) := by
  induction names generalizing root l with
  | nil => rwa [List.append_nil]
  | cons n names ih =>
      have hnames : ∀ m ∈ n :: names, IsName m := fun m hm =>
        hwell.isName_of_mem hfind (List.mem_append_right l hm)
      have hn := hnames n List.mem_cons_self
      have hdirectory := hwell.find?_of_append (List.cons_ne_nil n names) hfind
      obtain ⟨hjoin, -⟩ := (sound_of_resolve hroot).1.join hn
      obtain ⟨-, hlonger⟩ := hjoin.under fun m hm => hnames m (List.mem_cons_of_mem n hm)
      rw [under_cons] at hlength ⊢
      rw [List.append_cons] at hfind ⊢
      exact ih (resolve_join_name hroot hdirectory hn (hlonger.trans hlength)) hfind hlength

/-! ## Files -/

theorem exists_of_read {content : Bytes} (h : t.read root = .ok content) :
    ∃ l, t.resolve root = .ok l ∧ t.find? l = some (.file content) := by
  unfold read at h
  split at h
  next l hresolve =>
    split at h
    next hfind =>
      cases h
      exact ⟨l, hresolve, hfind⟩
    next => cases h
    next => cases h
  next => cases h

theorem read_of_resolve {content : Bytes} (hresolve : t.resolve root = .ok l)
    (hfind : t.find? l = some (.file content)) : t.read root = .ok content := by
  rw [read, hresolve]
  simp only [hfind]

/-- A file is read through its path, unless the path is too long or the file holds no text. -/
theorem readText_under (hwell : t.WellFormed) (hroot : t.resolve root = .ok l)
    {content : Bytes} (hfind : t.find? (l ++ names) = some (.file content)) :
    t.readText (root.under names) =
      if longest < Text.byteLength (root.under names).text then .error .nameTooLong
      else content.text?.elim (.error .notText) .ok := by
  have hnames : ∀ n ∈ names, IsName n := fun n hn =>
    hwell.isName_of_mem hfind (List.mem_append_right l hn)
  obtain ⟨hunder, -⟩ := (sound_of_resolve hroot).1.under hnames
  split
  next hlong => rw [readText, read, resolve, hunder.fault?_eq, if_pos hlong]
  next hshort =>
    rw [readText, read_of_resolve (resolve_under hwell hroot hfind (Nat.not_lt.mp hshort)) hfind]
    dsimp only
    cases content.text? <;> rfl

theorem holder_of_follow {cut : Path.Cut} (h : t.follow root cut.before = .ok l)
    (hfind : t.find? l = some .directory) : t.holder root cut = .ok l := by
  rw [holder, h]
  change t.step l [] = _
  simp only [step, hfind]

/-- A file is moved to where a name in a directory leads, over what is no directory. -/
theorem moveFile_of_follow (hfault : root.fault? = none) {before : List Text}
    (hpieces : root.pieces = before ++ [n]) (hstart : t.follow root before = .ok l)
    (hfind : t.find? l = some .directory) (hn : IsName n)
    (hfile : t.find? (l ++ [n]) ≠ some .directory) (disk : Disk) (source : Location) :
    t.moveFile disk source root =
      match disk.refusal? .rename root with
      | some fault => .error fault
      | none => .ok (t.move source (l ++ [n])) := by
  have hcut : root.cut = ⟨before, some n, false⟩ := by
    simp [cut, hpieces, hn.1]
  have hholder : t.holder root ⟨before, some n, false⟩ = .ok l := holder_of_follow hstart hfind
  rw [moveFile, hfault, hcut]
  simp only [hholder, bind, Except.bind, pure, Except.pure]
  split
  next hlast => cases hlast
  next hlast => exact absurd (Option.some.inj hlast) hn.2.1
  next hlast => exact absurd (Option.some.inj hlast) hn.2.2.1
  next hlast =>
    obtain rfl := Option.some.inj hlast
    rw [step_name hfind hn]
    dsimp only
    rw [if_neg Bool.false_ne_true]
    cases disk.refusal? .rename root with
    | some fault => rfl
    | none =>
        dsimp only
        split
        next hdirectory => exact absurd hdirectory hfile
        next => rfl

/-! ## Paths from the root on -/

/-- A path that leads on from the working directory needs one. -/
theorem find?_home_of_follow (hrooted : ¬ p.isRooted) (hfollow : t.follow p before = .ok l)
    (hfind : t.find? l = some .directory) : t.find? t.home = some .directory := by
  rw [follow, if_neg hrooted] at hfollow
  rcases eq_or_ne before [] with rfl | hne
  · cases hfollow
    exact hfind
  · exact find?_of_foldlM hne hfollow

theorem sound_homePath (hwell : t.WellFormed) (hhome : t.find? t.home = some .directory) :
    t.homePath.Sound := by
  have hroot : (Path.mk ['/']).Sound := ⟨rfl, by simp⟩
  exact (hroot.under fun _ hn => hwell.isName_of_mem hhome hn).1

theorem sound_join_homePath (hwell : t.WellFormed) (hq : q.Sound)
    (hstart : q.isRooted ∨ t.find? t.home = some .directory) : (t.homePath.join q).Sound := by
  by_cases hrooted : q.isRooted
  · rwa [Path.join, if_pos (.inl hrooted)]
  · have hhome := sound_homePath hwell (hstart.resolve_left hrooted)
    exact (hhome.join_path (Bool.eq_false_iff.mpr hrooted) hq.notMem).1

/-- A path leads to the same place when it is told from the root on. -/
theorem resolve_join_homePath (hwell : t.WellFormed) (hq : q.Sound)
    (hstart : q.isRooted ∨ t.find? t.home = some .directory)
    (hlength : Text.byteLength (t.homePath.join q).text ≤ longest) :
    t.resolve (t.homePath.join q) = t.follow q q.pieces := by
  by_cases hrooted : q.isRooted
  · have hjoin : t.homePath.join q = q := by rw [Path.join, if_pos (.inl hrooted)]
    rw [hjoin] at hlength ⊢
    rw [resolve, hq.fault?_eq, if_neg (Nat.not_lt.mpr hlength)]
  · have hhome := hstart.resolve_left hrooted
    have hunrooted := Bool.eq_false_iff.mpr hrooted
    obtain ⟨-, hlonger, -⟩ := (sound_homePath hwell hhome).join_path hunrooted hq.notMem
    have hroot : t.resolve ⟨['/']⟩ = .ok [] := rfl
    have hreach : t.resolve t.homePath = .ok t.home :=
      resolve_under hwell hroot hhome (hlonger.trans hlength)
    rw [resolve_join hreach hunrooted hq.notMem hlength, follow, if_neg hrooted]

/-- A path that something is read through starts in a directory. -/
theorem start_of_readText {s : Text} (hread : t.readText q = .ok s) :
    q.isRooted ∨ t.find? t.home = some .directory := by
  obtain ⟨l, hresolve, -⟩ := exists_of_read (readText_eq_ok_iff.mp hread)
  have hfollow := follow_of_resolve hresolve
  by_cases hrooted : q.isRooted
  · exact .inl hrooted
  · rw [follow, if_neg hrooted] at hfollow
    exact .inr (find?_of_foldlM (Text.split_ne_nil '/' q.text) hfollow)

/-- Whatever is read through a path is read through it as told from the root on. -/
theorem readText_join_homePath (hwell : t.WellFormed) {s : Text} (hread : t.readText q = .ok s)
    (hlength : Text.byteLength (t.homePath.join q).text ≤ longest) :
    t.readText (t.homePath.join q) = .ok s := by
  have hstart := start_of_readText hread
  rw [readText_eq_ok_iff] at hread ⊢
  obtain ⟨l, hresolve, hfind⟩ := exists_of_read hread
  refine read_of_resolve ?_ hfind
  rw [resolve_join_homePath hwell (sound_of_resolve hresolve).1 hstart hlength,
    follow_of_resolve hresolve]

end Tree

end SkipChecks
