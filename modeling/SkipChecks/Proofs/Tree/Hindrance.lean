import SkipChecks.Proofs.Path.Components
import SkipChecks.Proofs.Text.ByteOrder
import SkipChecks.Proofs.Tree.Paths

/-!
# What keeps a file from being replaced

A file that can be read can be replaced as well, unless the path of the temporary file is too long,
its name is taken, or the disk refuses one of the steps. Which of these it is does not depend on what
the files of the tree hold.
-/

namespace SkipChecks

variable {t : Tree} {disk : Disk} {p q : Path} {l m next : Location} {n : Text}
  {before idle : List Text}

/-! ## The directory of a path -/

namespace Path

open Text

/-- The root shows in the pieces: an empty one in front of others. -/
theorem isRooted_iff_start : p.isRooted ↔ start p.pieces = [.root] := by
  obtain ⟨_ | ⟨c, s⟩⟩ := p
  · simp [isRooted, start, pieces, split]
  · obtain ⟨piece, others, hs⟩ := List.exists_cons_of_ne_nil (split_ne_nil '/' s)
    by_cases hc : c = '/'
    · simp [isRooted, pieces, split, hc, hs, start]
    · have hstart : start ((c :: piece) :: others) ≠ [.root] := by
        unfold start
        split <;> simp_all
      simpa [isRooted, pieces, split, hc, hs] using hstart

/-- The directory of a path has the pieces in front of the name, but for idle ones at their end, and
it starts where the path does. -/
theorem exists_directory (hpieces : p.pieces = before ++ [n]) (hn : IsStep n) :
    p.directory.isRooted = p.isRooted ∧ ∃ kept idle more, before = kept ++ idle ∧
      p.directory.pieces = kept ++ more ∧ ∀ piece ∈ idle ++ more, IsIdle piece := by
  have hidle : ¬ IsIdle n := not_or.mpr ⟨hn.1, hn.2.1⟩
  obtain ⟨rfl, hparent⟩ | ⟨parent, kept, idle, more, hparent, hne, hstart, hsplit, hkept, hall⟩ :=
    exists_parent? hpieces (List.forall_mem_nil IsIdle) hidle
  · -- the name stands alone
    have hdirectory : p.directory = ⟨['.']⟩ := by rw [directory, hparent]
    refine ⟨?_, [], [], [['.']], rfl, by rw [hdirectory]; rfl, by simp [IsIdle]⟩
    rw [hdirectory, eq_comm, Bool.eq_iff_iff, isRooted_iff_start, hpieces, List.nil_append,
      start_of_not_isIdle hidle]
    exact iff_of_false (by decide) (by decide)
  · have hdirectory := directory_of_parent? hparent hne
    refine ⟨?_, kept, idle, more, hsplit, by rw [hdirectory, hkept], hall⟩
    rw [Bool.eq_iff_iff, isRooted_iff_start, isRooted_iff_start, hdirectory, hstart]

/-- The directory of a file has a path that can only be too long. -/
theorem sound_directory (hfault : p.fault? = none) (hpieces : p.pieces = before ++ [n])
    (hn : IsStep n) : p.directory.Sound := by
  obtain ⟨-, kept, idle, more, rfl, hdirectory, hidle⟩ := exists_directory hpieces hn
  constructor
  · rw [isBroken, List.any_eq_false]
    intro c hc hend
    obtain rfl := beq_iff_eq.mp hend
    rw [← join_split '/' p.directory.text, ← pieces, hdirectory] at hc
    rcases mem_or_exists_of_mem_join hc with hslash | ⟨piece, hpiece, hend⟩
    · exact absurd hslash (by decide)
    · rcases List.mem_append.mp hpiece with hkept | hmore
      · have hmem : piece ∈ p.pieces := by simp [hpieces, hkept]
        exact (Tree.notMem_of_mem_pieces hfault hmem).2 hend
      · rcases hidle piece (List.mem_append_right idle hmore) with rfl | rfl
        · cases hend
        · exact absurd hend (by decide)
  · -- for the empty path the dot is taken
    intro hempty
    rw [directory] at hempty
    split at hempty
    next => cases hempty
    next => cases hempty
    next parent hne _ =>
      obtain ⟨text⟩ := parent
      exact hne (congrArg Path.mk hempty)

end Path

namespace Tree

open Path

/-! ## Idle pieces -/

/-- An idle piece leads nowhere else. -/
theorem foldlM_step_idle (hidle : ∀ piece ∈ idle, IsIdle piece)
    (h : t.find? l = some .directory) : idle.foldlM t.step l = .ok l := by
  induction idle with
  | nil => rfl
  | cons piece idle ih =>
      obtain ⟨hpiece, hothers⟩ := List.forall_mem_cons.mp hidle
      have hstep : t.step l piece = .ok l := by
        rcases hpiece with rfl | rfl <;> simp [step, h]
      rw [List.foldlM_cons, hstep]
      exact ih hothers

theorem eq_of_foldlM_idle (hidle : ∀ piece ∈ idle, IsIdle piece)
    (h : idle.foldlM t.step l = .ok m) : m = l := by
  rcases eq_or_ne idle [] with rfl | hne
  · cases h
    rfl
  · rw [foldlM_step_idle hidle (find?_of_foldlM hne h)] at h
    exact (Except.ok.inj h).symm

/-- The directory of a path leads to where the path comes before its last name. -/
theorem follow_directory (hpieces : p.pieces = before ++ [n]) (hn : IsStep n)
    (hfollow : t.follow p before = .ok l) (hfind : t.find? l = some .directory) :
    t.follow p.directory p.directory.pieces = .ok l := by
  obtain ⟨hrooted, kept, idle, more, hbefore, hdirectory, hidle⟩ := exists_directory hpieces hn
  obtain ⟨hidle, hmore⟩ := List.forall_mem_append.mp hidle
  rw [hbefore] at hfollow
  obtain ⟨m, hkept, hrest⟩ := exists_of_follow_append hfollow
  obtain rfl := eq_of_foldlM_idle hidle hrest
  rw [follow] at hkept
  rw [follow, hrooted, hdirectory, List.foldlM_append, hkept]
  exact foldlM_step_idle hmore hfind

/-! ## The temporary file of a path -/

/-- The name of the temporary file of a path. -/
def temporaryName (disk : Disk) (p : Path) : Text := ".tmp".toList ++ (disk.draw p).val

theorem utf8Size_of_isAlphanum {c : Char} (h : c.isAlphanum) : c.utf8Size = 1 := by
  rw [Char.utf8Size_eq_one_iff, UInt32.le_iff_toNat_le]
  exact Nat.le_of_lt_succ (Text.toNat_lt_of_isAlphanum h)

theorem byteLength_of_isAlphanum {s : Text} (h : s.all Char.isAlphanum) :
    Text.byteLength s = s.length := by
  induction s with
  | nil => rfl
  | cons c s ih =>
      obtain ⟨hc, hs⟩ := Bool.and_eq_true_iff.mp h
      rw [Text.byteLength_cons, ih hs, utf8Size_of_isAlphanum hc, List.length_cons, Nat.add_comm]

theorem byteLength_temporaryName (disk : Disk) (p : Path) :
    Text.byteLength (temporaryName disk p) = 10 := by
  obtain ⟨hlength, hall⟩ := (disk.draw p).property
  rw [temporaryName, Text.byteLength_append, byteLength_of_isAlphanum hall, hlength]
  rfl

theorem isName_temporaryName (disk : Disk) (p : Path) : IsName (temporaryName disk p) := by
  obtain ⟨-, hall⟩ := (disk.draw p).property
  have hfree {c : Char} (hc : c.isAlphanum = false) : c ∉ (disk.draw p).val := fun hmem => by
    have hmember := List.all_eq_true.mp hall c hmem
    rw [hc] at hmember
    cases hmember
  refine ⟨by simp [temporaryName], by simp [temporaryName], by simp [temporaryName], ?_, ?_, ?_⟩
  · simpa [temporaryName] using hfree (by decide)
  · simpa [temporaryName] using hfree (by decide)
  · rw [byteLength_temporaryName]
    decide

/-- The path of a temporary file is longer than that of the directory it lies in. -/
theorem le_byteLength_temporaryPath (hwell : t.WellFormed) (hhome : t.find? t.home = some .directory)
    (hrooted : p.directory.isRooted = false) (disk : Disk) :
    Text.byteLength t.homePath.text + Text.byteLength p.directory.text + 10 ≤
      Text.byteLength (t.temporaryPath disk p).text := by
  have hne : t.homePath.text ≠ [] := (sound_homePath hwell hhome).2
  have hdirectory := byteLength_le_join hne hrooted
  have hjoined : (t.homePath.join p.directory).text ≠ [] := by
    rw [text_join hne hrooted]
    exact List.append_ne_nil_of_left_ne_nil hne _
  have hname := byteLength_le_join hjoined
    (isRooted_of_notMem (isName_temporaryName disk p).2.2.2.1)
  rw [byteLength_temporaryName] at hname
  exact (Nat.add_le_add_right hdirectory 10).trans hname

/-- The temporary file lies beside the file that it is to replace, unless its path is too long. -/
theorem resolve_temporaryPath (hwell : t.WellFormed) (hfault : p.fault? = none)
    (hpieces : p.pieces = before ++ [n]) (hn : IsStep n) (hfollow : t.follow p before = .ok l)
    (hfind : t.find? l = some .directory) (disk : Disk) :
    t.absolute p.directory = .ok (t.homePath.join p.directory) ∧
      t.resolve (t.temporaryPath disk p) =
        if longest < Text.byteLength (t.temporaryPath disk p).text then .error .nameTooLong
        else .ok (l ++ [temporaryName disk p]) := by
  have hsound := sound_directory hfault hpieces hn
  have hstart : p.directory.isRooted ∨ t.find? t.home = some .directory := by
    obtain ⟨hrooted, -⟩ := exists_directory hpieces hn
    rw [hrooted]
    by_cases hp : p.isRooted
    · exact .inl hp
    · exact .inr (find?_home_of_follow hp hfollow hfind)
  have hname := isName_temporaryName disk p
  have hjoin : (t.homePath.join p.directory).Sound := sound_join_homePath hwell hsound hstart
  obtain ⟨htemporary, hlonger, -⟩ := hjoin.join hname
  refine ⟨if_pos hstart, ?_⟩
  change t.resolve ((t.homePath.join p.directory).join ⟨temporaryName disk p⟩) =
    if longest < Text.byteLength
        ((t.homePath.join p.directory).join ⟨temporaryName disk p⟩).text then _ else _
  split
  next hlong => rw [resolve, htemporary.fault?_eq, if_pos hlong]
  next hshort =>
    have hlength := Nat.not_lt.mp hshort
    have hdirectory : t.resolve (t.homePath.join p.directory) = .ok l := by
      rw [resolve_join_homePath hwell hsound hstart (hlonger.trans hlength)]
      exact follow_directory hpieces hn hfollow hfind
    exact resolve_join_name hdirectory hfind hname hlength

/-! ## Hindrances -/

/-- What keeps a file that is there from being replaced: the steps of a replacement in their order,
each with what can be against it. -/
def hindrance? (disk : Disk) (t : Tree) (p : Path) : Option Failure :=
  let temporary := t.temporaryPath disk p
  let creating := Failure.file .createTemporary p.directory
  if longest < Text.byteLength temporary.text then some (creating (.atPath temporary .nameTooLong))
  else if (t.reached? temporary).isSome then
    some (creating (.atPath (t.homePath.join p.directory) .noFreeName))
  else match disk.refusal? .create p with
  | some fault => some (creating (.atPath temporary fault))
  | none => match disk.refusal? .write p with
  | some fault => some (.file .write temporary (.atPath temporary fault))
  | none => match disk.refusal? .setPermissions p with
  | some fault => some (.file .setPermissions temporary fault)
  | none => (disk.refusal? .rename p).map (.file .replace p)

variable {old content : Bytes}

theorem reached?_of_resolve (h : t.resolve p = .ok l) : t.reached? p = t.find? l := by
  rw [reached?, h]
  rfl

theorem find?_put_of_free {e f : Entry} (hfree : t.find? m = none) (hfind : t.find? l = some f) :
    (t.put m e).find? l = some f := by
  have hne : l ≠ m := by
    rintro rfl
    rw [hfree] at hfind
    cases hfind
  rw [find?_put (ne_nil_of_find? (t := t) (by simp [hfree])), if_neg hne, hfind]

theorem createTemporary_of_absolute {directory : Path}
    (habsolute : t.absolute p.directory = .ok directory) :
    t.createTemporary disk p =
      match t.resolve (t.temporaryPath disk p) with
      | .error fault => .error (.atPath (t.temporaryPath disk p) fault)
      | .ok m =>
        if (t.find? m).isSome then .error (.atPath directory .noFreeName)
        else match disk.refusal? .create p with
        | some fault => .error (.atPath (t.temporaryPath disk p) fault)
        | none => .ok (m, t.put m (.file .empty)) := by
  rw [createTemporary, habsolute]
  simp only [bind, Except.bind, pure, Except.pure]
  cases t.resolve (t.temporaryPath disk p) with
  | error fault => rfl
  | ok m =>
      by_cases htaken : (t.find? m).isSome
      · simp only [if_pos htaken]
        rfl
      · simp only [if_neg htaken]
        cases disk.refusal? .create p <;> rfl

theorem fillTemporary_of_isSome (hpresent : ((t.put l (.file content)).reached? p).isSome) :
    t.fillTemporary disk p l content =
      match disk.refusal? .write p with
      | some fault =>
        .error (.file .write (t.temporaryPath disk p) (.atPath (t.temporaryPath disk p) fault))
      | none =>
        match disk.refusal? .setPermissions p with
        | some fault => .error (.file .setPermissions (t.temporaryPath disk p) fault)
        | none => .ok (t.put l (.file content)) := by
  rw [fillTemporary]
  cases disk.refusal? .write p with
  | some fault => rfl
  | none =>
      simp only [bind, Except.bind, pure, Except.pure, if_pos hpresent]
      cases disk.refusal? .setPermissions p <;> rfl

/-- A file that is there is replaced unless something is against it, and then the tree stays as it
was. -/
theorem replaceFile_of_resolve (hwell : t.WellFormed) (hresolve : t.resolve p = .ok l)
    (hold : t.find? l = some (.file old)) (disk : Disk) (content : Bytes) :
    t.replaceFile disk p content =
      match hindrance? disk t p with
      | some failure => (.error failure, t)
      | none => (.ok (), t.put l (.file content)) := by
  have hfile : t.find? l ≠ some .directory := by simp [hold]
  have hfault : p.fault? = none := by
    rw [resolve] at hresolve
    split at hresolve
    next => cases hresolve
    next hnone => exact hnone
  obtain ⟨before, above, n, hpieces, hfollow, hl, hn, hfind⟩ :=
    exists_of_resolve hwell hresolve hfile
  obtain ⟨habsolute, htemporary⟩ := resolve_temporaryPath hwell hfault hpieces
    ⟨hn.1, hn.2.1, hn.2.2.1, hn.2.2.2.1⟩ hfollow hfind disk
  rw [hindrance?, replaceFile, createTemporary_of_absolute habsolute, htemporary]
  -- the temporary file cannot be made where its path is too long or its name is taken
  by_cases hlong : longest < Text.byteLength (t.temporaryPath disk p).text
  · simp only [if_pos hlong]
  · simp only [if_neg hlong] at htemporary ⊢
    rw [reached?_of_resolve htemporary]
    generalize above ++ [temporaryName disk p] = m
    cases htaken : t.find? m with
    | some e => rfl
    | none =>
        have hput : t.find? m ≠ some .directory := by simp [htaken]
        have hkept {l : Location} {e f : Entry} (h : t.find? l = some e) :
            (t.put m f).find? l = some e := find?_put_of_free htaken h
        have hpresent : (((t.put m (.file .empty)).put m (.file content)).reached? p).isSome := by
          rw [put_put, reached?_of_resolve (resolve_put hput hresolve), hkept hold]
          rfl
        have hover : (t.put m (.file content)).find? (above ++ [n]) ≠ some .directory := by
          rw [← hl, hkept hold]
          simp
        have hmove := moveFile_of_follow hfault hpieces (foldlM_step_put hput hfollow) (hkept hfind)
          hn hover disk m
        rw [move_put htaken, ← hl] at hmove
        -- from here on each step can only be refused
        simp only [Option.isSome_none, Bool.false_eq_true, if_false]
        cases disk.refusal? .create p with
        | some fault => rfl
        | none =>
            dsimp only
            rw [fillTemporary_of_isSome hpresent, put_put, erase_put htaken]
            cases disk.refusal? .write p with
            | some fault => rfl
            | none =>
                cases disk.refusal? .setPermissions p with
                | some fault => rfl
                | none =>
                    dsimp only
                    rw [hmove, erase_put htaken]
                    cases disk.refusal? .rename p <;> rfl

/-! ## Other files -/

/-- What a file holds has no part in where paths lead. -/
theorem step_put_file (hold : t.find? l = some (.file old)) (content : Bytes) :
    (t.put l (.file content)).step = t.step := by
  have hl : l ≠ [] := ne_nil_of_find? (t := t) (by simp [hold])
  funext m piece
  unfold step
  rw [find?_put hl]
  by_cases heq : m = l
  · rw [if_pos heq, heq, hold]
  · rw [if_neg heq]

theorem resolve_put_file (hold : t.find? l = some (.file old)) (content : Bytes) (p : Path) :
    (t.put l (.file content)).resolve p = t.resolve p := by
  simp only [resolve, follow, step_put_file hold content, put_home]

theorem isSome_reached?_put_file (hold : t.find? l = some (.file old)) (content : Bytes) (p : Path) :
    ((t.put l (.file content)).reached? p).isSome = (t.reached? p).isSome := by
  have hl : l ≠ [] := ne_nil_of_find? (t := t) (by simp [hold])
  rw [reached?, reached?, resolve_put_file hold content]
  cases t.resolve p with
  | error fault => rfl
  | ok m =>
      change ((t.put l (.file content)).find? m).isSome = (t.find? m).isSome
      rw [find?_put hl]
      split
      next heq =>
        rw [heq, hold]
        rfl
      next => rfl

/-- What keeps a file from being replaced does not depend on what other files hold. -/
theorem hindrance?_put_file (hold : t.find? l = some (.file old)) (content : Bytes) (p : Path) :
    hindrance? disk (t.put l (.file content)) p = hindrance? disk t p := by
  simp only [hindrance?, isSome_reached?_put_file hold content]
  rfl

end Tree

/-! ## Dots in front of a path -/

namespace Path

open Text

variable {s : Text}

/-- A path behind dots, which make it longer and lead nowhere. -/
def behindDots (dots : Nat) (s : Text) : Path := ⟨(List.replicate dots ['.', '/']).flatten ++ s⟩

theorem behindDots_succ (dots : Nat) (s : Text) :
    behindDots (dots + 1) s = ⟨'.' :: '/' :: (behindDots dots s).text⟩ := rfl

theorem byteLength_behindDots (dots : Nat) (s : Text) :
    byteLength (behindDots dots s).text = 2 * dots + byteLength s := by
  have hdot : '.'.utf8Size = 1 := by decide
  have hslash : '/'.utf8Size = 1 := by decide
  induction dots with
  | zero => simp [behindDots]
  | succ dots ih =>
      rw [behindDots_succ, byteLength_cons, byteLength_cons, ih]
      omega

theorem pieces_behindDots (dots : Nat) (s : Text) :
    (behindDots dots s).pieces = List.replicate dots ['.'] ++ split '/' s := by
  induction dots with
  | zero => rfl
  | succ dots ih =>
      rw [behindDots_succ, List.replicate_succ, List.cons_append, ← ih]
      exact split_append_cons '/' ['.'] _

/-- However many they are, the dots count for one. -/
theorem components_behindDots (dots : Nat) (s : Text) :
    (behindDots (dots + 1) s).components = (behindDots 1 s).components := by
  induction dots with
  | zero => rfl
  | succ dots ih =>
      rw [← ih, behindDots_succ, behindDots_succ]
      exact components_append_idle (.inr rfl) ['.'] (behindDots dots s).text

theorem join_behindDots (dots : Nat) (hne : s ≠ []) (hlast : s.getLast? ≠ some '/')
    (hq : q.isRooted = false) :
    (behindDots dots s).join q = behindDots dots (s ++ '/' :: q.text) := by
  have hend : (behindDots dots s).text.getLast? = s.getLast? :=
    List.getLast?_append_of_ne_nil _ hne
  have hempty : (behindDots dots s).text ≠ [] := List.append_ne_nil_of_right_ne_nil _ hne
  rw [join, if_neg (by simp [hq, hempty]), if_neg (by rwa [hend])]
  simp only [behindDots, List.append_assoc]

theorem isRooted_behindDots (dots : Nat) (hs : (Path.mk s).isRooted = false) :
    (behindDots dots s).isRooted = false := by
  cases dots with
  | zero => exact hs
  | succ dots => rfl

/-- The dots in front of the path of a file are in front of that of its directory. -/
theorem directory_behindDots (dots : Nat) (hs : IsStep s) (hn : IsStep n) :
    (behindDots dots (s ++ '/' :: n)).directory = behindDots dots s := by
  obtain ⟨hempty, hdot, -, hslash⟩ := hs
  have hjoin : (behindDots dots s).join ⟨n⟩ = behindDots dots (s ++ '/' :: n) :=
    join_behindDots dots hempty (fun hlast => hslash (List.mem_of_getLast? hlast))
      (isRooted_of_notMem hn.2.2.2)
  have hpieces : (behindDots dots s).pieces = List.replicate dots ['.'] ++ [s] := by
    rw [pieces_behindDots, split_of_notMem hslash]
  rw [← hjoin]
  exact directory_join hpieces (not_or.mpr ⟨hempty, hdot⟩) hn

theorem Sound.behindDots (h : Sound ⟨s⟩) (dots : Nat) : (behindDots dots s).Sound := by
  induction dots with
  | zero => exact h
  | succ dots ih => exact ⟨ih.1, List.cons_ne_nil _ _⟩

end Path

namespace Tree

open Path

/-- Dots in front lead nowhere, as long as the path does not get too long. -/
theorem resolve_behindDots {s : Text} {dots : Nat} (hhome : t.find? t.home = some .directory)
    (hs : Sound ⟨s⟩) (hrooted : (Path.mk s).isRooted = false)
    (hlength : 2 * dots + Text.byteLength s ≤ longest) :
    t.resolve (behindDots dots s) = (Text.split '/' s).foldlM t.step t.home := by
  have hidle : ∀ piece ∈ List.replicate dots ['.'], IsIdle piece := fun piece hpiece =>
    .inr (List.eq_of_mem_replicate hpiece)
  rw [resolve, (hs.behindDots dots).fault?_eq, byteLength_behindDots,
    if_neg (Nat.not_lt.mpr hlength)]
  dsimp only
  rw [follow, pieces_behindDots, isRooted_behindDots dots hrooted, List.foldlM_append]
  simp only [Bool.false_eq_true, if_false]
  rw [foldlM_step_idle hidle hhome]
  rfl

/-- With enough dots in front, the path of a file can be too long for a temporary file though it is
not too long for the file. -/
theorem hindrance?_behindDots {s : Text} {dots : Nat} (hwell : t.WellFormed)
    (hhome : t.find? t.home = some .directory) (hs : IsStep s) (hn : IsStep n)
    (hlong : longest < Text.byteLength t.homePath.text + (2 * dots + Text.byteLength s) + 10)
    (disk : Disk) :
    hindrance? disk t (behindDots dots (s ++ '/' :: n)) =
      some (.file .createTemporary (behindDots dots s)
        (.atPath (t.temporaryPath disk (behindDots dots (s ++ '/' :: n))) .nameTooLong)) := by
  have hdirectory := directory_behindDots dots hs hn
  have hrooted : (behindDots dots (s ++ '/' :: n)).directory.isRooted = false := by
    rw [hdirectory]
    exact isRooted_behindDots dots (isRooted_of_notMem hs.2.2.2)
  have hlonger := le_byteLength_temporaryPath hwell hhome hrooted disk
  rw [hdirectory, byteLength_behindDots] at hlonger
  rw [hindrance?, if_pos (hlong.trans_le hlonger), hdirectory]

end Tree

end SkipChecks
