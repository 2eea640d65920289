import SkipChecks.Proofs.Path.Components
import SkipChecks.Proofs.Tree.Edits

/-!
# Trees that grow on the way of a path

The directories that are made for a file are those that its path goes through. Making them adds
nothing else, whether it gets to the end or breaks off, so that all files stay as they were.
-/

namespace SkipChecks

open Text

namespace Path

variable {p q r : Path} {piece : Text} {pieces : List Text}

/-! ## Paths above a path -/

/-- What stands in front of a slash in a path is a path above it. -/
def Above (q p : Path) : Prop := q.text ≠ [] ∧ ∃ rest, p.text = q.text ++ '/' :: rest

theorem Above.isRooted_eq (h : q.Above p) : p.isRooted = q.isRooted := by
  obtain ⟨hne, rest, htext⟩ := h
  rw [isRooted, isRooted, htext, List.head?_append_of_ne_nil _ hne]

theorem Above.exists_pieces_eq (h : q.Above p) :
    ∃ after, after ≠ [] ∧ p.pieces = q.pieces ++ after := by
  obtain ⟨-, rest, htext⟩ := h
  refine ⟨split '/' rest, split_ne_nil '/' rest, ?_⟩
  rw [pieces, htext, split_append_cons]
  rfl

theorem Above.trans (hq : q.Above p) (hr : r.Above q) : r.Above p := by
  obtain ⟨-, rest, htext⟩ := hq
  obtain ⟨hne, middle, hmiddle⟩ := hr
  exact ⟨hne, middle ++ '/' :: rest, by rw [htext, hmiddle]; simp⟩

/-- What a path ends in can be cut off at a slash. -/
theorem ofPieces_above {after : List Text} (h : p.pieces.reverse = after ++ pieces)
    (hafter : after ≠ []) (hpieces : pieces ≠ []) (hne : (ofPieces pieces).text ≠ []) :
    (ofPieces pieces).Above p := by
  refine ⟨hne, Text.join ['/'] after.reverse, ?_⟩
  have hsplit : p.pieces = pieces.reverse ++ after.reverse := by
    rw [← List.reverse_append, ← h, List.reverse_reverse]
  rw [← join_split '/' p.text, ← Path.pieces, hsplit,
    join_append (List.reverse_ne_nil_iff.mpr hpieces) (List.reverse_ne_nil_iff.mpr hafter)]
  simp [ofPieces]

theorem dropIdle_suffix (pieces : List Text) : dropIdle pieces <:+ pieces := by
  obtain ⟨idle, hidle, -⟩ := exists_eq_append_dropIdle pieces
  exact ⟨idle, hidle.symm⟩

/-- A directory is above what lies in it, the root and the working directory apart. -/
theorem above_of_parent? (h : p.parent? = some q) (hempty : q ≠ ⟨[]⟩) (hroot : q ≠ ⟨['/']⟩) :
    q.Above p := by
  unfold parent? at h
  split at h
  next => cases h
  next => cases h
  next => exact absurd (Option.some.inj h).symm hempty
  next last before _ _ hdrop =>
    split at h
    next => exact absurd (Option.some.inj h).symm hroot
    next =>
      cases h
      obtain ⟨idle, hidle⟩ := dropIdle_suffix p.pieces.reverse
      obtain ⟨more, hmore⟩ := dropIdle_suffix before
      have hsplit : p.pieces.reverse = (idle ++ last :: more) ++ dropIdle before := by
        rw [← hidle, hdrop, List.append_assoc, List.cons_append, hmore]
      refine ofPieces_above hsplit (by simp) (fun hnil => hempty ?_) (fun hnil => hempty ?_)
      · rw [hnil]
        rfl
      · rw [← hnil]

theorem mem_ancestors_go (h : q ∈ ancestors.go pieces) :
    ∃ last before, q = ofPieces (last :: before) ∧ last ≠ [] ∧ last :: before <:+ pieces := by
  induction pieces with
  | nil => cases h
  | cons piece pieces ih =>
      rw [ancestors.go] at h
      split at h
      next =>
        obtain ⟨last, before, hq, hlast, hsuffix⟩ := ih h
        exact ⟨last, before, hq, hlast, hsuffix.trans (List.suffix_cons piece _)⟩
      next hstays =>
        rcases List.mem_cons.mp h with rfl | h
        · exact ⟨piece, pieces, rfl, fun hnil => hstays (.inl hnil), List.suffix_refl _⟩
        · obtain ⟨last, before, hq, hlast, hsuffix⟩ := ih h
          exact ⟨last, before, hq, hlast, hsuffix.trans (List.suffix_cons piece _)⟩

theorem text_ofPieces_ne_nil (h : piece ∈ pieces) (hne : piece ≠ []) :
    (ofPieces pieces).text ≠ [] := by
  intro hnil
  have hinfix : piece <:+: (ofPieces pieces).text := infix_of_mem_join (List.mem_reverse.mpr h)
  rw [hnil] at hinfix
  exact hne (List.infix_nil.mp hinfix)

/-- A path and those above it are what directories are made for. -/
theorem eq_or_above_of_mem_ancestors (h : q ∈ p.ancestors) : q.text = p.text ∨ q.Above p := by
  obtain ⟨last, before, rfl, hlast, after, hafter⟩ := mem_ancestors_go h
  cases after with
  | nil =>
      left
      have hpieces : p.pieces = (last :: before).reverse := by
        rw [List.nil_append] at hafter
        rw [hafter, List.reverse_reverse]
      rw [ofPieces, ← hpieces]
      exact join_split '/' p.text
  | cons piece after =>
      exact .inr (ofPieces_above hafter.symm (List.cons_ne_nil _ _) (List.cons_ne_nil _ _)
        (text_ofPieces_ne_nil List.mem_cons_self hlast))

end Path

namespace Tree

variable {t u v : Tree} {disk : Disk} {p q : Path} {l m : Location} {before : List Text}

/-! ## Directories on the way -/

/-- The places that a path goes through before it comes to its end. -/
def Passes (t : Tree) (p : Path) (l : Location) : Prop :=
  ∃ before after, p.pieces = before ++ after ∧ after ≠ [] ∧ t.follow p before = .ok l

/-- A tree with new directories, all of them on the way of a path, and otherwise the same. -/
structure GrowsTowards (t u : Tree) (p : Path) : Prop where
  home_eq : u.home = t.home
  same_or_new : ∀ l, u.find? l = t.find? l ∨
    t.find? l = none ∧ u.find? l = some .directory ∧ u.Passes p l

/-- The files are as they were. What is new is a directory that a path goes through, and holds no
files. -/
structure KeepsFiles (t u : Tree) (p : Path) : Prop where
  home_eq : u.home = t.home
  file_iff : ∀ l content, u.find? l = some (.file content) ↔ t.find? l = some (.file content)
  directory_of : ∀ l, t.find? l = some .directory → u.find? l = some .directory
  passes_of : ∀ l, t.find? l = none → u.find? l ≠ none → u.Passes p l
  noFile : ∀ l, t.find? l = none → ∀ names content, u.find? (l ++ names) ≠ some (.file content)

theorem Passes.put {e : Entry} (h : t.Passes p l) (hm : t.find? m ≠ some .directory) :
    (t.put m e).Passes p l := by
  obtain ⟨before, after, hpieces, hafter, hfollow⟩ := h
  exact ⟨before, after, hpieces, hafter, foldlM_step_put hm hfollow⟩

theorem Passes.of_above (hq : q.Above p) {after : List Text} (hpieces : q.pieces = before ++ after)
    (hfollow : t.follow q before = .ok l) : t.Passes p l := by
  obtain ⟨rest, hrest, hp⟩ := hq.exists_pieces_eq
  refine ⟨before, after ++ rest, by rw [hp, hpieces, List.append_assoc], by simp [hrest], ?_⟩
  rw [follow, hq.isRooted_eq]
  exact hfollow

namespace GrowsTowards

theorem refl (t : Tree) (p : Path) : t.GrowsTowards t p := ⟨rfl, fun _ => .inl rfl⟩

/-- A file is where it was, with the content that it had. -/
theorem find?_eq_file_iff (h : t.GrowsTowards u p) {content : Bytes} :
    u.find? l = some (.file content) ↔ t.find? l = some (.file content) := by
  rcases h.same_or_new l with hsame | ⟨hfree, hnew, -⟩
  · rw [hsame]
  · rw [hfree, hnew]
    simp

theorem find?_of_directory (h : t.GrowsTowards u p) (hl : t.find? l = some .directory) :
    u.find? l = some .directory := by
  rcases h.same_or_new l with hsame | ⟨hfree, -⟩
  · rw [hsame, hl]
  · rw [hfree] at hl
    cases hl

/-- What is new holds no files, which would have been there before. -/
theorem keepsFiles (h : t.GrowsTowards u p) (hwell : t.WellFormed) : t.KeepsFiles u p where
  home_eq := h.home_eq
  file_iff l content := h.find?_eq_file_iff
  directory_of l := h.find?_of_directory
  passes_of l hfree hnew := by
    rcases h.same_or_new l with hsame | ⟨-, -, hpasses⟩
    · exact absurd (hsame.trans hfree) hnew
    · exact hpasses
  noFile l hfree names content hfile := by
    rw [h.find?_eq_file_iff] at hfile
    cases names with
    | nil =>
        rw [List.append_nil, hfree] at hfile
        cases hfile
    | cons name names =>
        have habove := hwell.find?_of_append (List.cons_ne_nil name names) hfile
        rw [hfree] at habove
        cases habove

theorem makeDirectory (h : t.GrowsTowards u p) (hq : q.Above p)
    (hmade : u.makeDirectory disk q = .ok v) : t.GrowsTowards v p := by
  obtain ⟨n, above, l, -, hlast, habove, hstep, hfree, rfl⟩ := exists_of_makeDirectory hmade
  have hput : u.find? l ≠ some .directory := by simp [hfree]
  refine ⟨h.home_eq, fun m => ?_⟩
  rw [find?_put (ne_nil_of_find? hput)]
  split
  next heq =>
    subst heq
    refine .inr ⟨?_, rfl, ?_⟩
    · rcases h.same_or_new m with hsame | ⟨-, hnew, -⟩
      · rw [← hsame, hfree]
      · rw [hfree] at hnew
        cases hnew
    · obtain ⟨after, hpieces⟩ := Path.exists_pieces_eq_of_cut hlast
      rw [List.append_cons] at hpieces
      refine Passes.put ?_ hput
      exact Passes.of_above hq hpieces ((follow_concat habove).trans hstep)
  next =>
    refine (h.same_or_new m).imp_right fun ⟨hnone, hnew, hpasses⟩ => ⟨hnone, hnew, hpasses.put hput⟩

theorem ensureDirectory (h : t.GrowsTowards u p) (hq : q.Above p) :
    t.GrowsTowards (u.ensureDirectory disk q).2 p := by
  rw [Tree.ensureDirectory]
  split
  next hmade => exact h.makeDirectory hq hmade
  next => exact h

theorem makeChain {above : List Path} (hall : ∀ q ∈ above, q.Above p) :
    t.GrowsTowards (t.makeChain disk above).2 p := by
  induction above with
  | nil => exact refl t p
  | cons q above ih =>
      have hq := hall q List.mem_cons_self
      have hothers := ih fun r hr => hall r (List.mem_cons_of_mem q hr)
      rw [Tree.makeChain]
      split
      next =>
        split
        next hmade =>
          rw [hmade] at hothers
          exact hothers.ensureDirectory hq
        next hmade => rwa [hmade] at hothers
      next => exact (refl t p).ensureDirectory hq

/-- Directories are made on the way of what they are made for. -/
theorem makeDirectories (hq : q.Above p) : t.GrowsTowards (t.makeDirectories disk q).2 p := by
  refine makeChain fun r hr => ?_
  rcases Path.eq_or_above_of_mem_ancestors hr with heq | habove
  · obtain ⟨s⟩ := r
    obtain ⟨s'⟩ := q
    obtain rfl : s = s' := heq
    exact hq
  · exact hq.trans habove

end GrowsTowards

/-- Whatever a path goes through before it comes to its end is a directory. -/
theorem exists_of_follow {after : List Text} (hafter : after ≠ [])
    (h : t.follow p (before ++ after) = .ok l) :
    ∃ m, t.follow p before = .ok m ∧ t.find? m = some .directory := by
  obtain ⟨m, hplace, hrest⟩ := exists_of_follow_append h
  exact ⟨m, hplace, find?_of_foldlM hafter hrest⟩

end Tree

end SkipChecks
