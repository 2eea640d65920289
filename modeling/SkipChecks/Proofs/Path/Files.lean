import SkipChecks.Proofs.Path.Names

/-!
# Paths of files

The extension of a file begins behind the last dot of its name, so there is no dot in it, and no
slash either. A file in a directory that is a single piece has that piece as its directory.
-/

namespace SkipChecks.Path

open Text

variable {p : Path} {n extension directory : Text}

/-! ## Extensions -/

/-- A name has an extension when there is something in front of its last dot. -/
theorem splitName_eq_some_iff {stem : Text} :
    splitName n = (stem, some extension) ↔
      stem ≠ [] ∧ '.' ∉ extension ∧ n = stem ++ '.' :: extension := by
  unfold splitName
  constructor
  · intro h
    split at h
    next _ c d rest hdrop =>
      obtain ⟨rfl, hextension⟩ := Prod.mk.inj h
      obtain rfl := Option.some.inj hextension
      have hhead := List.head?_dropWhile_not (· != '.') n.reverse
      obtain rfl : c = '.' := by simpa [hdrop] using hhead
      refine ⟨by simp, fun hmem => ?_, ?_⟩
      · have hpass := List.mem_takeWhile_imp (List.mem_reverse.mp hmem)
        simp at hpass
      · calc n = (n.reverse.takeWhile (· != '.') ++ n.reverse.dropWhile (· != '.')).reverse := by
              rw [List.takeWhile_append_dropWhile, List.reverse_reverse]
          _ = (d :: rest).reverse ++ '.' :: (n.reverse.takeWhile (· != '.')).reverse := by
              rw [hdrop]
              simp
    next => simp at h
  · rintro ⟨hstem, hdot, rfl⟩
    have hpass : ∀ c ∈ extension.reverse, (c != '.') = true := by
      intro c hc
      rw [bne_iff_ne]
      rintro rfl
      exact hdot (List.mem_reverse.mp hc)
    have hreverse : (stem ++ '.' :: extension).reverse =
        extension.reverse ++ '.' :: stem.reverse := by
      simp
    obtain ⟨c, before, hbefore⟩ := List.exists_cons_of_ne_nil (List.reverse_ne_nil_iff.mpr hstem)
    have hback : (c :: before).reverse = stem := by rw [← hbefore, List.reverse_reverse]
    rw [hreverse, List.dropWhile_append_of_pos hpass, List.takeWhile_append_of_pos hpass,
      List.dropWhile_cons_of_neg (by simp), List.takeWhile_cons_of_neg (by simp), hbefore]
    simp only [List.append_nil, List.reverse_reverse, hback]

theorem mem_parts_of_fileName? (h : p.fileName? = some n) : .name n ∈ p.parts := by
  unfold fileName? at h
  split at h
  next m hlast =>
    obtain rfl := Option.some.inj h
    exact List.mem_of_getLast? hlast
  next => cases h

theorem notMem_of_extension? (h : p.extension? = some extension) :
    '.' ∉ extension ∧ '/' ∉ extension := by
  obtain ⟨n, hname, hsplit⟩ := Option.bind_eq_some_iff.mp h
  obtain ⟨-, hdot, hn⟩ := splitName_eq_some_iff.mp (Prod.ext_iff.mpr ⟨rfl, hsplit⟩)
  refine ⟨hdot, fun hslash => ?_⟩
  apply (ofPiece?_of_mem_parts (mem_parts_of_fileName? hname)).2
  rw [hn]
  exact List.mem_append_right _ (List.mem_cons_of_mem '.' hslash)

/-! ## Directories -/

theorem parent?_join (hne : directory ≠ []) (hslash : '/' ∉ directory) (h : IsStep n) :
    ((Path.mk directory).join ⟨n⟩).parent? = some ⟨directory⟩ := by
  obtain ⟨before, hjoin, hbefore⟩ := exists_pieces_join ⟨directory⟩
  have hpieces : (Path.mk directory).pieces = [directory] := split_of_notMem hslash
  obtain rfl : before = [directory] := by
    rcases hbefore with hbefore | hbefore
    · rw [← hbefore, hpieces]
    · -- an empty piece at the end would be the directory
      rw [hpieces] at hbefore
      cases before with
      | nil => simp [hne] at hbefore
      | cons piece before => simp at hbefore
  have hreversed : dropIdle ((Path.mk directory).join ⟨n⟩).pieces.reverse = [n, directory] := by
    rw [hjoin n h.2.2.2, List.reverse_concat, h.dropIdle_eq]
    rfl
  rw [parent?, hreversed]
  simp [dropIdle, hne, ofPieces, Text.join]

/-- A single piece is written like the step that it is. -/
theorem exists_mem_parts (hne : directory ≠ []) (hslash : '/' ∉ directory) :
    ∃ part ∈ (Path.mk directory).parts, part.text = directory := by
  have hpieces : (Path.mk directory).pieces = [directory] := split_of_notMem hslash
  by_cases hdot : directory = ['.']
  · subst hdot
    exact ⟨.here, by decide, rfl⟩
  · obtain ⟨part, hpart⟩ : ∃ part, Part.ofPiece? directory = some part := by
      unfold Part.ofPiece?
      split <;> simp_all
    have hmove : part ∈ (Path.mk directory).moves :=
      mem_moves_iff.mpr ⟨directory, by simp [hpieces], hpart⟩
    rw [← filter_isMove_parts] at hmove
    exact ⟨part, (List.mem_filter.mp hmove).1, (isMove_of_ofPiece? hpart).2⟩

end SkipChecks.Path
