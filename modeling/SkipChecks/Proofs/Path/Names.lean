import Mathlib.Data.List.TakeWhile
import SkipChecks.Proofs.Path.Parts

/-!
# Names joined on to paths

A name that is joined on to a path becomes its last piece and, if it is a name of its own and not
one of the dots, its last part. What stands in front stays as it was. An extension is put behind
such a name as it would be put behind any other one that has none.
-/

namespace SkipChecks.Path

open Text

variable {p : Path} {n extension : Text} {names : List Text}

theorem under_cons (root : Path) (n : Text) (names : List Text) :
    root.under (n :: names) = (root.join ⟨n⟩).under names := rfl

theorem under_concat (root : Path) (names : List Text) (n : Text) :
    root.under (names ++ [n]) = (root.under names).join ⟨n⟩ := List.foldl_concat ..

theorem isRooted_of_notMem (h : '/' ∉ n) : (Path.mk n).isRooted = false := by
  rw [isRooted, beq_eq_false_iff_ne]
  exact fun hhead => h (List.mem_of_mem_head? hhead)

/-- A path goes behind a slash, which the path in front may have already. -/
theorem text_join {q : Path} (hne : p.text ≠ []) (hq : q.isRooted = false) :
    (p.join q).text = p.text ++ if p.text.getLast? = some '/' then q.text else '/' :: q.text := by
  rw [join, if_neg (by simp [hq, hne])]
  split <;> rfl

theorem byteLength_le_join {q : Path} (hne : p.text ≠ []) (hq : q.isRooted = false) :
    byteLength p.text + byteLength q.text ≤ byteLength (p.join q).text := by
  rw [text_join hne hq, byteLength_append]
  split
  · exact Nat.le_refl _
  · rw [byteLength_cons]
    omega

/-- The pieces of both paths come one after the other, but for an empty one between them. -/
theorem exists_pieces_join_of_unrooted (p : Path) :
    ∃ before, (∀ q : Path, q.isRooted = false → (p.join q).pieces = before ++ q.pieces) ∧
      (p.pieces = before ∨ p.pieces = before ++ [[]]) := by
  obtain ⟨s⟩ := p
  by_cases hne : s = []
  · subst hne
    refine ⟨[], fun q hq => ?_, .inr rfl⟩
    rw [join, if_pos (.inr rfl), List.nil_append]
  · by_cases hlast : s.getLast? = some '/'
    · obtain ⟨front, rfl⟩ := List.getLast?_eq_some_iff.mp hlast
      refine ⟨split '/' front, fun q hq => ?_, .inr (split_append_cons '/' front [])⟩
      rw [pieces, text_join hne hq, if_pos hlast, List.append_assoc, List.singleton_append,
        split_append_cons]
      rfl
    · refine ⟨split '/' s, fun q hq => ?_, .inl rfl⟩
      rw [pieces, text_join hne hq, if_neg hlast, split_append_cons]
      rfl

/-- The last piece of the path is the name; the pieces in front are those of the path, but for an
empty one at its end. -/
theorem exists_pieces_join (p : Path) :
    ∃ before, (∀ n, '/' ∉ n → (p.join ⟨n⟩).pieces = before ++ [n]) ∧
      (p.pieces = before ∨ p.pieces = before ++ [[]]) := by
  obtain ⟨before, hjoin, hbefore⟩ := exists_pieces_join_of_unrooted p
  refine ⟨before, fun n hslash => ?_, hbefore⟩
  have hpieces : (Path.mk n).pieces = [n] := split_of_notMem hslash
  rw [hjoin ⟨n⟩ (isRooted_of_notMem hslash), hpieces]

/-! ## Parts -/

/-- A text that names an entry wherever it stands in a path. -/
def IsStep (n : Text) : Prop := n ≠ [] ∧ n ≠ ['.'] ∧ n ≠ ['.', '.'] ∧ '/' ∉ n

theorem IsStep.ofPiece?_eq (h : IsStep n) : Part.ofPiece? n = some (.name n) := by
  obtain ⟨hne, hdot, hdots, -⟩ := h
  unfold Part.ofPiece?
  split <;> simp_all

theorem parts_join (p : Path) (h : IsStep n) : (p.join ⟨n⟩).parts = p.parts ++ [.name n] := by
  obtain ⟨before, hjoin, hbefore⟩ := exists_pieces_join p
  have hslash := h.2.2.2
  have hrooted : (p.join ⟨n⟩).isRooted = p.isRooted := by
    rw [isRooted_join, isRooted_of_notMem hslash, Bool.or_false]
  have hhead : (before ++ [n]).head? = some ['.'] ↔ p.pieces.head? = some ['.'] := by
    cases before with
    | nil =>
        rcases hbefore with hbefore | hbefore
        · exact absurd hbefore (split_ne_nil '/' p.text)
        · simp [hbefore, h.2.1]
    | cons piece before => rcases hbefore with hbefore | hbefore <;> simp [hbefore]
  have hmoves : (before ++ [n]).filterMap Part.ofPiece? =
      p.pieces.filterMap Part.ofPiece? ++ [.name n] := by
    have hempty : Part.ofPiece? [] = none := rfl
    rcases hbefore with hbefore | hbefore <;> simp [hbefore, h.ofPiece?_eq, hempty]
  simp only [parts, hrooted, hjoin n hslash, hhead, hmoves]
  split_ifs <;> rfl

theorem parts_under (root : Path) (h : ∀ n ∈ names, IsStep n) :
    (root.under names).parts = root.parts ++ names.map .name := by
  induction names generalizing root with
  | nil => exact (List.append_nil _).symm
  | cons n names ih =>
      rw [under_cons, ih (root.join ⟨n⟩) fun m hm => h m (List.mem_cons_of_mem n hm),
        parts_join root (h n List.mem_cons_self), List.append_assoc]
      rfl

theorem fileName?_join (p : Path) (h : IsStep n) : (p.join ⟨n⟩).fileName? = some n := by
  rw [fileName?, parts_join p h, List.getLast?_concat]

/-! ## Extensions -/

theorem splitName_of_notMem (h : '.' ∉ n) : splitName n = (n, none) := by
  have hnone : n.reverse.dropWhile (· != '.') = [] := by
    rw [List.dropWhile_eq_nil_iff]
    intro c hc
    rw [bne_iff_ne]
    rintro rfl
    exact h (List.mem_reverse.mp hc)
  rw [splitName, hnone]

theorem IsStep.dropIdle_eq (h : IsStep n) (before : List Text) :
    dropIdle (n :: before) = n :: before := by
  cases before with
  | nil => rfl
  | cons piece before => rw [dropIdle, if_neg (by simp [h.1, h.2.1])]

/-- A name without a dot gets the extension behind it. -/
theorem withExtension_join (p : Path) (h : IsStep n) (hdot : '.' ∉ n) (hslash : '/' ∉ extension) :
    (p.join ⟨n⟩).withExtension extension = p.join ⟨n ++ '.' :: extension⟩ := by
  obtain ⟨before, hjoin, -⟩ := exists_pieces_join p
  have hfree : '/' ∉ n ++ '.' :: extension := by simp [h.2.2.2, hslash]
  have hreversed : dropIdle (p.join ⟨n⟩).pieces.reverse = n :: before.reverse := by
    rw [hjoin n h.2.2.2, List.reverse_concat, h.dropIdle_eq]
  have htext : Text.join ['/'] (before ++ [n ++ '.' :: extension]) =
      (p.join ⟨n ++ '.' :: extension⟩).text := by
    rw [← hjoin _ hfree]
    exact join_split '/' _
  rw [withExtension, fileName?_join p h, hreversed]
  simp only [splitName_of_notMem hdot, ofPieces, List.reverse_cons, List.reverse_reverse, htext]

end SkipChecks.Path
