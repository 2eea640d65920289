import SkipChecks.Path
import SkipChecks.Proofs.Text.Pieces

/-!
# Steps of paths

Where a path starts shows in its first part only. What leads on from there are its other parts, and
they do not depend on how the path is written: paths put together with a slash lead on one behind the
other, and so do parts that are shown with slashes between them.
-/

namespace SkipChecks

open Text

/-- Whether a step leads on, wherever a path starts. -/
def Part.isMove : Part → Bool
  | root | here => false
  | up | name _ => true

namespace Path

variable {p q : Path}

/-- The steps of a path that lead on, wherever it starts. -/
def moves (p : Path) : List Part := p.pieces.filterMap Part.ofPiece?

/-! ## Parts and moves -/

theorem mem_moves_iff {part : Part} :
    part ∈ p.moves ↔ ∃ piece ∈ p.pieces, Part.ofPiece? piece = some part := by
  simp only [moves, List.mem_filterMap]

theorem isMove_of_ofPiece? {piece : Text} {part : Part} (h : Part.ofPiece? piece = some part) :
    part.isMove = true ∧ part.text = piece := by
  unfold Part.ofPiece? at h
  split at h <;> cases h <;> exact ⟨rfl, rfl⟩

theorem parts_eq (p : Path) : ∃ start, p.parts = start ++ p.moves ∧
    (start = [] ∨ start = [.here] ∨ start = [.root]) ∧ (start = [.root] ↔ p.isRooted) := by
  unfold parts
  by_cases hrooted : p.isRooted
  · exact ⟨[.root], by simp [hrooted, moves], by simp, by simp [hrooted]⟩
  · by_cases hhere : p.pieces.head? = some ['.']
    · exact ⟨[.here], by simp [hrooted, hhere, moves], by simp, by simp [hrooted]⟩
    · exact ⟨[], by simp [hrooted, hhere, moves], by simp, by simp [hrooted]⟩

theorem filter_isMove_moves (p : Path) : p.moves.filter Part.isMove = p.moves := by
  apply List.filter_eq_self.mpr
  intro part hpart
  obtain ⟨piece, -, hpiece⟩ := mem_moves_iff.mp hpart
  exact (isMove_of_ofPiece? hpiece).1

theorem filter_isMove_parts (p : Path) : p.parts.filter Part.isMove = p.moves := by
  obtain ⟨start, hparts, hstart, -⟩ := p.parts_eq
  rw [hparts, List.filter_append, filter_isMove_moves]
  rcases hstart with rfl | rfl | rfl <;> rfl

theorem parts_of_isRooted (h : p.isRooted) : p.parts = .root :: p.moves := by
  obtain ⟨start, hparts, -, hstart⟩ := p.parts_eq
  rw [hparts, hstart.mpr h]
  rfl

theorem root_mem_parts_iff : .root ∈ p.parts ↔ p.isRooted := by
  refine ⟨fun hmem => ?_, fun h => by simp [parts_of_isRooted h]⟩
  obtain ⟨start, hparts, hstart, hrooted⟩ := p.parts_eq
  rw [hparts, List.mem_append] at hmem
  rcases hmem with hmem | hmem
  · rcases hstart with rfl | rfl | rfl
    · cases hmem
    · simp at hmem
    · exact hrooted.mp rfl
  · rw [← filter_isMove_moves, List.mem_filter] at hmem
    cases hmem.2

/-! ## Paths put together -/

theorem moves_append_slash (s t : Text) :
    moves ⟨s ++ '/' :: t⟩ = moves ⟨s⟩ ++ moves ⟨t⟩ := by
  simp only [moves, pieces, split_append_cons, List.filterMap_append]

theorem isRooted_append (h : p.isRooted) (s : Text) : (Path.mk (p.text ++ s)).isRooted := by
  have hne : p.text ≠ [] := by
    intro hnil
    simp [isRooted, hnil] at h
  rwa [isRooted, List.head?_append_of_ne_nil _ hne]

theorem isRooted_join (p q : Path) : (p.join q).isRooted = (p.isRooted || q.isRooted) := by
  unfold join
  by_cases hq : q.isRooted
  · simp [hq]
  · by_cases hp : p.text = []
    · simp [hp, isRooted]
    · have hhead (s : Text) : (Path.mk (p.text ++ s)).isRooted = p.isRooted := by
        simp only [isRooted, List.head?_append_of_ne_nil _ hp]
      simp only [hq, hp, Bool.false_eq_true, or_self, if_false, Bool.or_false]
      split <;> exact hhead _

theorem moves_join (p q : Path) :
    (p.join q).moves = if q.isRooted then q.moves else p.moves ++ q.moves := by
  obtain ⟨s⟩ := p
  have hnone : moves ⟨[]⟩ = [] := rfl
  unfold join
  by_cases hq : q.isRooted
  · simp [hq]
  · by_cases hs : s = []
    · simp [hs, hq, hnone]
    · simp only [hq, hs, Bool.false_eq_true, or_self, if_false]
      split
      next hslash =>
        -- the slash is there already, and nothing stands behind it
        obtain ⟨front, rfl⟩ := List.getLast?_eq_some_iff.mp hslash
        rw [List.append_assoc, List.singleton_append, moves_append_slash, moves_append_slash,
          hnone, List.append_nil]
      next => exact moves_append_slash s q.text

/-! ## Shown parts -/

/-- A name among the parts is a piece of the path, and so it holds no slash. -/
theorem ofPiece?_of_mem_parts {n : Text} (h : .name n ∈ p.parts) :
    Part.ofPiece? n = some (.name n) ∧ '/' ∉ n := by
  have hmove : .name n ∈ p.moves := by
    rw [← filter_isMove_parts]
    exact List.mem_filter.mpr ⟨h, rfl⟩
  obtain ⟨piece, hmem, hpiece⟩ := mem_moves_iff.mp hmove
  obtain rfl : n = piece := (isMove_of_ofPiece? hpiece).2
  exact ⟨hpiece, notMem_of_mem_split hmem⟩

theorem moves_text {part : Part} (h : part ∈ p.parts) :
    moves ⟨part.text⟩ = [part].filter Part.isMove := by
  cases part with
  | root => rfl
  | here => rfl
  | up => rfl
  | name n =>
      obtain ⟨hpiece, hslash⟩ := ofPiece?_of_mem_parts h
      have hsplit : split '/' n = [n] := split_of_notMem hslash
      have hkept : [Part.name n].filter Part.isMove = [.name n] := rfl
      simp [moves, pieces, Part.text, hsplit, hpiece, hkept]

/-- What is shown of parts of a path leads on as they do. -/
theorem moves_showParts {parts : List Part} (h : ∀ part ∈ parts, part ∈ p.parts) :
    moves ⟨showParts parts⟩ = parts.filter Part.isMove := by
  induction parts with
  | nil => rfl
  | cons part parts ih =>
      have hpart := moves_text (h part List.mem_cons_self)
      have hothers := ih fun other hother => h other (List.mem_cons_of_mem part hother)
      cases parts with
      | nil => exact hpart
      | cons next parts =>
          have hshow : showParts (part :: next :: parts) =
              part.text ++ '/' :: showParts (next :: parts) := by
            simp [showParts, Text.join]
          rw [hshow, moves_append_slash, hpart, hothers, ← List.filter_append]
          rfl

end Path

end SkipChecks
