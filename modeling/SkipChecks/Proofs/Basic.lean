import Mathlib.Data.List.Sort

/-!
# Results and entries

What is computed stage by stage succeeds when every stage does. Where each key is listed once, what is
found under a key is what is listed, and a list that ascends is known by what is found in it. Entries
are put in so that a list keeps ascending.
-/

namespace SkipChecks

section Stages

variable {ε α β : Type} {first : Except ε α} {b : β}

theorem exists_of_bind {next : α → Except ε β} (h : first >>= next = .ok b) :
    ∃ a, first = .ok a ∧ next a = .ok b := by
  cases first with
  | error e => cases h
  | ok a => exact ⟨a, rfl, h⟩

theorem exists_of_map {f : α → β} (h : first.map f = .ok b) : ∃ a, first = .ok a ∧ f a = b := by
  cases first with
  | error e => cases h
  | ok a => exact ⟨a, rfl, Except.ok.inj h⟩

end Stages

namespace Entries

variable {κ ν : Type} {k : κ} {v : ν} {entries : List (κ × ν)}

section Lookup

variable [BEq κ] [LawfulBEq κ]

theorem lookup_cons [DecidableEq κ] (i : κ) :
    ((k, v) :: entries).lookup i = if i = k then some v else entries.lookup i := by
  rw [List.lookup_cons]
  by_cases h : i = k
  · simp [h]
  · rw [beq_eq_false_iff_ne.mpr h, if_neg h]

theorem mem_of_lookup (h : entries.lookup k = some v) : (k, v) ∈ entries := by
  obtain ⟨before, after, hentries, -⟩ := List.lookup_eq_some_iff.mp h
  rw [hentries]
  exact List.mem_append_right before List.mem_cons_self

theorem lookup_eq_none (h : ∀ entry ∈ entries, k ≠ entry.1) : entries.lookup k = none :=
  List.lookup_eq_none_iff.mpr fun entry hentry => bne_iff_ne.mpr (h entry hentry)

theorem lookup_eq_some_iff (h : entries.Pairwise (·.1 ≠ ·.1)) :
    entries.lookup k = some v ↔ (k, v) ∈ entries := by
  refine ⟨mem_of_lookup, fun hmem => ?_⟩
  obtain ⟨before, after, rfl⟩ := List.append_of_mem hmem
  rw [List.pairwise_append] at h
  rw [List.lookup_eq_some_iff]
  refine ⟨before, after, rfl, fun entry hentry => ?_⟩
  -- what is listed before has another key
  exact bne_iff_ne.mpr (h.2.2 entry hentry _ List.mem_cons_self).symm

end Lookup

/-- Where only the first of equal members is kept, none is listed twice. -/
theorem nodup_eraseDups {α : Type} [BEq α] [LawfulBEq α] (l : List α) : l.eraseDups.Nodup := by
  induction hlength : l.length using Nat.strongRecOn generalizing l with
  | ind length ih =>
      cases l with
      | nil => simp
      | cons x l =>
          rw [List.length_cons] at hlength
          have hshorter := List.length_filter_le (fun y => !y == x) l
          rw [List.eraseDups_cons]
          refine List.nodup_cons.mpr ⟨fun hmem => ?_, ih _ (by omega) _ rfl⟩
          have hkept := (List.mem_filter.mp (List.mem_eraseDups.mp hmem)).2
          simp at hkept

variable [LinearOrder κ]

/-- Lists that ascend along a key are the same when they have the same members. -/
theorem eq_of_mem_iff {α : Type} {key : α → κ} {first second : List α}
    (hfirst : first.Pairwise (key · < key ·)) (hsecond : second.Pairwise (key · < key ·))
    (h : ∀ x, x ∈ first ↔ x ∈ second) : first = second := by
  have : Std.Irrefl fun x y => key x < key y := ⟨fun x => lt_irrefl (key x)⟩
  have : Std.Antisymm fun x y => key x < key y := ⟨fun x y hlt hgt => absurd hlt (lt_asymm hgt)⟩
  exact List.Pairwise.eq_of_mem_iff hfirst hsecond h

theorem eq_of_lookup [BEq κ] [LawfulBEq κ] {first second : List (κ × ν)}
    (hfirst : first.Pairwise (·.1 < ·.1)) (hsecond : second.Pairwise (·.1 < ·.1))
    (h : ∀ k, first.lookup k = second.lookup k) : first = second := by
  refine eq_of_mem_iff hfirst hsecond fun entry => ?_
  obtain ⟨k, v⟩ := entry
  rw [← lookup_eq_some_iff (hfirst.imp ne_of_lt), ← lookup_eq_some_iff (hsecond.imp ne_of_lt), h]

/-- Puts a value under a key, over the value that was there. -/
def insert (k : κ) (v : ν) : List (κ × ν) → List (κ × ν)
  | [] => [(k, v)]
  | (j, u) :: rest =>
    if k < j then (k, v) :: (j, u) :: rest
    else if k = j then (k, v) :: rest
    else (j, u) :: insert k v rest

theorem mem_of_mem_insert {entry : κ × ν} (h : entry ∈ insert k v entries) :
    entry = (k, v) ∨ entry ∈ entries := by
  induction entries with
  | nil => exact .inl (List.mem_singleton.mp h)
  | cons first rest ih =>
      obtain ⟨j, u⟩ := first
      rw [insert] at h
      split at h
      · exact List.mem_cons.mp h
      · split at h
        · rcases List.mem_cons.mp h with h | h
          · exact .inl h
          · exact .inr (List.mem_cons_of_mem _ h)
        · rcases List.mem_cons.mp h with rfl | h
          · exact .inr List.mem_cons_self
          · exact (ih h).imp_right (List.mem_cons_of_mem _)

theorem insert_pairwise (h : entries.Pairwise (·.1 < ·.1)) :
    (insert k v entries).Pairwise (·.1 < ·.1) := by
  induction entries with
  | nil => exact List.pairwise_singleton _ _
  | cons first rest ih =>
      obtain ⟨j, u⟩ := first
      obtain ⟨hfirst, hrest⟩ := List.pairwise_cons.mp h
      rw [insert]
      split
      next hlt =>
        refine .cons (fun entry hentry => ?_) h
        rcases List.mem_cons.mp hentry with rfl | hentry
        · exact hlt
        · exact hlt.trans (hfirst entry hentry)
      next hnot =>
        split
        next heq => exact .cons (heq ▸ hfirst) hrest
        next hne =>
          refine .cons (fun entry hentry => ?_) (ih hrest)
          rcases mem_of_mem_insert hentry with rfl | hentry
          · exact lt_of_le_of_ne (not_lt.mp hnot) (Ne.symm hne)
          · exact hfirst entry hentry

theorem lookup_insert [BEq κ] [LawfulBEq κ] (k i : κ) (v : ν) (entries : List (κ × ν)) :
    (insert k v entries).lookup i = if i = k then some v else entries.lookup i := by
  induction entries with
  | nil => rw [insert, lookup_cons]
  | cons first rest ih =>
      obtain ⟨j, u⟩ := first
      rw [insert]
      split
      next => rw [lookup_cons]
      next =>
        split
        next heq =>
          subst heq
          rw [lookup_cons, lookup_cons]
          split <;> rfl
        next hne =>
          rw [lookup_cons, lookup_cons, ih]
          split
          next heq => rw [if_neg (heq ▸ Ne.symm hne)]
          next => rfl

end Entries

end SkipChecks
