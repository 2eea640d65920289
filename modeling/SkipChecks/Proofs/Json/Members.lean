import SkipChecks.Json.Value

/-!
# Members of objects

What is read under a key of an object, and which values are read as texts and numbers.
-/

namespace SkipChecks.Json

variable {α : Type} {members : List (Option Text × Json)} {key : Text} {absent a : α}

/-- What the members of an object tell under a key: what the value of the only member with the key
means or, without such a member, what counts as absent. Two of them tell nothing. -/
inductive Tells (members : List (Option Text × Json)) (key : Text) (absent : α)
    (means : Json → α → Prop) : α → Prop
  | absent (h : ∀ member ∈ members, member.1 ≠ some key) : Tells members key absent means absent
  | present {before after : List (Option Text × Json)} {value : Json} {a : α}
      (hmembers : members = before ++ (some key, value) :: after)
      (hbefore : ∀ member ∈ before, member.1 ≠ some key)
      (hafter : ∀ member ∈ after, member.1 ≠ some key) (h : means value a) :
      Tells members key absent means a

theorem field?_eq_some_iff {read? : Json → Option α} :
    field? members key absent read? = some a ↔
      Tells members key absent (fun value a => read? value = some a) a := by
  rw [field?]
  constructor
  · intro h
    split at h
    next hnone =>
      cases h
      exact .absent (by simpa [List.filter_eq_nil_iff] using hnone)
    next k value hone =>
      obtain ⟨before, after, hmembers, hbefore, hkey, hafter⟩ := List.filter_eq_cons_iff.mp hone
      obtain rfl : k = some key := by simpa using hkey
      refine .present hmembers (by simpa using hbefore) ?_ h
      simpa [List.filter_eq_nil_iff] using hafter
    next => cases h
  · intro h
    cases h with
    | absent h =>
        have hnone : members.filter (·.1 == some key) = [] := by
          simpa [List.filter_eq_nil_iff] using h
        rw [hnone]
    | @present before after value a hmembers hbefore hafter h =>
        have hfront : before.filter (·.1 == some key) = [] := by
          simpa [List.filter_eq_nil_iff] using hbefore
        have hback : after.filter (·.1 == some key) = [] := by
          simpa [List.filter_eq_nil_iff] using hafter
        rw [hmembers, List.filter_append, hfront, List.filter_cons_of_pos (by simp), hback,
          List.nil_append]
        exact h

theorem members?_eq_some_iff {listed : List (Option Text × Json)} :
    members? (.object members) = some listed ↔
      listed = members ∧ ∀ member ∈ members, member.1 ≠ none := by
  have hkeys : members.all (·.1.isSome) ↔ ∀ member ∈ members, member.1 ≠ none := by
    simp [List.all_eq_true, Option.isSome_iff_ne_none]
  rw [members?, ← hkeys]
  split
  next h => simp [h, eq_comm]
  next h => simp [h]

theorem text?_eq_some_iff {value : Json} {name : Text} :
    text? value = some name ↔ value = .string (some name) := by
  cases value <;> simp [text?]

theorem texts?_strings (names : List Text) :
    texts? (.array (names.map fun name => .string (some name))) = some names := by
  rw [texts?, List.mapM_map]
  induction names with
  | nil => rfl
  | cons name names ih =>
      rw [List.mapM_cons, ih]
      rfl

theorem eq_of_mapM_text? {items : List Json} {names : List Text}
    (h : items.mapM text? = some names) : items = names.map fun name => .string (some name) := by
  induction items generalizing names with
  | nil =>
      cases h
      rfl
  | cons item items ih =>
      simp only [List.mapM_cons, Option.bind_eq_bind, Option.bind_eq_some_iff, Option.pure_def,
        Option.some.injEq] at h
      obtain ⟨name, hname, others, hothers, rfl⟩ := h
      rw [List.map_cons, ← ih hothers, text?_eq_some_iff.mp hname]

theorem texts?_eq_some_iff {value : Json} {names : List Text} :
    texts? value = some names ↔
      value = .array (names.map fun name => .string (some name)) := by
  constructor
  · intro h
    cases value with
    | array items => rw [eq_of_mapM_text? h]
    | _ => cases h
  · rintro rfl
    exact texts?_strings names

theorem textOrNull?_eq_some_iff {value : Json} {content : Option Text} :
    textOrNull? value = some content ↔
      value = .null ∧ content = none ∨ ∃ s, value = .string (some s) ∧ content = some s := by
  cases value with
  | null => simp [textOrNull?, eq_comm]
  | string s => cases s <;> simp [textOrNull?, eq_comm]
  | _ => simp [textOrNull?]

theorem word?_eq_some_iff {value : Json} {n : UInt64} :
    word? value = some n ↔ value = .natural n.toNat := by
  cases value with
  | natural m =>
      rw [word?]
      split
      next hlt =>
        rw [Option.some.injEq, Json.natural.injEq]
        constructor
        · rintro rfl
          exact (UInt64.toNat_ofNat_of_lt hlt).symm
        · rintro rfl
          exact UInt64.ofNat_toNat
      next hge =>
        rw [Json.natural.injEq]
        refine iff_of_false (by simp) ?_
        rintro rfl
        exact hge n.toNat_lt
  | _ => simp [word?]

end SkipChecks.Json
