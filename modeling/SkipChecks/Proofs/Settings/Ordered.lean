import Mathlib.Data.Char
import Mathlib.Data.List.Lex
import SkipChecks.Environment.Layer
import SkipChecks.Proofs.Basic

/-!
# Ordered values

In the values that layers give, the keys of every table ascend. Merging keeps this, and then what is
found under a key of merged tables is what is found under it in the two, merged.
-/

namespace SkipChecks

/-- The keys ascend, and each value is as it should be. -/
structure Entries.Tidy {ν : Type} (P : ν → Prop) (entries : List (Text × ν)) : Prop where
  ascending : entries.Pairwise (·.1 < ·.1)
  each : ∀ entry ∈ entries, P entry.2

namespace Value

variable {ν : Type} {P : ν → Prop} {key : Text} {a : ν} {below v : Value}

/-! ## Putting -/

theorem put_eq_insert (entries : List (Text × ν)) :
    put key a entries = SkipChecks.Entries.insert key a entries := by
  induction entries with
  | nil => rfl
  | cons first rest ih =>
      obtain ⟨k, b⟩ := first
      rw [put, SkipChecks.Entries.insert, ih]
      -- the two sides decide the same by different means
      split_ifs <;> rfl

theorem lookup_put (key k : Text) (a : ν) (entries : List (Text × ν)) :
    (put key a entries).lookup k = if k = key then some a else entries.lookup k := by
  rw [put_eq_insert, SkipChecks.Entries.lookup_insert]
  split_ifs <;> rfl

end Value

namespace Entries.Tidy

variable {ν : Type} {P : ν → Prop} {key : Text} {a : ν} {entries : List (Text × ν)}

theorem nil : Tidy P ([] : List (Text × ν)) := ⟨.nil, nofun⟩

theorem put (h : Tidy P entries) (ha : P a) : Tidy P (Value.put key a entries) := by
  rw [Value.put_eq_insert]
  refine ⟨insert_pairwise h.ascending, fun entry hentry => ?_⟩
  rcases mem_of_mem_insert hentry with rfl | hentry
  · exact ha
  · exact h.each entry hentry

theorem of_lookup (h : Tidy P entries) (hlookup : entries.lookup key = some a) : P a :=
  h.each _ (mem_of_lookup hlookup)

end Entries.Tidy

namespace Value

open SkipChecks.Entries (Tidy)

variable {key : Text} {below v : Value}

/-- The keys of every table in a value ascend. -/
inductive Ordered : Value → Prop
  | text (s : Text) : Ordered (.text s)
  | flag (b : Bool) : Ordered (.flag b)
  | number : Ordered .number
  | list {items : List Value} (hitems : ∀ v ∈ items, Ordered v) : Ordered (.list items)
  | table {entries : List (Text × Value)} (hascending : entries.Pairwise (·.1 < ·.1))
      (hentries : ∀ entry ∈ entries, Ordered entry.2) : Ordered (.table entries)

theorem ordered_table_iff {entries : Value.Entries} :
    (table entries).Ordered ↔ Tidy Ordered entries := by
  constructor
  · intro h
    cases h with
    | table hascending hentries => exact ⟨hascending, hentries⟩
  · exact fun h => .table h.ascending h.each

theorem ordered_tableOf {entries : Value.Entries} (h : ∀ entry ∈ entries, entry.2.Ordered) :
    (tableOf entries).Ordered := by
  rw [tableOf, ordered_table_iff]
  refine List.foldlRecOn entries _ Tidy.nil fun below hbelow entry hentry => ?_
  exact hbelow.put (h entry hentry)

/-! ## Merging -/

/-- A value over what is found below it, if anything is. -/
def onto (below : Option Value) (v : Value) : Value :=
  match below with
  | some below => merge below v
  | none => v

theorem mergeEntries_cons (entries : Value.Entries) (key : Text) (v : Value)
    (others : Value.Entries) :
    mergeEntries entries ((key, v) :: others) =
      mergeEntries (put key (onto (entries.lookup key) v) entries) others := by
  rw [mergeEntries]
  rfl

theorem lookup_mergeEntries {others : Value.Entries} (h : others.Pairwise (·.1 < ·.1))
    (entries : Value.Entries) (k : Text) :
    (mergeEntries entries others).lookup k =
      ((others.lookup k).map (onto (entries.lookup k))).or (entries.lookup k) := by
  induction others generalizing entries with
  | nil => rw [mergeEntries, List.lookup_nil, Option.map_none, Option.none_or]
  | cons first rest ih =>
      obtain ⟨key, v⟩ := first
      obtain ⟨hfirst, hrest⟩ := List.pairwise_cons.mp h
      rw [mergeEntries_cons, ih hrest, lookup_put, SkipChecks.Entries.lookup_cons]
      split
      next heq =>
        -- the key of the first entry does not come again
        have hnone : rest.lookup k = none :=
          SkipChecks.Entries.lookup_eq_none fun entry hentry => heq ▸ ne_of_lt (hfirst entry hentry)
        subst heq
        rw [hnone, Option.map_none, Option.none_or, Option.map_some, Option.some_or]
      next => rfl

theorem tidy_mergeEntries {entries others : Value.Entries} (h : Tidy Ordered entries)
    (hothers : ∀ entry ∈ others, entry.2.Ordered ∧
      ∀ below, Ordered below → (merge below entry.2).Ordered) :
    Tidy Ordered (mergeEntries entries others) := by
  induction others generalizing entries with
  | nil =>
      rw [mergeEntries]
      exact h
  | cons first rest ih =>
      obtain ⟨key, v⟩ := first
      obtain ⟨hv, hmerge⟩ := hothers _ List.mem_cons_self
      rw [mergeEntries_cons]
      refine ih (h.put ?_) fun entry hentry => hothers entry (List.mem_cons_of_mem _ hentry)
      cases hlookup : entries.lookup key with
      | none => exact hv
      | some below => exact hmerge below (h.of_lookup hlookup)

/-- Merging keeps keys in order. -/
theorem Ordered.merge (hbelow : below.Ordered) (h : v.Ordered) : (merge below v).Ordered := by
  induction h generalizing below with
  | text s => cases below <;> exact .text s
  | flag b => cases below <;> exact .flag b
  | number => cases below <;> exact .number
  | list hitems => cases below <;> exact .list hitems
  | @table entries hascending hentries ih =>
      cases below with
      | table others =>
          rw [Value.merge, ordered_table_iff]
          exact tidy_mergeEntries (ordered_table_iff.mp hbelow)
            fun entry hentry => ⟨hentries entry hentry, fun below => ih entry hentry⟩
      | _ => exact .table hascending hentries

theorem tidy_merge {entries others : Value.Entries} (h : Tidy Ordered entries)
    (hothers : Tidy Ordered others) : Tidy Ordered (mergeEntries entries others) :=
  tidy_mergeEntries h fun entry hentry =>
    ⟨hothers.each entry hentry, fun _ hbelow => hbelow.merge (hothers.each entry hentry)⟩

/-! ## Settling -/

theorem keys_of_settleEntries? {entries after : Value.Entries}
    (h : settleEntries? entries = some after) : after.map Prod.fst = entries.map Prod.fst := by
  induction entries generalizing after with
  | nil =>
      rw [settleEntries?] at h
      cases h
      rfl
  | cons first rest ih =>
      obtain ⟨key, v⟩ := first
      rw [settleEntries?] at h
      obtain ⟨u, -, h⟩ := Option.bind_eq_some_iff.mp h
      obtain ⟨others, hothers, hsome⟩ := Option.bind_eq_some_iff.mp h
      cases hsome
      rw [List.map_cons, List.map_cons, ih hothers]

theorem ordered_of_settleEntries? {entries after : Value.Entries}
    (hentries : ∀ entry ∈ entries, ∀ {u : Value}, settle? entry.2 = some u → u.Ordered)
    (h : settleEntries? entries = some after) : ∀ entry ∈ after, entry.2.Ordered := by
  induction entries generalizing after with
  | nil =>
      rw [settleEntries?] at h
      cases h
      exact nofun
  | cons first rest ih =>
      obtain ⟨key, v⟩ := first
      rw [settleEntries?] at h
      obtain ⟨u, hu, h⟩ := Option.bind_eq_some_iff.mp h
      obtain ⟨others, hothers, hsome⟩ := Option.bind_eq_some_iff.mp h
      cases hsome
      rw [List.forall_mem_cons] at hentries ⊢
      exact ⟨hentries.1 hu, ih hentries.2 hothers⟩

theorem ordered_of_settleItems? {items after : List Value}
    (hitems : ∀ v ∈ items, ∀ {u : Value}, settle? v = some u → u.Ordered)
    (h : settleItems? items = some after) : ∀ v ∈ after, v.Ordered := by
  induction items generalizing after with
  | nil =>
      rw [settleItems?] at h
      cases h
      exact nofun
  | cons v rest ih =>
      rw [settleItems?] at h
      obtain ⟨u, hu, h⟩ := Option.bind_eq_some_iff.mp h
      obtain ⟨others, hothers, hsome⟩ := Option.bind_eq_some_iff.mp h
      cases hsome
      rw [List.forall_mem_cons] at hitems ⊢
      exact ⟨hitems.1 hu, ih hitems.2 hothers⟩

theorem tidy_of_keys {entries after : Value.Entries} (h : entries.Pairwise (·.1 < ·.1))
    (hkeys : after.map Prod.fst = entries.map Prod.fst)
    (hafter : ∀ entry ∈ after, entry.2.Ordered) : Tidy Ordered after := by
  refine ⟨?_, hafter⟩
  have hpairwise : (entries.map Prod.fst).Pairwise (· < ·) := List.pairwise_map.mpr h
  rw [← hkeys] at hpairwise
  exact List.pairwise_map.mp hpairwise

/-- A value stays in order when tables in it are replaced by values that they stand for. -/
theorem Ordered.settle? {after : Value} (h : v.Ordered) (hsettle : v.settle? = some after) :
    after.Ordered := by
  induction h generalizing after with
  | text s =>
      cases hsettle
      exact .text s
  | flag b =>
      cases hsettle
      exact .flag b
  | number =>
      cases hsettle
      exact .number
  | list _ ih =>
      rw [Value.settle?] at hsettle
      obtain ⟨items, hitems, hsome⟩ := Option.bind_eq_some_iff.mp hsettle
      cases hsome
      exact .list (ordered_of_settleItems? (fun v hv _ => ih v hv) hitems)
  | table hascending _ ih =>
      rw [Value.settle?] at hsettle
      obtain ⟨entries, hentries, hsettle⟩ := Option.bind_eq_some_iff.mp hsettle
      have htidy := tidy_of_keys hascending (keys_of_settleEntries? hentries)
        (ordered_of_settleEntries? (fun entry hentry _ => ih entry hentry) hentries)
      split at hsettle
      next => cases hsettle
      next =>
        cases hsettle
        cases hlookup : entries.lookup standInKey with
        | none => exact ordered_table_iff.mpr htidy
        | some u => exact htidy.of_lookup hlookup

theorem tidy_settleEntries? {entries after : Value.Entries} (h : Tidy Ordered entries)
    (hsettle : settleEntries? entries = some after) : Tidy Ordered after :=
  tidy_of_keys h.ascending (keys_of_settleEntries? hsettle)
    (ordered_of_settleEntries? (fun entry hentry _ => (h.each entry hentry).settle?) hsettle)

end Value

end SkipChecks
