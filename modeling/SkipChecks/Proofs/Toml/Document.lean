import SkipChecks.Proofs.Settings.Ordered
import SkipChecks.Toml.Document

/-!
# Documents have their keys in order

Whatever lines a document has, the keys of every table in it ascend: each change of a table keeps
this, at any depth.
-/

namespace SkipChecks.Toml

open SkipChecks.Entries (Tidy)

/-! ## Nodes -/

/-- The keys of every table in what stands under a key ascend. -/
inductive Node.Ordered : Node → Prop
  | value {v : Value} (hv : v.Ordered) : Ordered (.value v)
  | table {implied dotted : Bool} {entries : List (Text × Node)}
      (hascending : entries.Pairwise (·.1 < ·.1)) (hentries : ∀ entry ∈ entries, Ordered entry.2) :
      Ordered (.table implied dotted entries)
  | tables {list : List (List (Text × Node))}
      (hascending : ∀ entries ∈ list, entries.Pairwise (·.1 < ·.1))
      (hentries : ∀ entries ∈ list, ∀ entry ∈ entries, Ordered entry.2) : Ordered (.tables list)

namespace Node

variable {keys : List Text} {key : Text} {isDotted dotted implied : Bool} {entries after : Nodes}
  {f : Bool → Nodes → Option Nodes}

theorem ordered_table_iff : (table implied dotted entries).Ordered ↔ Tidy Ordered entries := by
  constructor
  · intro h
    cases h with
    | table hascending hentries => exact ⟨hascending, hentries⟩
  · exact fun h => .table h.ascending h.each

theorem ordered_tables_iff {list : List Nodes} :
    (tables list).Ordered ↔ ∀ entries ∈ list, Tidy Ordered entries := by
  constructor
  · intro h
    cases h with
    | tables hascending hentries =>
        exact fun entries hmem => ⟨hascending entries hmem, hentries entries hmem⟩
  · exact fun h => .tables (fun entries hmem => (h entries hmem).ascending)
      fun entries hmem => (h entries hmem).each

theorem toEntries_eq_map (entries : Nodes) :
    toEntries entries = entries.map fun entry => (entry.1, toValue entry.2) := by
  induction entries with
  | nil => rw [toEntries, List.map_nil]
  | cons first rest ih =>
      obtain ⟨key, node⟩ := first
      rw [toEntries, ih, List.map_cons]

theorem toItems_eq_map (list : List Nodes) :
    toItems list = list.map fun entries => .table (toEntries entries) := by
  induction list with
  | nil => rw [toItems, List.map_nil]
  | cons first rest ih => rw [toItems, ih, List.map_cons]

theorem tidy_toEntries_of (hascending : entries.Pairwise (·.1 < ·.1))
    (hentries : ∀ entry ∈ entries, (toValue entry.2).Ordered) :
    Tidy Value.Ordered (toEntries entries) := by
  rw [toEntries_eq_map]
  refine ⟨List.pairwise_map.mpr hascending, fun entry hentry => ?_⟩
  obtain ⟨source, hsource, rfl⟩ := List.mem_map.mp hentry
  exact hentries source hsource

theorem Ordered.toValue {node : Node} (h : node.Ordered) : node.toValue.Ordered := by
  induction h with
  | value hv =>
      rw [Node.toValue]
      exact hv
  | table hascending _ ih =>
      rw [Node.toValue, Value.ordered_table_iff]
      exact tidy_toEntries_of hascending ih
  | tables hascending _ ih =>
      rw [Node.toValue, toItems_eq_map]
      refine .list fun v hv => ?_
      obtain ⟨entries, hmem, rfl⟩ := List.mem_map.mp hv
      exact Value.ordered_table_iff.mpr
        (tidy_toEntries_of (hascending entries hmem) (ih entries hmem))

theorem tidy_toEntries (h : Tidy Ordered entries) : Tidy Value.Ordered (toEntries entries) :=
  tidy_toEntries_of h.ascending fun entry hentry => (h.each entry hentry).toValue

/-! ## Changes -/

/-- A change below a path of keys keeps keys in order when the change itself does. -/
theorem tidy_change (hf : ∀ isDotted {entries after : Nodes}, Tidy Ordered entries →
      f isDotted entries = some after → Tidy Ordered after)
    (h : Tidy Ordered entries) (hchange : change dotted f keys isDotted entries = some after) :
    Tidy Ordered after := by
  induction keys generalizing isDotted entries after with
  | nil => exact hf isDotted h hchange
  | cons key keys ih =>
      rw [change] at hchange
      split at hchange
      next =>
        obtain ⟨inner, hinner, hsome⟩ := Option.bind_eq_some_iff.mp hchange
        cases hsome
        exact h.put (ordered_table_iff.mpr (ih .nil hinner))
      next => cases hchange
      next list hlookup =>
        obtain ⟨last, hlast, hchange⟩ := Option.bind_eq_some_iff.mp hchange
        obtain ⟨inner, hinner, hsome⟩ := Option.bind_eq_some_iff.mp hchange
        cases hsome
        have hlist := ordered_tables_iff.mp (h.of_lookup hlookup)
        refine h.put (ordered_tables_iff.mpr fun entries hmem => ?_)
        rcases List.mem_append.mp hmem with hfront | hback
        · exact hlist entries ((List.dropLast_sublist list).subset hfront)
        · rw [List.mem_singleton.mp hback]
          exact ih (hlist last (List.mem_of_getLast? hlast)) hinner
      next hlookup =>
        split at hchange
        next => cases hchange
        next =>
          obtain ⟨inner, hinner, hsome⟩ := Option.bind_eq_some_iff.mp hchange
          cases hsome
          exact h.put (ordered_table_iff.mpr (ih (ordered_table_iff.mp (h.of_lookup hlookup)) hinner))

theorem tidy_set {v : Value} (hv : v.Ordered) (h : Tidy Ordered entries)
    (hset : set keys key v entries = some after) : Tidy Ordered after := by
  refine tidy_change (fun isDotted entries after hentries hafter => ?_) h hset
  split at hafter
  next => cases hafter
  next =>
    cases hafter
    exact hentries.put (.value hv)

end Node

/-! ## Values -/

/-- What is read in so many steps has its keys in order. -/
structure ReadsOrdered (fuel : Nat) : Prop where
  value : ∀ {depth : Nat} {s rest : Text} {v : Value}, value? fuel depth s = some (v, rest) →
    v.Ordered
  items : ∀ {depth : Nat} {s rest : Text} {items : List Value},
    items? fuel depth s = some (items, rest) → ∀ v ∈ items, v.Ordered
  members : ∀ {depth : Nat} {s rest : Text} {entries after : Nodes},
    Tidy Node.Ordered entries → members? fuel depth entries s = some (after, rest) →
      Tidy Node.Ordered after

theorem readsOrdered (fuel : Nat) : ReadsOrdered fuel := by
  induction fuel with
  | zero => exact ⟨nofun, nofun, nofun⟩
  | succ fuel ih =>
      constructor
      case value =>
        intro depth s rest v h
        unfold value? at h
        split at h
        case h_1 | h_2 =>
          obtain ⟨⟨content, after⟩, -, heq⟩ := Option.map_eq_some_iff.mp h
          cases heq
          exact .text content
        case h_3 =>
          split at h
          next =>
            obtain ⟨⟨items, after⟩, hitems, heq⟩ := Option.map_eq_some_iff.mp h
            cases heq
            exact .list (ih.items hitems)
          next => cases h
        case h_4 =>
          split at h
          next =>
            split at h
            next =>
              cases h
              exact .table .nil nofun
            next =>
              obtain ⟨⟨entries, after⟩, hmembers, heq⟩ := Option.map_eq_some_iff.mp h
              cases heq
              exact Value.ordered_table_iff.mpr (Node.tidy_toEntries (ih.members .nil hmembers))
          next => cases h
        case h_5 =>
          cases h
          exact .flag true
        case h_6 =>
          cases h
          exact .flag false
        case h_7 =>
          obtain ⟨moment, -, h⟩ := Option.bind_eq_some_iff.mp h
          split at h
          next shown _ =>
            cases h
            exact Value.ordered_table_iff.mpr (Tidy.nil.put (.text shown))
          next =>
            obtain ⟨after, -, heq⟩ := Option.map_eq_some_iff.mp h
            cases heq
            exact .number
      case items =>
        intro depth s rest items h
        unfold items? at h
        obtain ⟨start, -, h⟩ := Option.bind_eq_some_iff.mp h
        split at h
        next =>
          cases h
          exact nofun
        next =>
          obtain ⟨⟨item, middle⟩, hitem, h⟩ := Option.bind_eq_some_iff.mp h
          obtain ⟨behind, -, h⟩ := Option.bind_eq_some_iff.mp h
          split at h
          next =>
            obtain ⟨⟨others, after⟩, hothers, heq⟩ := Option.map_eq_some_iff.mp h
            cases heq
            exact List.forall_mem_cons.mpr ⟨ih.value hitem, ih.items hothers⟩
          next =>
            cases h
            exact List.forall_mem_singleton.mpr (ih.value hitem)
          next => cases h
      case members =>
        intro depth s rest entries after hentries h
        rw [members?] at h
        obtain ⟨⟨path, middle⟩, -, h⟩ := Option.bind_eq_some_iff.mp h
        obtain ⟨middle, -, h⟩ := Option.bind_eq_some_iff.mp h
        obtain ⟨⟨v, middle⟩, hv, h⟩ := Option.bind_eq_some_iff.mp h
        obtain ⟨changed, hset, hrest⟩ := Option.bind_eq_some_iff.mp h
        have hchanged := Node.tidy_set (ih.value hv) hentries hset
        split at hrest
        next => exact ih.members hchanged hrest
        next =>
          cases hrest
          exact hchanged
        next => cases hrest

/-! ## Documents -/

namespace Document

variable {document after : Document} {path : List Text} {s rest : Text}

theorem tidy_setKey {v : Value} (hv : v.Ordered) (h : Tidy Node.Ordered document.nodes)
    (hset : document.setKey path v = some after) : Tidy Node.Ordered after.nodes := by
  obtain ⟨nodes, hchange, hsome⟩ := Option.bind_eq_some_iff.mp hset
  cases hsome
  exact Node.tidy_change (fun _ _ _ hentries hafter => Node.tidy_set hv hentries hafter) h hchange

theorem tidy_openTable (h : Tidy Node.Ordered document.nodes)
    (hopen : document.openTable path = some after) : Tidy Node.Ordered after.nodes := by
  obtain ⟨nodes, hchange, hsome⟩ := Option.bind_eq_some_iff.mp hopen
  cases hsome
  refine Node.tidy_change (fun _ entries after hentries hafter => ?_) h hchange
  split at hafter
  next =>
    cases hafter
    exact hentries.put (.table .nil nofun)
  next hlookup =>
    cases hafter
    exact hentries.put (Node.ordered_table_iff.mpr
      (Node.ordered_table_iff.mp (hentries.of_lookup hlookup)))
  next => cases hafter

theorem tidy_openItem (h : Tidy Node.Ordered document.nodes)
    (hopen : document.openItem path = some after) : Tidy Node.Ordered after.nodes := by
  obtain ⟨nodes, hchange, hsome⟩ := Option.bind_eq_some_iff.mp hopen
  cases hsome
  refine Node.tidy_change (fun _ entries after hentries hafter => ?_) h hchange
  split at hafter
  next =>
    cases hafter
    refine hentries.put (Node.ordered_tables_iff.mpr fun entries hmem => ?_)
    rw [List.mem_singleton.mp hmem]
    exact .nil
  next list hlookup =>
    cases hafter
    have hlist := Node.ordered_tables_iff.mp (hentries.of_lookup hlookup)
    refine hentries.put (Node.ordered_tables_iff.mpr fun entries hmem => ?_)
    rcases List.mem_append.mp hmem with hfront | hback
    · exact hlist entries hfront
    · rw [List.mem_singleton.mp hback]
      exact .nil
  next => cases hafter

theorem tidy_statement? (h : Tidy Node.Ordered document.nodes)
    (hread : document.statement? s = some (after, rest)) : Tidy Node.Ordered after.nodes := by
  unfold statement? at hread
  split at hread
  next =>
    obtain ⟨⟨path, middle⟩, -, hread⟩ := Option.bind_eq_some_iff.mp hread
    obtain ⟨middle, -, hread⟩ := Option.bind_eq_some_iff.mp hread
    obtain ⟨changed, hopen, hsome⟩ := Option.bind_eq_some_iff.mp hread
    cases hsome
    exact tidy_openItem h hopen
  next =>
    obtain ⟨⟨path, middle⟩, -, hread⟩ := Option.bind_eq_some_iff.mp hread
    obtain ⟨middle, -, hread⟩ := Option.bind_eq_some_iff.mp hread
    obtain ⟨changed, hopen, hsome⟩ := Option.bind_eq_some_iff.mp hread
    cases hsome
    exact tidy_openTable h hopen
  next =>
    obtain ⟨⟨path, middle⟩, -, hread⟩ := Option.bind_eq_some_iff.mp hread
    obtain ⟨middle, -, hread⟩ := Option.bind_eq_some_iff.mp hread
    obtain ⟨⟨v, middle⟩, hv, hread⟩ := Option.bind_eq_some_iff.mp hread
    obtain ⟨changed, hset, hsome⟩ := Option.bind_eq_some_iff.mp hread
    cases hsome
    exact tidy_setKey ((readsOrdered _).value hv) h hset

theorem tidy_lines? {fuel : Nat} (h : Tidy Node.Ordered document.nodes)
    (hread : lines? fuel document s = some after) : Tidy Node.Ordered after.nodes := by
  induction fuel generalizing document s with
  | zero => cases hread
  | succ fuel ih =>
      rw [lines?] at hread
      obtain ⟨start, -, hread⟩ := Option.bind_eq_some_iff.mp hread
      split at hread
      next =>
        cases hread
        exact h
      next =>
        obtain ⟨⟨changed, middle⟩, hstatement, hread⟩ := Option.bind_eq_some_iff.mp hread
        dsimp only at hread
        split at hread
        next => exact ih (tidy_statement? h hstatement) hread
        next => cases hread

/-- The keys of every table in a document ascend. -/
theorem tidy_ofText? {entries : Value.Entries} (h : ofText? s = some entries) :
    Tidy Value.Ordered entries := by
  obtain ⟨document, hlines, hsettle⟩ := Option.bind_eq_some_iff.mp h
  have hnodes : Tidy Node.Ordered document.nodes := tidy_lines? .nil hlines
  exact Value.tidy_settleEntries? (Node.tidy_toEntries hnodes) hsettle

end Document

end SkipChecks.Toml
