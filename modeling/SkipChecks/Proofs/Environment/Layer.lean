import SkipChecks.Proofs.Settings.Ordered

/-!
# What an environment gives

A setting comes from the variables that are named for it, in whatever case, in the order in which the
environment lists them. Variables with other names do not matter.
-/

namespace SkipChecks.Environment

open SkipChecks.Entries (Tidy)

/-- What is read in so many steps has its keys in order. -/
structure ReadsOrdered (fuel : Nat) : Prop where
  value : ∀ {s rest : Text} {v : Value}, value? fuel s = some (v, rest) → v.Ordered
  items : ∀ {s rest : Text} {items : List Value}, items? fuel s = some (items, rest) →
    ∀ v ∈ items, v.Ordered
  members : ∀ {s rest : Text} {entries : Value.Entries}, members? fuel s = some (entries, rest) →
    ∀ entry ∈ entries, entry.2.Ordered

theorem readsOrdered (fuel : Nat) : ReadsOrdered fuel := by
  induction fuel with
  | zero => exact ⟨nofun, nofun, nofun⟩
  | succ fuel ih =>
      constructor
      case value =>
        intro s rest v h
        rw [value?] at h
        split at h <;> obtain ⟨⟨u, middle⟩, hread, hsome⟩ := Option.bind_eq_some_iff.mp h <;>
          cases hsome
        next =>
          cases hread
          exact .flag true
        next =>
          cases hread
          exact .flag false
        next =>
          obtain ⟨⟨entries, after⟩, hmembers, heq⟩ := Option.map_eq_some_iff.mp hread
          cases heq
          exact Value.ordered_tableOf (ih.members hmembers)
        next =>
          obtain ⟨⟨items, after⟩, hitems, heq⟩ := Option.map_eq_some_iff.mp hread
          cases heq
          exact .list (ih.items hitems)
        next =>
          obtain ⟨⟨content, after⟩, -, heq⟩ := Option.map_eq_some_iff.mp hread
          cases heq
          exact .text content
        next =>
          cases hread
          exact .text _
        next => cases hread
        next =>
          cases hread
          unfold ofWord
          split
          · exact .number
          · exact .text _
      case items =>
        intro s rest items h
        unfold items? at h
        split at h
        next => cases h
        next =>
          cases h
          exact nofun
        next hfuel _ =>
          cases hfuel
          obtain ⟨⟨item, middle⟩, hitem, hrest⟩ := Option.bind_eq_some_iff.mp h
          dsimp only at hrest
          split at hrest
          next =>
            obtain ⟨⟨others, after⟩, hothers, heq⟩ := Option.map_eq_some_iff.mp hrest
            cases heq
            exact List.forall_mem_cons.mpr ⟨ih.value hitem, ih.items hothers⟩
          next =>
            cases hrest
            exact List.forall_mem_singleton.mpr (ih.value hitem)
          next => cases hrest
      case members =>
        intro s rest entries h
        unfold members? at h
        split at h
        next => cases h
        next =>
          cases h
          exact nofun
        next hfuel _ =>
          cases hfuel
          obtain ⟨⟨key, middle⟩, -, h⟩ := Option.bind_eq_some_iff.mp h
          obtain ⟨middle, -, h⟩ := Option.bind_eq_some_iff.mp h
          obtain ⟨⟨v, middle⟩, hv, hrest⟩ := Option.bind_eq_some_iff.mp h
          dsimp only at hrest
          split at hrest
          next =>
            obtain ⟨⟨others, after⟩, hothers, heq⟩ := Option.map_eq_some_iff.mp hrest
            cases heq
            exact List.forall_mem_cons.mpr ⟨ih.value hv, ih.members hothers⟩
          next =>
            cases hrest
            exact List.forall_mem_singleton.mpr (ih.value hv)
          next => cases hrest

theorem ordered_ofText (s : Text) : (ofText s).Ordered := by
  unfold ofText
  split
  next hread => exact (readsOrdered _).value hread
  next => exact .text s

variable {settings : List Text} {setting name : Text}

/-- Whether a variable of some name gives a setting. -/
def Names (setting name : Text) : Prop :=
  (Text.trim name).map Char.toLower = "skipguard_".toList ++ setting

instance : Decidable (Names setting name) := by
  unfold Names
  infer_instance

theorem settingOf?_eq_some_iff :
    settingOf? settings name = some setting ↔ setting ∈ settings ∧ Names setting name := by
  have hbeginning : beginning.map Char.toLower = "skipguard_".toList := by decide
  rw [settingOf?, Option.bind_eq_some_iff, hbeginning]
  constructor
  · rintro ⟨found, hprefix, hsome⟩
    split at hsome
    next hmem =>
      cases hsome
      exact ⟨List.contains_iff_mem.mp hmem, (List.isPrefixOf?_eq_some_iff_append_eq.mp hprefix).symm⟩
    next => cases hsome
  · rintro ⟨hmem, hnames⟩
    refine ⟨setting, List.isPrefixOf?_eq_some_iff_append_eq.mpr hnames.symm, ?_⟩
    rw [if_pos (List.contains_iff_mem.mpr hmem)]

/-- The texts that an environment has for a setting. -/
def textsFor (environment : Environment) (setting : Text) : List Text :=
  environment.filterMap fun (name, s) => if Names setting name then some s else none

theorem textsFor_cons (name s : Text) (rest : Environment) :
    textsFor ((name, s) :: rest) setting =
      if Names setting name then s :: rest.textsFor setting else rest.textsFor setting := by
  by_cases h : Names setting name <;> simp [textsFor, h]

/-- The value of texts, each over those in front of it. -/
def valueOf (below : Option Value) (texts : List Text) : Option Value :=
  texts.foldl (fun below s => some (Value.onto below (ofText s))) below

/-- How a layer goes on with the next variable. -/
def step (settings : List Text) (entries : Value.Entries) (given : Text × Text) : Value.Entries :=
  match settingOf? settings given.1 with
  | some setting => Value.mergeEntries entries [(setting, ofText given.2)]
  | none => entries

theorem layer_eq (settings : List Text) (environment : Environment) :
    layer settings environment = environment.foldl (step settings) [] := rfl

theorem tidy_layer (settings : List Text) (environment : Environment) :
    Tidy Value.Ordered (layer settings environment) := by
  rw [layer_eq]
  refine List.foldlRecOn environment _ Tidy.nil fun entries hentries entry _ => ?_
  unfold step
  split
  next => exact Value.tidy_merge hentries (Tidy.nil.put (ordered_ofText _))
  next => exact hentries

/-- A variable changes the setting that it gives, and no other. -/
theorem lookup_step (entries : Value.Entries) (setting name s : Text) :
    (step settings entries (name, s)).lookup setting =
      if setting ∈ settings ∧ Names setting name then
        some (Value.onto (entries.lookup setting) (ofText s))
      else entries.lookup setting := by
  unfold step
  split
  next found hfound =>
    obtain ⟨hmem, hnames⟩ := settingOf?_eq_some_iff.mp hfound
    rw [Value.mergeEntries_cons, Value.mergeEntries, Value.lookup_put]
    by_cases h : setting = found
    · subst h
      rw [if_pos rfl, if_pos ⟨hmem, hnames⟩]
    · rw [if_neg h, if_neg]
      rintro ⟨-, hother⟩
      exact h (List.append_cancel_left (hother.symm.trans hnames))
  next hnone =>
    rw [if_neg]
    intro hgives
    rw [settingOf?_eq_some_iff.mpr hgives] at hnone
    cases hnone

theorem lookup_foldl_step (environment : Environment) (entries : Value.Entries) (setting : Text) :
    (environment.foldl (step settings) entries).lookup setting =
      if setting ∈ settings then valueOf (entries.lookup setting) (environment.textsFor setting)
      else entries.lookup setting := by
  induction environment generalizing entries with
  | nil => exact (ite_self _).symm
  | cons first rest ih =>
      obtain ⟨name, s⟩ := first
      rw [List.foldl_cons, ih, lookup_step]
      by_cases hmem : setting ∈ settings
      · rw [if_pos hmem, if_pos hmem, textsFor_cons]
        by_cases hnames : Names setting name
        · rw [if_pos ⟨hmem, hnames⟩, if_pos hnames]
          rfl
        · rw [if_neg (fun h => hnames h.2), if_neg hnames]
      · rw [if_neg hmem, if_neg hmem, if_neg fun h => hmem h.1]

/-- A setting depends on nothing but the texts that the environment has for it. -/
theorem layer_congr {environment other : Environment}
    (h : ∀ setting ∈ settings, environment.textsFor setting = other.textsFor setting) :
    layer settings environment = layer settings other := by
  refine Entries.eq_of_lookup (tidy_layer settings environment).ascending
    (tidy_layer settings other).ascending fun setting => ?_
  rw [layer_eq, layer_eq, lookup_foldl_step, lookup_foldl_step]
  split
  next hmem => rw [h setting hmem]
  next => rfl

end SkipChecks.Environment
