import SkipChecks.Proofs.CommandLine.Levels
import SkipChecks.Proofs.CommandLine.Ways
import SkipChecks.Proofs.Basic
import Mathlib.Data.List.TakeWhile

/-!
# Reading one level of a line

A level reads a stretch of flags, options and values to its end, and has then taken what the stretch
shows. The last value is looked at only when something else comes, so this is said of what a level
has settled.
-/

namespace SkipChecks.Arguments

variable {level : Level} {taken : Taken}

/-! ## Taking what is written -/

/-- What a level has taken when marks and values were shown. -/
def Taken.showing (marks : List Mark) (values : List Text) : Taken where
  flags := (marks.filterMap fun
    | .flag flag => some flag
    | .file _ _ => Option.none).reverse
  options := (marks.filterMap fun
    | .flag _ => Option.none
    | .file option file => some (option, file)).reverse
  values := values
  pending := .none

/-- Whether a mark may stand at a level. -/
def Level.Allows (level : Level) : Mark → Prop
  | .flag flag => flag ≠ .help ∧ flag ≠ .version
  | .file option file => (option = .output → level = .manifest) ∧ IsPlain file.text

/-- Marks and values that a level may show. -/
structure Fits (level : Level) (marks : List Mark) (values : List Text) : Prop where
  nodup : (marks.map Mark.dashed).Nodup
  allows : ∀ mark ∈ marks, level.Allows mark
  length_le : values.length ≤ level.values.length
  plain : ∀ value ∈ values, IsPlain value

namespace Fits

variable {marks more : List Mark} {values rest : List Text}

theorem left (h : Fits level (marks ++ more) (values ++ rest)) : Fits level marks values where
  nodup := by
    have hnodup := h.nodup
    rw [List.map_append] at hnodup
    exact hnodup.of_append_left
  allows := fun mark hmark => h.allows mark (List.mem_append_left more hmark)
  length_le := by
    have hlength := h.length_le
    rw [List.length_append] at hlength
    omega
  plain := fun value hvalue => h.plain value (List.mem_append_left rest hvalue)

theorem notMem {mark : Mark} (h : Fits level (marks ++ mark :: more) values) :
    mark.dashed ∉ marks.map Mark.dashed := by
  have hnodup := h.nodup
  rw [List.map_append, List.map_cons, List.nodup_append] at hnodup
  intro hmem
  exact hnodup.2.2 _ hmem _ List.mem_cons_self rfl

theorem allows_of_mem {mark : Mark} (h : Fits level (marks ++ mark :: more) values) :
    level.Allows mark :=
  h.allows mark (List.mem_append_right marks List.mem_cons_self)

end Fits

theorem Level.long?_flag {flag : Flag} (h : level.Allows (.flag flag)) :
    level.long? flag.name = some (.flag flag) := by
  cases flag with
  | verbose | quiet | noColor => rfl
  | help => exact absurd rfl h.1
  | version => exact absurd rfl h.2

theorem Level.short?_flag {flag : Flag} {c : Char} (h : level.Allows (.flag flag))
    (hletter : flag.letter? = some c) : level.short? c = some (.flag flag) := by
  cases flag with
  | verbose | quiet =>
      cases hletter
      rfl
  | noColor => cases hletter
  | help => exact absurd rfl h.1
  | version => exact absurd rfl h.2

theorem Level.long?_option {option : ValueOption} {file : Path}
    (h : level.Allows (.file option file)) :
    level.long? option.name = some (.valueOption option) := by
  cases option with
  | config => rfl
  | output =>
      rw [h.1 rfl]
      rfl

theorem Level.short?_option {option : ValueOption} {file : Path}
    (h : level.Allows (.file option file)) :
    level.short? option.letter = some (.valueOption option) := by
  cases option with
  | config => rfl
  | output =>
      rw [h.1 rfl]
      rfl

theorem Level.knows_dash (level : Level) (text : Text) : level.knows ('-' :: text) = false := by
  cases level <;> simp [knows, isGroup, below, find?, helpName, List.lookup_cons]

variable {marks shown : List Mark} {values given arguments rest : List Text}

namespace Taken

theorem settle_showing (level : Level) (marks : List Mark) (values : List Text) :
    (showing marks values).settle level = .ok (showing marks values) := rfl

theorem flag_mem_showing {flag : Flag} :
    flag ∈ (showing marks values).flags ↔ .flag flag ∈ marks := by
  simp only [showing, List.mem_reverse, List.mem_filterMap]
  constructor
  · rintro ⟨mark, hmark, hsome⟩
    cases mark <;> cases hsome
    exact hmark
  · intro hmark
    exact ⟨_, hmark, rfl⟩

theorem file_mem_showing {option : ValueOption} {file : Path} :
    (option, file) ∈ (showing marks values).options ↔ .file option file ∈ marks := by
  simp only [showing, List.mem_reverse, List.mem_filterMap]
  constructor
  · rintro ⟨mark, hmark, hsome⟩
    cases mark <;> cases hsome
    exact hmark
  · intro hmark
    exact ⟨_, hmark, rfl⟩

theorem takeFlag_showing {flag : Flag} (h : taken.settle level = .ok (showing marks values))
    (hfits : Fits level (marks ++ [.flag flag]) values) :
    taken.takeFlag level flag = .ok (showing (marks ++ [.flag flag]) values) := by
  have hnew : flag ∉ (showing marks values).flags := by
    rw [flag_mem_showing]
    exact fun hmem => hfits.notMem (List.mem_map_of_mem hmem)
  have hshowing : (showing (marks ++ [.flag flag]) values) =
      { showing marks values with flags := flag :: (showing marks values).flags } := by
    simp [showing]
  have hallows := hfits.allows_of_mem
  rw [hshowing, takeFlag, h]
  cases flag with
  | verbose | quiet | noColor => simp [bind, Except.bind, hnew, pure, Except.pure]
  | help => exact absurd rfl hallows.1
  | version => exact absurd rfl hallows.2

theorem setOption_showing {option : ValueOption} {file : Path}
    (hfits : Fits level (marks ++ [.file option file]) values) :
    (showing marks values).setOption option file.text =
      .ok (showing (marks ++ [.file option file]) values) := by
  have hnew : (showing marks values).options.lookup option = .none := by
    refine Entries.lookup_eq_none fun entry hentry => ?_
    obtain ⟨other, path⟩ := entry
    rintro rfl
    exact hfits.notMem (List.mem_map.mpr ⟨_, file_mem_showing.mp hentry, rfl⟩)
  have hne : file.text ≠ [] := hfits.allows_of_mem.2.1
  rw [setOption, hnew, if_neg (by simp), if_neg hne]
  simp [showing]

end Taken

/-! ## Reading what is written -/

/-- What a level reads on with when it has read some arguments that show marks and values. -/
def ReadsOn (level : Level) (taken : Taken) (arguments : List Text) (marks : List Mark)
    (values : List Text) : Prop :=
  ∃ after : Taken, after.settle level = .ok (.showing marks values) ∧
    ∀ rest, read level taken false (arguments ++ rest) = read level after false rest

theorem read_dash {text : Text} {after : Taken} (hne : text ≠ ['-'])
    (h : taken.take level ('-' :: text) = .ok after) (rest : List Text) :
    read level taken false (('-' :: text) :: rest) = read level after false rest := by
  have hdashes : ('-' :: text : Text) ≠ ['-', '-'] := by
    intro heq
    exact hne (List.tail_eq_of_cons_eq heq)
  rw [read, if_neg Bool.false_ne_true, level.knows_dash, Bool.false_and,
    if_neg Bool.false_ne_true, if_neg hdashes, h]

theorem take_plain {text : Text} (h : IsPlain text) (taken : Taken) :
    taken.take level text =
      match taken.pending with
      | some (.ofOption option .none) =>
        .ok { taken with pending := some (.ofOption option (some text)) }
      | _ => taken.takeValue level false text := by
  obtain _ | ⟨c, letters⟩ := text
  · exact absurd rfl h.1
  · have hc (other : Text) : c :: letters ≠ '-' :: other := fun heq =>
      h.2 (congrArg some (List.head_eq_of_cons_eq heq))
    unfold Taken.take
    split
    next heq => exact absurd heq (hc _)
    next heq => exact absurd heq (hc _)
    next => rfl

/-- Takes what a name or a letter alone stands for. -/
def Taken.takeDashed (level : Level) (taken : Taken) : Dashed → Except Usage Taken
  | .flag flag => taken.takeFlag level flag
  | .valueOption option => taken.takeOption level option .none

theorem take_name {name : Text} {dashed : Dashed} (h : level.long? name = some dashed) :
    taken.take level ('-' :: '-' :: name) = taken.takeDashed level dashed := by
  have hall : ∀ c ∈ name, (c != '=') = true := by
    intro c hc
    rw [bne_iff_ne]
    rintro rfl
    exact Taken.notMem_of_long? h hc
  cases name with
  | nil => cases h
  | cons c name =>
      rw [Taken.take, Taken.takeLong, List.takeWhile_eq_self_iff.mpr hall,
        List.dropWhile_eq_nil_iff.mpr hall, h]
      cases dashed <;> rfl

theorem takeOption_showing {option : ValueOption}
    (h : taken.settle level = .ok (.showing marks values)) :
    taken.takeOption level option .none =
      .ok { Taken.showing marks values with pending := some (.ofOption option .none) } := by
  rw [Taken.takeOption, h]
  rfl

/-- An option whose file is the next argument. -/
theorem readsOn_file {option : ValueOption} {file : Path} {text : Text} (hne : text ≠ ['-'])
    (htake : taken.take level ('-' :: text) =
      .ok { Taken.showing marks values with pending := some (.ofOption option .none) })
    (hfits : Fits level (marks ++ [.file option file]) values) :
    ReadsOn level taken ['-' :: text, file.text] (marks ++ [.file option file]) values := by
  have hplain : IsPlain file.text := hfits.allows_of_mem.2
  refine ⟨{ Taken.showing marks values with
    pending := some (.ofOption option (some file.text)) }, ?_, ?_⟩
  · exact Taken.setOption_showing hfits
  · intro rest
    rw [List.cons_append, read_dash hne htake, List.cons_append, List.nil_append, read,
      if_neg Bool.false_ne_true, if_neg (by simp [Taken.isWaiting]), if_neg hplain.ne_dashes,
      take_plain hplain]

/-- Letters of flags in front of other letters. -/
theorem takeShort_flags {flags : List Flag} {letters : Text}
    (hletters : List.Forall₂ (fun flag c => flag.letter? = some c) flags letters)
    (h : taken.settle level = .ok (.showing marks values))
    (hfits : Fits level (marks ++ flags.map .flag) values) :
    ∃ after : Taken, after.settle level = .ok (.showing (marks ++ flags.map .flag) values) ∧
      ∀ more, taken.takeShort level (letters ++ more) = after.takeShort level more := by
  induction hletters generalizing taken marks with
  | nil =>
      rw [List.map_nil, List.append_nil]
      exact ⟨taken, h, fun more => rfl⟩
  | @cons flag c flags letters hletter hletters ih =>
      rw [List.map_cons, ← List.singleton_append, ← List.append_assoc] at hfits ⊢
      have hfirst : Fits level (marks ++ [.flag flag]) values := by
        rw [← List.append_nil values] at hfits
        exact hfits.left
      obtain ⟨after, hsettle, hread⟩ := ih (Taken.settle_showing level _ values) hfits
      refine ⟨after, hsettle, fun more => ?_⟩
      rw [List.cons_append, Taken.takeShort, Level.short?_flag hfirst.allows_of_mem hletter]
      simp only [Taken.takeFlag_showing h hfirst]
      exact hread more

theorem isPlain_letters {flags : List Flag} {letters more : Text}
    (hletters : List.Forall₂ (fun flag c => flag.letter? = some c) flags letters)
    (hne : letters ++ more ≠ []) (hmore : more.head? ≠ some '-') : IsPlain (letters ++ more) := by
  refine ⟨hne, ?_⟩
  cases hletters with
  | nil => exact hmore
  | @cons flag c flags letters hletter hletters =>
      intro hhead
      cases hhead
      cases flag <;> cases hletter

theorem take_letters {text : Text} (h : IsPlain text) (taken : Taken) :
    taken.take level ('-' :: text) = taken.takeShort level text := by
  obtain _ | ⟨c, letters⟩ := text
  · exact absurd rfl h.1
  · rw [Taken.take]
    intro d name hc _
    exact h.2 (congrArg some hc)

namespace Taken

theorem length_values_of_settle {after : Taken} (h : taken.settle level = .ok after) :
    after.values.length = taken.values.length + match taken.pending with
      | some (.ofLevel _) => 1
      | _ => 0 := by
  obtain ⟨hpending, rfl⟩ | ⟨option, value, hpending, rfl⟩ | ⟨value, hpending, rfl⟩ := settle_cases h
  · rw [hpending]
    rfl
  · rw [hpending]
    rfl
  · rw [hpending]
    exact List.length_append

theorem takeValue_showing {value : Text} (h : taken.settle level = .ok (showing marks values))
    (hlength : values.length < level.values.length) (closed : Bool) :
    taken.takeValue level closed value =
      .ok { showing marks values with pending := some (.ofLevel value) } := by
  have hcount := length_values_of_settle h
  rw [takeValue, if_pos]
  · rw [h]
    rfl
  · exact hcount ▸ hlength

theorem settle_ofLevel {value : Text} (hne : value ≠ []) :
    { showing marks values with pending := some (.ofLevel value) }.settle level =
      .ok (showing marks (values ++ [value])) := by
  simp [settle, showing, hne]

end Taken

theorem Level.knows_of_values (h : level.values ≠ []) (name : Text) : level.knows name = false := by
  cases level <;> first | rfl | exact absurd rfl h

theorem readsOn_value {value : Text} (h : taken.settle level = .ok (.showing marks values))
    (hfits : Fits level marks (values ++ [value])) :
    ReadsOn level taken [value] marks (values ++ [value]) := by
  have hlength : values.length < level.values.length := by
    have hle := hfits.length_le
    rwa [List.length_append] at hle
  have hplain := hfits.plain value (List.mem_append_right values List.mem_cons_self)
  have hknows := Level.knows_of_values (List.ne_nil_of_length_pos (Nat.zero_lt_of_lt hlength)) value
  refine ⟨_, Taken.settle_ofLevel hplain.1, fun rest => ?_⟩
  have htake : taken.take level value =
      .ok { Taken.showing marks values with pending := some (.ofLevel value) } := by
    rw [take_plain hplain]
    split
    next hpending =>
      have hwaiting := (Taken.of_settle h).2.2
      rw [Taken.isWaiting, hpending] at hwaiting
      cases hwaiting
    next => exact Taken.takeValue_showing h hlength false
  rw [List.cons_append, List.nil_append, read, if_neg Bool.false_ne_true, hknows, Bool.false_and,
    if_neg Bool.false_ne_true, if_neg hplain.ne_dashes, htake]

theorem readsOn_of_gives (hgives : Gives arguments shown given)
    (h : taken.settle level = .ok (.showing marks values))
    (hfits : Fits level (marks ++ shown) (values ++ given)) :
    ReadsOn level taken arguments (marks ++ shown) (values ++ given) := by
  cases hgives with
  | name flag =>
      rw [List.append_nil] at hfits ⊢
      have hlong := Level.long?_flag hfits.allows_of_mem
      refine ⟨_, Taken.settle_showing level _ values, fun rest => ?_⟩
      refine read_dash (fun heq => ?_) ?_ rest
      · rw [List.tail_eq_of_cons_eq heq] at hlong
        cases hlong
      · rw [take_name hlong]
        exact Taken.takeFlag_showing h hfits
  | nameWith option file =>
      rw [List.append_nil] at hfits ⊢
      have hlong := Level.long?_option hfits.allows_of_mem
      refine readsOn_file (fun heq => ?_) ?_ hfits
      · rw [List.tail_eq_of_cons_eq heq] at hlong
        cases hlong
      · rw [take_name hlong]
        exact takeOption_showing h
  | @letters flags letters hne hletters =>
      rw [List.append_nil] at hfits ⊢
      obtain ⟨after, hsettle, htake⟩ := takeShort_flags hletters h hfits
      have hplain : IsPlain (letters ++ []) := isPlain_letters hletters (by simpa using hne) nofun
      rw [List.append_nil] at hplain
      have hall := htake []
      rw [List.append_nil] at hall
      refine ⟨after, hsettle, read_dash hplain.ne_dash ?_⟩
      rw [take_letters hplain, hall]
      rfl
  | @lettersWith flags letters option file hletters =>
      rw [List.append_nil, ← List.append_assoc] at hfits ⊢
      have hflags : Fits level (marks ++ flags.map .flag) values := by
        rw [← List.append_nil values] at hfits
        exact hfits.left
      obtain ⟨after, hsettle, htake⟩ := takeShort_flags hletters h hflags
      have hplain : IsPlain (letters ++ [option.letter]) :=
        isPlain_letters hletters (by simp) (by cases option <;> exact nofun)
      refine readsOn_file hplain.ne_dash ?_ hfits
      rw [take_letters hplain, htake, Taken.takeShort, Level.short?_option hfits.allows_of_mem]
      exact takeOption_showing hsettle
  | value value =>
      rw [List.append_nil] at hfits ⊢
      exact readsOn_value h hfits

/-- A stretch is read to its end. -/
theorem readsOn_of_stretch (hstretch : Stretch arguments shown given)
    (h : taken.settle level = .ok (.showing marks values))
    (hfits : Fits level (marks ++ shown) (values ++ given)) :
    ReadsOn level taken arguments (marks ++ shown) (values ++ given) := by
  induction hstretch generalizing taken marks values with
  | nil =>
      rw [List.append_nil, List.append_nil]
      exact ⟨taken, h, fun rest => rfl⟩
  | cons hgives hothers ih =>
      rw [← List.append_assoc, ← List.append_assoc] at hfits ⊢
      obtain ⟨middle, hmiddle, hfirst⟩ := readsOn_of_gives hgives h hfits.left
      obtain ⟨after, hafter, hrest⟩ := ih hmiddle hfits
      refine ⟨after, hafter, fun rest => ?_⟩
      rw [List.append_assoc, hfirst, hrest]

/-- A stretch at the start of a level. -/
theorem readsOn_none (hstretch : Stretch arguments shown given) (hfits : Fits level shown given) :
    ReadsOn level .none arguments shown given :=
  readsOn_of_stretch hstretch (Taken.settle_showing level [] []) hfits

/-- Behind two lone dashes values follow. -/
theorem read_closed (h : taken.settle level = .ok (.showing marks values))
    (hlength : (values ++ given).length ≤ level.values.length) (hne : ∀ value ∈ given, value ≠ []) :
    ∃ after : Taken, after.settle level = .ok (.showing marks (values ++ given)) ∧
      read level taken true given = after.finish level := by
  induction given generalizing taken values with
  | nil =>
      rw [List.append_nil]
      exact ⟨taken, h, rfl⟩
  | cons value given ih =>
      rw [← List.singleton_append, ← List.append_assoc] at hlength ⊢
      have hfree : values.length < level.values.length := by
        rw [List.length_append, List.length_append] at hlength
        exact Nat.lt_of_lt_of_le (Nat.lt_succ_self _) (Nat.le_of_add_right_le hlength)
      have htake : taken.takeValue level true value = _ := Taken.takeValue_showing h hfree true
      obtain ⟨after, hafter, hread⟩ := ih
        (Taken.settle_ofLevel (hne value List.mem_cons_self)) hlength
        fun other hother => hne other (List.mem_cons_of_mem _ hother)
      refine ⟨after, hafter, ?_⟩
      rw [List.singleton_append, read, if_pos rfl, htake]
      exact hread

/-! ## What a level shows -/

theorem lookup_showing {option : ValueOption} {file : Path}
    (hnodup : (marks.map Mark.dashed).Nodup) :
    (Taken.showing marks values).options.lookup option = some file ↔ .file option file ∈ marks := by
  rw [← @Taken.file_mem_showing marks values option file]
  refine Entries.lookup_eq_some_iff ?_
  rw [Taken.showing, List.pairwise_reverse, List.pairwise_filterMap]
  refine (List.pairwise_map.mp hnodup).imp fun {mark other} hne => ?_
  rintro ⟨option, file⟩ hfile ⟨option', file'⟩ hfile' rfl
  cases mark <;> cases hfile
  cases other <;> cases hfile'
  exact hne rfl

/-- What is shown of the flags and options that may stand anywhere. -/
theorem mem_marks_showing {mark : Mark} (hnodup : (marks.map Mark.dashed).Nodup) :
    mark ∈ (Taken.showing marks values).globals.marks ↔ mark ∈ marks ∧ mark.IsGlobal := by
  rw [mem_marks]
  cases mark with
  | flag flag => cases flag <;> simp [Taken.globals, Taken.flag_mem_showing, Mark.IsGlobal]
  | file option file =>
      cases option <;> simp [Taken.globals, lookup_showing hnodup, Mark.IsGlobal]

theorem mem_marks_under {outer inner : GlobalOptions} {mark : Mark}
    (hdisjoint : outer.config = none ∨ inner.config = none) :
    mark ∈ (outer.under inner).marks ↔ mark ∈ outer.marks ∨ mark ∈ inner.marks := by
  rw [mem_marks, mem_marks, mem_marks]
  cases mark with
  | flag flag => cases flag <;> simp [GlobalOptions.under]
  | file option file =>
      cases option with
      | config => rcases hdisjoint with hnone | hnone <;> simp [GlobalOptions.under, hnone]
      | output => simp

/-- A level that shows no two flags that exclude each other is closed as it is. -/
theorem close_showing (h : taken.settle level = .ok (.showing marks values))
    (hcompatible : ¬ (.flag .verbose ∈ marks ∧ .flag .quiet ∈ marks)) :
    taken.close level = .ok (.showing marks values) := by
  rw [Taken.close, h]
  have hglobals : ((Taken.showing marks values).globals.verbose &&
      (Taken.showing marks values).globals.quiet) = false := by
    rw [Bool.eq_false_iff]
    simpa [Taken.globals, Taken.flag_mem_showing] using hcompatible
  simp [bind, Except.bind, hglobals, pure, Except.pure]

end SkipChecks.Arguments
