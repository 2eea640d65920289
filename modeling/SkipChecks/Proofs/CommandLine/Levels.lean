import Mathlib.Data.List.Basic
import SkipChecks.CommandLine.Arguments
import SkipChecks.Proofs.Basic

/-!
# Flags and levels

Flags that may stand anywhere are told apart by the level they stand in. What a line shows of them is
what stands at some level. Whether two of them exclude each other is looked at level by level, so a
line may show both as long as they stand at different levels.
-/

namespace SkipChecks.Arguments

variable {level : Level} {taken after : Taken} {argument : Text}

/-! ## Flags where they stand -/

namespace Level

/-- The flags among letters behind one dash. Behind an option stands its value. -/
def flagsOfLetters (level : Level) : Text → List Flag
  | [] => []
  | c :: letters =>
    match level.short? c with
    | some (.flag flag) => flag :: flagsOfLetters level letters
    | _ => []

def flagsOf (level : Level) (argument : Text) : List Flag :=
  match argument with
  | '-' :: '-' :: c :: name =>
    match level.long? (c :: name) with
    | some (.flag flag) => [flag]
    | _ => []
  | '-' :: c :: letters => level.flagsOfLetters (c :: letters)
  | _ => []

/-- Whether letters behind one dash end in an option, so that its value comes next. -/
def lettersAwait (level : Level) : Text → Bool
  | [] => false
  | c :: letters =>
    match level.short? c with
    | some (.flag _) => lettersAwait level letters
    | some (.valueOption _) => letters.isEmpty
    | none => false

/-- Whether the argument behind this one is the value of an option. -/
def awaits (level : Level) (argument : Text) : Bool :=
  match argument with
  | '-' :: '-' :: c :: name =>
    match level.long? (c :: name) with
    | some (.valueOption _) => true
    | _ => false
  | '-' :: c :: letters => level.lettersAwait (c :: letters)
  | _ => false

end Level

/-- The flags that stand at each level of a line, from some level on. Behind two lone dashes there
are none. -/
def flagsByLevel (level : Level) (waiting : Bool) : List Text → List (List Flag)
  | [] => [[]]
  | argument :: arguments =>
    if argument = ['-', '-'] then [[]]
    else
      match if waiting then none else level.find? argument with
      | some inner => [] :: flagsByLevel inner false arguments
      | none =>
        (flagsByLevel level (!waiting && level.awaits argument) arguments).modifyHead
          (level.flagsOf argument ++ ·)

namespace Taken

theorem eq_of_setOption {option : ValueOption} {value : Text}
    (h : taken.setOption option value = .ok after) :
    after = { taken with options := (option, ⟨value⟩) :: taken.options } := by
  unfold setOption at h
  split at h
  next => cases h
  next =>
    split at h
    next => cases h
    next =>
      cases h
      rfl

/-- What settling can do: nothing, set an option to its value, or add a value of the level. -/
theorem settle_cases (h : taken.settle level = .ok after) :
    (taken.pending = .none ∧ after = taken) ∨
      (∃ option value, taken.pending = some (.ofOption option (some value)) ∧
        after = { taken with pending := .none, options := (option, ⟨value⟩) :: taken.options }) ∨
      ∃ value, taken.pending = some (.ofLevel value) ∧
        after = { taken with pending := .none, values := taken.values ++ [value] } := by
  unfold settle at h
  dsimp only at h
  split at h
  next hpending =>
    cases h
    exact .inl ⟨hpending, rfl⟩
  next => cases h
  next option value hpending => exact .inr (.inl ⟨option, value, hpending, eq_of_setOption h⟩)
  next value hpending =>
    split at h
    next => cases h
    next =>
      cases h
      exact .inr (.inr ⟨value, hpending, rfl⟩)

theorem of_settle (h : taken.settle level = .ok after) :
    after.flags = taken.flags ∧ after.pending = .none ∧ taken.isWaiting = false := by
  obtain ⟨hpending, rfl⟩ | ⟨option, value, hpending, rfl⟩ | ⟨value, hpending, rfl⟩ := settle_cases h
  · exact ⟨rfl, hpending, by simp [isWaiting, hpending]⟩
  · exact ⟨rfl, rfl, by simp [isWaiting, hpending]⟩
  · exact ⟨rfl, rfl, by simp [isWaiting, hpending]⟩

theorem of_takeFlag {flag : Flag} (h : taken.takeFlag level flag = .ok after) :
    after.flags = flag :: taken.flags ∧ after.isWaiting = false ∧ taken.isWaiting = false := by
  obtain ⟨settled, hsettle, h⟩ := exists_of_bind h
  obtain ⟨hflags, hpending, hwaiting⟩ := of_settle hsettle
  split at h
  next => cases h
  next => cases h
  next =>
    split at h
    next => cases h
    next =>
      cases h
      exact ⟨by simp [hflags], by simp [isWaiting, hpending], hwaiting⟩

theorem of_takeOption {option : ValueOption} {attached : Option Text}
    (h : taken.takeOption level option attached = .ok after) :
    after.flags = taken.flags ∧ after.isWaiting = attached.isNone ∧ taken.isWaiting = false := by
  obtain ⟨settled, hsettle, h⟩ := exists_of_bind h
  obtain ⟨hflags, hpending, hwaiting⟩ := of_settle hsettle
  have hsettled : settled.isWaiting = false := by simp [isWaiting, hpending]
  cases attached with
  | none =>
      cases h
      exact ⟨hflags, rfl, hwaiting⟩
  | some value =>
      rw [eq_of_setOption h]
      exact ⟨hflags, hsettled, hwaiting⟩

theorem of_takeValue {closed : Bool} (h : taken.takeValue level closed argument = .ok after) :
    after.flags = taken.flags ∧ after.isWaiting = false ∧ taken.isWaiting = false := by
  unfold takeValue at h
  extract_lets count at h
  split at h
  next =>
    obtain ⟨settled, hsettle, h⟩ := exists_of_bind h
    obtain ⟨hflags, -, hwaiting⟩ := of_settle hsettle
    cases h
    exact ⟨hflags, rfl, hwaiting⟩
  next => split at h <;> cases h

/-- Letters give their flags, and leave the last option waiting when its value does not follow. -/
theorem of_takeShort {letters : Text} (h : taken.takeShort level letters = .ok after)
    (hwaiting : taken.isWaiting = false) :
    (∀ flag, flag ∈ after.flags ↔ flag ∈ taken.flags ∨ flag ∈ level.flagsOfLetters letters) ∧
      after.isWaiting = level.lettersAwait letters := by
  induction letters generalizing taken with
  | nil =>
      cases h
      exact ⟨fun flag => by simp [Level.flagsOfLetters], hwaiting⟩
  | cons c letters ih =>
      rw [takeShort] at h
      rw [Level.flagsOfLetters, Level.lettersAwait]
      split at h
      next => cases h
      next flag hshort =>
        split at h
        next middle hflag =>
          obtain ⟨hflags, hmiddle, -⟩ := of_takeFlag hflag
          obtain ⟨hafter, hawait⟩ := ih h hmiddle
          rw [hshort]
          refine ⟨fun other => ?_, hawait⟩
          rw [hafter, hflags, List.mem_cons, List.mem_cons, or_assoc, or_left_comm]
        next => cases h
      next option hshort =>
        rw [hshort]
        cases letters with
        | nil =>
            obtain ⟨hflags, hstill, -⟩ := of_takeOption h
            exact ⟨fun flag => by simp [hflags], hstill⟩
        | cons d letters =>
            obtain ⟨value, htake⟩ : ∃ value, taken.takeOption level option (some value) = .ok after := by
              split at h
              next heq => cases heq
              next => exact ⟨_, h⟩
              next => exact ⟨_, h⟩
            obtain ⟨hflags, hstill, -⟩ := of_takeOption htake
            exact ⟨fun flag => by simp [hflags], hstill⟩

theorem isWaiting_of_takeShort {c : Char} {letters : Text}
    (h : taken.takeShort level (c :: letters) = .ok after) : taken.isWaiting = false := by
  rw [takeShort] at h
  split at h
  next => cases h
  next =>
    split at h
    next hflag => exact (of_takeFlag hflag).2.2
    next => cases h
  next => split at h <;> exact (of_takeOption h).2.2

theorem notMem_of_long? {name : Text} {dashed : Dashed} (h : level.long? name = some dashed) :
    '=' ∉ name := by
  have hname : name = (String.ofList name).toList := by rw [String.toList_ofList]
  unfold Level.long? at h
  rw [hname]
  split at h
  case h_8 => cases h
  all_goals
    rename_i heq
    rw [heq]
    decide

/-- A name gives its flag, and leaves its option waiting. -/
theorem of_takeLong {name : Text} (h : taken.takeLong level name = .ok after) :
    (∀ flag, flag ∈ after.flags ↔ flag ∈ taken.flags ∨ level.long? name = some (.flag flag)) ∧
      (after.isWaiting = true ↔ ∃ option, level.long? name = some (.valueOption option)) ∧
      taken.isWaiting = false := by
  unfold takeLong at h
  cases hattached : name.dropWhile (· != '=') with
  | nil =>
      have hname : name.takeWhile (· != '=') = name := by
        have hall := List.takeWhile_append_dropWhile (p := (· != '=')) (l := name)
        rwa [hattached, List.append_nil] at hall
      rw [hattached, hname] at h
      cases hlong : level.long? name with
      | none =>
          rw [hlong] at h
          cases h
      | some dashed =>
          rw [hlong] at h
          cases dashed with
          | flag flag =>
              obtain ⟨hflags, hafter, hwaiting⟩ := of_takeFlag h
              refine ⟨fun other => ?_, by simp [hafter], hwaiting⟩
              simp [hflags, or_comm, eq_comm]
          | valueOption option =>
              obtain ⟨hflags, hafter, hwaiting⟩ := of_takeOption h
              exact ⟨fun other => by simp [hflags], by simp [hafter], hwaiting⟩
  | cons c value =>
      have hlong : level.long? name = .none := by
        apply Option.eq_none_iff_forall_ne_some.mpr
        intro dashed hlong
        have hhead : c = '=' := by
          have hhead := List.head?_dropWhile_not (p := (· != '=')) (l := name)
          rw [hattached] at hhead
          simpa using hhead
        refine notMem_of_long? hlong ((List.dropWhile_suffix (· != '=')).subset ?_)
        rw [hattached, hhead]
        exact List.mem_cons_self
      rw [hattached] at h
      cases hbefore : level.long? (name.takeWhile (· != '=')) with
      | none =>
          rw [hbefore] at h
          cases h
      | some dashed =>
          rw [hbefore] at h
          cases dashed with
          | flag flag => cases h
          | valueOption option =>
              obtain ⟨hflags, hafter, hwaiting⟩ := of_takeOption h
              exact ⟨fun other => by simp [hflags, hlong], by simp [hafter, hlong], hwaiting⟩

/-- An argument gives its flags, and leaves its option waiting. Where an option waits already, the
argument is its value. -/
theorem of_take (h : taken.take level argument = .ok after) :
    (∀ flag, flag ∈ after.flags ↔ flag ∈ taken.flags ∨ flag ∈ level.flagsOf argument) ∧
      after.isWaiting = (!taken.isWaiting && level.awaits argument) := by
  unfold take at h
  split at h
  next c name =>
    obtain ⟨hflags, hafter, hwaiting⟩ := of_takeLong h
    rw [hwaiting, Bool.eq_iff_iff, hafter, Level.flagsOf, Level.awaits]
    cases hlong : level.long? (c :: name) with
    | none => simp [hflags, hlong]
    | some dashed => cases dashed <;> simp [hflags, hlong, eq_comm]
  next c letters hne =>
    have hwaiting := isWaiting_of_takeShort h
    rw [hwaiting, Level.flagsOf, Level.awaits]
    · exact of_takeShort h hwaiting
    · exact hne
    · exact hne
  next hlong hshort =>
    rw [Level.flagsOf, Level.awaits]
    · split at h
      next hpending =>
        cases h
        simp [isWaiting, hpending]
      next =>
        obtain ⟨hflags, hafter, hwaiting⟩ := of_takeValue h
        simp [hflags, hafter]
    · exact hlong
    · exact hshort
    · exact hlong
    · exact hshort

/-- At the end of a level the flags are as they are, and do not exclude each other. -/
theorem of_close (h : taken.close level = .ok after) :
    after.flags = taken.flags ∧ ¬ (.verbose ∈ taken.flags ∧ .quiet ∈ taken.flags) := by
  obtain ⟨settled, hsettle, h⟩ := exists_of_bind h
  obtain ⟨hflags, -⟩ := of_settle hsettle
  simp only [bind, Except.bind] at h
  split at h
  next => cases h
  next hexclude =>
    cases h
    refine ⟨hflags, ?_⟩
    simpa [globals, hflags] using hexclude

end Taken

/-! ## Lines -/

/-- Options come from flags that stand at some levels, where no level has two that exclude each
other. -/
structure Shows (options : GlobalOptions) (found : List (List Flag)) : Prop where
  compatible : ∀ flags ∈ found, ¬ (.verbose ∈ flags ∧ .quiet ∈ flags)
  verbose_iff : options.verbose = true ↔ ∃ flags ∈ found, .verbose ∈ flags
  quiet_iff : options.quiet = true ↔ ∃ flags ∈ found, .quiet ∈ flags

namespace Shows

variable {options inner : GlobalOptions} {first flags : List Flag} {others : List (List Flag)}

/-- Only what stands at a level counts, in whatever order. -/
theorem congr (h : Shows options (first :: others)) (hsame : ∀ flag, flag ∈ first ↔ flag ∈ flags) :
    Shows options (flags :: others) where
  compatible := by
    have hall := h.compatible
    simp only [List.mem_cons, forall_eq_or_imp, hsame] at hall ⊢
    exact hall
  verbose_iff := by
    rw [h.verbose_iff]
    simp only [List.mem_cons, exists_eq_or_imp, hsame]
  quiet_iff := by
    rw [h.quiet_iff]
    simp only [List.mem_cons, exists_eq_or_imp, hsame]

theorem under (h : Shows inner others) (taken : Taken)
    (hcompatible : ¬ (.verbose ∈ taken.flags ∧ .quiet ∈ taken.flags)) :
    Shows (taken.globals.under inner) (taken.flags :: others) where
  compatible := by
    rw [List.forall_mem_cons]
    exact ⟨hcompatible, h.compatible⟩
  verbose_iff := by
    simp [GlobalOptions.under, Taken.globals, h.verbose_iff]
  quiet_iff := by
    simp [GlobalOptions.under, Taken.globals, h.quiet_iff]

end Shows

variable {arguments : List Text} {options : GlobalOptions} {command : Command}

theorem Level.knows_of_find? {name : Text} {inner : Level} (h : level.find? name = some inner) :
    level.knows name = true := by
  have hgroup : level.isGroup = true := by
    cases level <;> first | rfl | cases h
  simp [knows, hgroup, h]

theorem flagsByLevel_of_find? {inner : Level} (h : level.find? argument = some inner) :
    flagsByLevel level false (argument :: arguments) =
      [] :: flagsByLevel inner false arguments := by
  have hdashes : argument ≠ ['-', '-'] := by
    rintro rfl
    cases level <;> cases h
  rw [flagsByLevel, if_neg hdashes, if_neg Bool.false_ne_true, h]

theorem flagsByLevel_of_own {waiting : Bool} (hdashes : argument ≠ ['-', '-'])
    (h : waiting = false → level.find? argument = none) :
    flagsByLevel level waiting (argument :: arguments) =
      (flagsByLevel level (!waiting && level.awaits argument) arguments).modifyHead
        (level.flagsOf argument ++ ·) := by
  have hnone : (if waiting then none else level.find? argument) = none := by
    split
    next => rfl
    next hwaiting => exact h (Bool.eq_false_iff.mpr hwaiting)
  rw [flagsByLevel, if_neg hdashes, hnone]

theorem exists_flagsByLevel_eq (level : Level) (waiting : Bool) (arguments : List Text) :
    ∃ first others, flagsByLevel level waiting arguments = first :: others := by
  induction arguments generalizing waiting with
  | nil => exact ⟨[], [], rfl⟩
  | cons argument arguments ih =>
      unfold flagsByLevel
      split
      next => exact ⟨[], [], rfl⟩
      next =>
        split
        next => exact ⟨_, _, rfl⟩
        next =>
          obtain ⟨first, others, heq⟩ := ih (!waiting && level.awaits argument)
          rw [heq]
          exact ⟨_, _, rfl⟩

theorem shows_of_finish (h : taken.finish level = .ok (options, command)) :
    Shows options [taken.flags] := by
  obtain ⟨settled, hsettle, h⟩ := exists_of_bind h
  obtain ⟨hsettled, -⟩ := Taken.of_settle hsettle
  dsimp only at h
  split at h
  next => cases h
  obtain ⟨closed, hclose, h⟩ := exists_of_bind h
  obtain ⟨hclosed, hcompatible⟩ := Taken.of_close hclose
  have hglobals : options = closed.globals := by
    split at h <;> cases h <;> rfl
  rw [hsettled] at hcompatible
  rw [hglobals]
  refine ⟨by simpa using hcompatible, ?_, ?_⟩
  · simp [Taken.globals, hclosed, hsettled]
  · simp [Taken.globals, hclosed, hsettled]

/-- Behind two lone dashes no flag is read. -/
theorem shows_of_read_closed (h : read level taken true arguments = .ok (options, command)) :
    Shows options [taken.flags] := by
  induction arguments generalizing taken with
  | nil => exact shows_of_finish h
  | cons argument arguments ih =>
      rw [read, if_pos rfl] at h
      split at h
      next after htake =>
        rw [← (Taken.of_takeValue htake).1]
        exact ih h
      next => cases h

/-- What a level has taken so far counts with what is still to come there. -/
theorem shows_of_read (h : read level taken false arguments = .ok (options, command)) :
    Shows options
      ((flagsByLevel level taken.isWaiting arguments).modifyHead (taken.flags ++ ·)) := by
  induction arguments generalizing level taken options with
  | nil =>
      rw [flagsByLevel, List.modifyHead_cons, List.append_nil]
      exact shows_of_finish h
  | cons argument arguments ih =>
      rw [read, if_neg Bool.false_ne_true] at h
      split at h
      next hknows =>
        obtain ⟨-, hwaiting⟩ := Bool.and_eq_true_iff.mp hknows
        split at h
        next => cases h
        next inner hinner =>
          obtain ⟨⟨below, found⟩, hread, h⟩ := exists_of_bind h
          obtain ⟨closed, hclose, h⟩ := exists_of_bind h
          cases h
          obtain ⟨hflags, hcompatible⟩ := Taken.of_close hclose
          rw [Bool.not_eq_true'] at hwaiting
          rw [hwaiting, flagsByLevel_of_find? hinner, List.modifyHead_cons,
            List.append_nil, ← hflags]
          rw [← hflags] at hcompatible
          refine Shows.under ?_ closed hcompatible
          obtain ⟨first, others, heq⟩ := exists_flagsByLevel_eq inner false arguments
          have hinside := ih hread
          rw [heq]
          rwa [show Taken.none.isWaiting = false from rfl, heq] at hinside
      next hknows =>
        split at h
        next hdashes =>
          rw [flagsByLevel, if_pos hdashes, List.modifyHead_cons, List.append_nil]
          exact shows_of_read_closed h
        next hdashes =>
          split at h
          next after htake =>
            obtain ⟨hflags, hafter⟩ := Taken.of_take htake
            have hown (hwaiting : taken.isWaiting = false) : level.find? argument = .none := by
              rw [hwaiting, Bool.not_false, Bool.and_true] at hknows
              rw [Option.eq_none_iff_forall_ne_some]
              intro inner hinner
              exact hknows (Level.knows_of_find? hinner)
            have hothers := ih h
            obtain ⟨first, others, heq⟩ := exists_flagsByLevel_eq level after.isWaiting arguments
            rw [hafter] at hothers heq
            rw [flagsByLevel_of_own hdashes hown]
            rw [heq, List.modifyHead_cons] at hothers ⊢
            refine hothers.congr fun flag => ?_
            simp [hflags, or_assoc]
          next => cases h

end SkipChecks.Arguments

namespace SkipChecks.Invocation

open Arguments

variable {arguments : List Text} {invocation : Invocation}

theorem shows_of_ofArguments (h : ofArguments arguments = .ok invocation) :
    Shows invocation.options (flagsByLevel .program false arguments) := by
  unfold ofArguments at h
  cases hread : read .program .none false arguments with
  | error usage =>
      rw [hread] at h
      cases h
  | ok result =>
      rw [hread] at h
      cases h
      obtain ⟨first, others, heq⟩ := exists_flagsByLevel_eq .program false arguments
      have hshows := shows_of_read hread
      rw [heq]
      rwa [show Taken.none.isWaiting = false from rfl, heq] at hshows

/-- No level of a line has both flags that exclude each other. A line shows a flag that stands at one
of its levels, and so it shows both exactly if they stand at different levels. -/
theorem flags_exclude_by_level (h : ofArguments arguments = .ok invocation) :
    (∀ flags ∈ flagsByLevel .program false arguments, ¬ (.verbose ∈ flags ∧ .quiet ∈ flags)) ∧
      (invocation.options.verbose = true ↔
        ∃ flags ∈ flagsByLevel .program false arguments, .verbose ∈ flags) ∧
      (invocation.options.quiet = true ↔
        ∃ flags ∈ flagsByLevel .program false arguments, .quiet ∈ flags) ∧
      (invocation.options.verbose = true ∧ invocation.options.quiet = true ↔
        ∃ i j : Fin (flagsByLevel .program false arguments).length, i ≠ j ∧
          .verbose ∈ (flagsByLevel .program false arguments)[i] ∧
          .quiet ∈ (flagsByLevel .program false arguments)[j]) := by
  obtain ⟨hcompatible, hverbose, hquiet⟩ := shows_of_ofArguments h
  refine ⟨hcompatible, hverbose, hquiet, ?_⟩
  rw [hverbose, hquiet]
  constructor
  · rintro ⟨⟨outer, houter, hv⟩, ⟨inner, hinner, hq⟩⟩
    obtain ⟨i, hi, rfl⟩ := List.mem_iff_getElem.mp houter
    obtain ⟨j, hj, rfl⟩ := List.mem_iff_getElem.mp hinner
    refine ⟨⟨i, hi⟩, ⟨j, hj⟩, ?_, hv, hq⟩
    intro hsame
    cases hsame
    exact hcompatible _ houter ⟨hv, hq⟩
  · rintro ⟨i, j, -, hv, hq⟩
    exact ⟨⟨_, List.getElem_mem i.isLt, hv⟩, ⟨_, List.getElem_mem j.isLt, hq⟩⟩

theorem flags_exclude_by_level_of_check :
    ofArguments ["check".toList, "-q".toList, "route".toList, "home".toList, "-v".toList] =
        .ok ⟨⟨true, true, false, none⟩, .check (.route "home".toList)⟩ ∧
      ∃ i j : Fin (flagsByLevel .program false
          ["check".toList, "-q".toList, "route".toList, "home".toList, "-v".toList]).length,
        i ≠ j ∧
          .verbose ∈ (flagsByLevel .program false
            ["check".toList, "-q".toList, "route".toList, "home".toList, "-v".toList])[i] ∧
          .quiet ∈ (flagsByLevel .program false
            ["check".toList, "-q".toList, "route".toList, "home".toList, "-v".toList])[j] := by
  have hread : ofArguments
      ["check".toList, "-q".toList, "route".toList, "home".toList, "-v".toList] =
        .ok ⟨⟨true, true, false, none⟩, .check (.route "home".toList)⟩ := by
    decide
  exact ⟨hread, (flags_exclude_by_level hread).2.2.2.mp ⟨rfl, rfl⟩⟩

/-- A line that shows both: one flag stands in front of the command, the other behind it. -/
theorem verbose_and_quiet_at_two_levels :
    ¬ ∀ (arguments : List Text) (invocation : Invocation),
      ofArguments arguments = .ok invocation →
        ¬ (invocation.options.verbose = true ∧ invocation.options.quiet = true) := by
  intro hexclude
  exact hexclude ["-v".toList, "manifest".toList, "-q".toList]
    ⟨⟨true, true, false, none⟩, .manifest none⟩ (by decide) ⟨rfl, rfl⟩

end SkipChecks.Invocation
