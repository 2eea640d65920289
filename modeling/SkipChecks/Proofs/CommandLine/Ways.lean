import SkipChecks.CommandLine.Arguments
import Mathlib.Data.List.Forall2
import Mathlib.Data.List.Nodup
import Mathlib.Data.List.Perm.Basic

/-!
# Ways to write a command line

What a line asks for can be written in many ways: flags by name or by letter, letters together or
apart, options with their file at any level of the line, values with flags and options between them.
-/

namespace SkipChecks.Arguments

/-! ## What is written -/

/-- A flag or option as a line shows it. -/
inductive Mark
  | flag (flag : Flag)
  | file (option : ValueOption) (file : Path)
  deriving DecidableEq, Repr

def Mark.dashed : Mark → Dashed
  | .flag set => .flag set
  | .file option _ => .valueOption option

def Flag.name : Flag → Text
  | verbose => "verbose".toList
  | quiet => "quiet".toList
  | noColor => "no-color".toList
  | help => "help".toList
  | version => "version".toList

def Flag.letter? : Flag → Option Char
  | verbose => some 'v'
  | quiet => some 'q'
  | noColor => none
  | help => some 'h'
  | version => some 'V'

def ValueOption.name : ValueOption → Text
  | config => "config".toList
  | output => "output".toList

def ValueOption.letter : ValueOption → Char
  | config => 'c'
  | output => 'o'

/-- Arguments that belong together, with the marks and the values that they show. Letters may end in
that of an option, whose file is the next argument. -/
inductive Gives : List Text → List Mark → List Text → Prop
  | name (flag : Flag) : Gives ['-' :: '-' :: flag.name] [.flag flag] []
  | nameWith (option : ValueOption) (file : Path) :
      Gives ['-' :: '-' :: option.name, file.text] [.file option file] []
  | letters {flags : List Flag} {letters : Text} (hne : letters ≠ [])
      (hletters : List.Forall₂ (fun flag c => flag.letter? = some c) flags letters) :
      Gives ['-' :: letters] (flags.map .flag) []
  | lettersWith {flags : List Flag} {letters : Text} (option : ValueOption) (file : Path)
      (hletters : List.Forall₂ (fun flag c => flag.letter? = some c) flags letters) :
      Gives ['-' :: (letters ++ [option.letter]), file.text]
        (flags.map .flag ++ [.file option file]) []
  | value (value : Text) : Gives [value] [] [value]

/-- Arguments of one level in any order, with all that they show. -/
inductive Stretch : List Text → List Mark → List Text → Prop
  | nil : Stretch [] [] []
  | cons {arguments others : List Text} {marks more : List Mark} {values rest : List Text}
      (hgives : Gives arguments marks values) (hothers : Stretch others more rest) :
      Stretch (arguments ++ others) (marks ++ more) (values ++ rest)

/-- The values at the end of a line, perhaps behind two lone dashes. -/
inductive Ending : List Text → List Text → Prop
  | none : Ending [] []
  | behindDashes (values : List Text) : Ending (['-', '-'] :: values) values

end Arguments

open Arguments

/-- The flags and options that may stand anywhere, each as often as it is set. -/
def GlobalOptions.marks (options : GlobalOptions) : List Mark :=
  (if options.verbose then [.flag .verbose] else []) ++
    (if options.quiet then [.flag .quiet] else []) ++
    (if options.noColor then [.flag .noColor] else []) ++
    (options.config.map (Mark.file .config)).toList

namespace Command

/-- The level that is a command's own. -/
def level : Command → Arguments.Level
  | manifest _ => .manifest
  | inject _ => .inject
  | appendHelpers _ => .appendHelpers
  | check (.route _) => .route
  | check (.method _) => .method
  | check .starterKit => .starterKit

/-- The names that lead to a command. -/
def names : Command → List Text
  | manifest _ => ["manifest".toList]
  | inject _ => ["inject".toList]
  | appendHelpers _ => ["append-helpers".toList]
  | check (.route _) => ["check".toList, "route".toList]
  | check (.method _) => ["check".toList, "method".toList]
  | check .starterKit => ["check".toList, "starter-kit".toList]

/-- What a command itself sets. -/
def marks : Command → List Mark
  | manifest output => (output.map (Mark.file .output)).toList
  | _ => []

def values : Command → List Text
  | manifest _ | check .starterKit => []
  | inject place | appendHelpers place => (place.map Path.text).toList
  | check (.route name) => [name]
  | check (.method wanted) => [wanted.className, wanted.name]

end Command

namespace Arguments

/-- The ways to write a command behind names that lead to it, with the marks of all levels that are
not the command's own. -/
inductive Written (command : Command) : List Text → List Text → List Mark → Prop
  | last {arguments ending values last : List Text} {shown marks : List Mark}
      (hstretch : Stretch arguments shown values) (hending : Ending ending last)
      (hshown : shown.Perm (command.marks ++ marks)) (hvalues : values ++ last = command.values) :
      Written command [] (arguments ++ ending) marks
  | above {name : Text} {names arguments rest : List Text} {marks more : List Mark}
      (hstretch : Stretch arguments marks []) (hrest : Written command names rest more) :
      Written command (name :: names) (arguments ++ name :: rest) (marks ++ more)

end Arguments

/-- The ways to write a line. -/
def Invocation.Spelled (invocation : Invocation) (line : List Text) : Prop :=
  ∃ marks, Written invocation.command invocation.command.names line marks ∧
    marks.Perm invocation.options.marks

/-- The texts that stand in a line besides names and letters. -/
def Invocation.texts (invocation : Invocation) : List Text :=
  invocation.command.values ++
    (invocation.command.marks ++ invocation.options.marks).filterMap fun
      | .flag _ => none
      | .file _ file => some file.text

namespace Arguments

variable {command : Command} {marks shown : List Mark}

/-- Neither empty nor taken for a flag. -/
def IsPlain (text : Text) : Prop := text ≠ [] ∧ text.head? ≠ some '-'

theorem IsPlain.ne_dash {text : Text} (h : IsPlain text) : text ≠ ['-'] := by
  rintro rfl
  exact h.2 rfl

theorem IsPlain.ne_dashes {text : Text} (h : IsPlain text) : text ≠ ['-', '-'] := by
  rintro rfl
  exact h.2 rfl

/-! ## Marks of all levels -/

/-- Whether a mark may stand anywhere. -/
def Mark.IsGlobal : Mark → Prop
  | .flag set => set = .verbose ∨ set = .quiet ∨ set = .noColor
  | .file option _ => option = .config

theorem mem_marks {options : GlobalOptions} {mark : Mark} :
    mark ∈ options.marks ↔
      match mark with
      | .flag .verbose => options.verbose = true
      | .flag .quiet => options.quiet = true
      | .flag .noColor => options.noColor = true
      | .file .config file => options.config = some file
      | _ => False := by
  obtain ⟨verbose, quiet, noColor, config⟩ := options
  cases mark with
  | flag flag => cases flag <;> simp [GlobalOptions.marks]
  | file option file => cases option <;> simp [GlobalOptions.marks]

theorem isGlobal_of_mem_marks {options : GlobalOptions} {mark : Mark} (h : mark ∈ options.marks) :
    mark.IsGlobal := by
  rw [mem_marks] at h
  split at h <;> simp_all [Mark.IsGlobal]

theorem eq_of_marks {options other : GlobalOptions}
    (h : ∀ mark, mark ∈ options.marks ↔ mark ∈ other.marks) : options = other := by
  have hverbose := h (.flag .verbose)
  have hquiet := h (.flag .quiet)
  have hcolor := h (.flag .noColor)
  have hconfig (file : Path) := h (.file .config file)
  simp only [mem_marks] at hverbose hquiet hcolor hconfig
  obtain ⟨verbose, quiet, noColor, config⟩ := options
  obtain ⟨verbose', quiet', noColor', config'⟩ := other
  simp only [Bool.coe_iff_coe] at hverbose hquiet hcolor
  have hsame : config = config' := Option.ext hconfig
  rw [hverbose, hquiet, hcolor, hsame]

theorem nodup_marks (options : GlobalOptions) : (options.marks.map Mark.dashed).Nodup := by
  obtain ⟨verbose, quiet, noColor, config⟩ := options
  cases verbose <;> cases quiet <;> cases noColor <;> cases config <;>
    simp [GlobalOptions.marks, Mark.dashed]

theorem not_isGlobal_of_mem {mark : Mark} (h : mark ∈ command.marks) : ¬ mark.IsGlobal := by
  cases command with
  | manifest output =>
      obtain ⟨file, -, rfl⟩ := Option.map_eq_some_iff.mp (Option.mem_toList.mp h)
      exact nofun
  | inject _ | appendHelpers _ | check _ => cases h

/-- Marks that may stand in one line, at any of its levels: none twice, and no two that exclude each
other. -/
structure Settable (marks : List Mark) : Prop where
  isGlobal : ∀ mark ∈ marks, mark.IsGlobal
  nodup : (marks.map Mark.dashed).Nodup
  compatible : ¬ (.flag .verbose ∈ marks ∧ .flag .quiet ∈ marks)
  plain : ∀ option file, .file option file ∈ marks → IsPlain file.text

namespace Settable

theorem of_subset {more : List Mark} (h : Settable marks) (hsub : more ⊆ marks)
    (hnodup : (more.map Mark.dashed).Nodup) : Settable more where
  isGlobal := fun mark hmark => h.isGlobal mark (hsub hmark)
  nodup := hnodup
  compatible := fun hboth => h.compatible ⟨hsub hboth.1, hsub hboth.2⟩
  plain := fun option file hfile => h.plain option file (hsub hfile)

theorem sublist {more : List Mark} (h : Settable marks) (hsub : more.Sublist marks) :
    Settable more :=
  h.of_subset hsub.subset (h.nodup.sublist (hsub.map Mark.dashed))

theorem perm {more : List Mark} (h : Settable marks) (hperm : more.Perm marks) : Settable more :=
  h.of_subset hperm.subset ((hperm.map Mark.dashed).nodup_iff.mpr h.nodup)

theorem mem_iff_of_perm {mark : Mark} (h : Settable marks)
    (hshown : shown.Perm (command.marks ++ marks)) :
    mark ∈ shown ∧ mark.IsGlobal ↔ mark ∈ marks := by
  rw [hshown.mem_iff, List.mem_append]
  constructor
  · rintro ⟨hown | hmark, hglobal⟩
    · exact absurd hglobal (not_isGlobal_of_mem hown)
    · exact hmark
  · exact fun hmark => ⟨.inr hmark, h.isGlobal mark hmark⟩

theorem compatible_of_perm (h : Settable marks) (hshown : shown.Perm (command.marks ++ marks)) :
    ¬ (.flag .verbose ∈ shown ∧ .flag .quiet ∈ shown) := by
  rintro ⟨hverbose, hquiet⟩
  exact h.compatible ⟨(h.mem_iff_of_perm hshown).mp ⟨hverbose, .inl rfl⟩,
    (h.mem_iff_of_perm hshown).mp ⟨hquiet, .inr (.inl rfl)⟩⟩

theorem output_mem_iff {file : Path} (h : Settable marks)
    (hshown : shown.Perm (command.marks ++ marks)) :
    .file .output file ∈ shown ↔ command = .manifest (some file) := by
  rw [hshown.mem_iff, List.mem_append]
  have hmarks : .file .output file ∉ marks := by
    intro hmem
    cases h.isGlobal _ hmem
  rw [or_iff_left hmarks]
  cases command with
  | manifest output => simp [Command.marks, eq_comm]
  | inject _ | appendHelpers _ | check _ => simp [Command.marks]

end Settable

/-! ## Some way to write a line -/

theorem Stretch.ofValues (values : List Text) : Stretch values [] values := by
  induction values with
  | nil => exact .nil
  | cons value values ih => exact .cons (.value value) ih

theorem exists_stretch (marks : List Mark) (values : List Text) :
    ∃ arguments, Stretch arguments marks values := by
  induction marks with
  | nil => exact ⟨values, .ofValues values⟩
  | cons mark marks ih =>
      obtain ⟨arguments, hstretch⟩ := ih
      cases mark with
      | flag flag => exact ⟨_, .cons (.name flag) hstretch⟩
      | file option file => exact ⟨_, .cons (.nameWith option file) hstretch⟩

theorem exists_written (command : Command) (names : List Text) (marks : List Mark) :
    ∃ line, Written command names line marks := by
  induction names with
  | nil =>
      obtain ⟨arguments, hstretch⟩ := exists_stretch (command.marks ++ marks) command.values
      exact ⟨_, .last hstretch .none (.refl _) (List.append_nil _)⟩
  | cons name names ih =>
      obtain ⟨line, hwritten⟩ := ih
      exact ⟨_, .above .nil hwritten⟩

end SkipChecks.Arguments
