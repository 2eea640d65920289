import SkipChecks.Proofs.CommandLine.Stretches

/-!
# Reading inverts writing

Whichever way a line is written, reading it gives back what it asks for. The induction is along the
levels of the line; each of them reads its own stretch, and what two levels show is put together.
-/

namespace SkipChecks.Arguments

variable {level : Level} {taken : Taken} {command : Command} {marks shown : List Mark}
  {values rest : List Text}

/-- The level that names lead to. -/
def Level.descend? (level : Level) : List Text → Option Level
  | [] => some level
  | name :: names => (level.find? name).bind (descend? · names)

theorem descend?_names (command : Command) :
    Level.program.descend? command.names = some command.level := by
  obtain _ | _ | _ | ⟨_ | _ | _⟩ := command <;> rfl

namespace Settable

theorem allows (h : Settable marks) (level : Level) : ∀ mark ∈ marks, level.Allows mark := by
  intro mark hmark
  have hglobal := h.isGlobal mark hmark
  cases mark with
  | flag flag => obtain rfl | rfl | rfl := hglobal <;> exact ⟨nofun, nofun⟩
  | file option file =>
      refine ⟨fun houtput => ?_, h.plain option file hmark⟩
      rw [houtput] at hglobal
      cases hglobal

theorem fits (h : Settable marks) (level : Level) : Fits level marks [] where
  nodup := h.nodup
  allows := h.allows level
  length_le := Nat.zero_le _
  plain := nofun

/-- At its own level a command may show what it sets itself as well. -/
theorem fits_last (h : Settable marks) (hshown : shown.Perm (command.marks ++ marks))
    (hvalues : values ++ rest = command.values)
    (hfiles : ∀ option file, .file option file ∈ command.marks → IsPlain file.text)
    (hplain : ∀ value ∈ command.values, IsPlain value) : Fits command.level shown values where
  nodup := by
    rw [(hshown.map Mark.dashed).nodup_iff]
    have houtput : .valueOption .output ∉ marks.map Mark.dashed := by
      rw [List.mem_map]
      rintro ⟨mark, hmark, hdashed⟩
      cases mark <;> cases hdashed
      cases h.isGlobal _ hmark
    obtain ⟨_ | file⟩ | _ | _ | _ := command
    · exact h.nodup
    · exact List.nodup_cons.mpr ⟨houtput, h.nodup⟩
    · exact h.nodup
    · exact h.nodup
    · exact h.nodup
  allows := by
    intro mark hmark
    rcases List.mem_append.mp (hshown.mem_iff.mp hmark) with hown | hother
    · cases command with
      | manifest output =>
          obtain ⟨file, -, rfl⟩ := Option.map_eq_some_iff.mp (Option.mem_toList.mp hown)
          exact ⟨fun _ => rfl, hfiles .output file hown⟩
      | inject _ | appendHelpers _ | check _ => cases hown
    · exact h.allows command.level mark hother
  length_le := by
    have hlength : command.values.length ≤ command.level.values.length := by
      obtain _ | place | place | ⟨_ | _ | _⟩ := command
      · exact Nat.le_refl 0
      · cases place <;> simp [Command.values, Command.level, Level.values]
      · cases place <;> simp [Command.values, Command.level, Level.values]
      · exact Nat.le_refl 1
      · exact Nat.le_refl 2
      · exact Nat.le_refl 0
    rw [← hvalues, List.length_append] at hlength
    omega
  plain := by
    intro value hvalue
    exact hplain value (hvalues ▸ List.mem_append_left rest hvalue)

theorem finish (hmarks : Settable marks) (hshown : shown.Perm (command.marks ++ marks))
    (hnodup : (shown.map Mark.dashed).Nodup)
    (h : taken.settle command.level = .ok (.showing shown command.values)) :
    taken.finish command.level = .ok ((Taken.showing shown command.values).globals, command) := by
  have hgroup : command.level.isGroup = false := by
    obtain _ | _ | _ | ⟨_ | _ | _⟩ := command <;> rfl
  have hclose := close_showing (Taken.settle_showing command.level shown command.values) 
    (hmarks.compatible_of_perm hshown)
  rw [Taken.finish, h]
  simp only [bind, Except.bind, hgroup, Bool.false_eq_true, if_false, hclose]
  obtain output | place | place | ⟨name | wanted | _⟩ := command
  · have houtput : (Taken.showing shown []).options.lookup .output = output := by
      refine Option.ext fun file => ?_
      rw [lookup_showing hnodup, hmarks.output_mem_iff hshown, Command.manifest.injEq]
    exact congrArg (fun file => Except.ok (_, Command.manifest file)) houtput
  · cases place <;> rfl
  · cases place <;> rfl
  · rfl
  · rfl
  · rfl

end Settable

/-- Reading a way to write a command gives the command back, with the marks of all levels. -/
theorem read_written {names line : List Text} (h : Written command names line marks)
    (hdescend : level.descend? names = some command.level) (hmarks : Settable marks)
    (hfiles : ∀ option file, .file option file ∈ command.marks → IsPlain file.text)
    (hplain : ∀ value ∈ command.values, IsPlain value) :
    ∃ options, read level .none false line = .ok (options, command) ∧
      ∀ mark, mark ∈ options.marks ↔ mark ∈ marks := by
  induction h generalizing level with
  | @last arguments ending values last shown marks hstretch hending hshown hvalues =>
      cases hdescend
      have hfits := hmarks.fits_last hshown hvalues hfiles hplain
      obtain ⟨after, hafter, hread⟩ := readsOn_none hstretch hfits
      obtain ⟨final, hfinal, hfinish⟩ : ∃ final : Taken,
          final.settle command.level = .ok (.showing shown command.values) ∧
            read command.level after false ending = final.finish command.level := by
        cases hending with
        | none =>
            rw [List.append_nil] at hvalues
            exact ⟨after, hvalues ▸ hafter, rfl⟩
        | behindDashes =>
            have hlength := (hmarks.fits_last hshown (List.append_nil _) hfiles hplain).length_le
            rw [← hvalues] at hlength
            obtain ⟨final, hfinal, hclosed⟩ := read_closed hafter hlength fun value hvalue =>
              (hplain value (hvalues ▸ List.mem_append_right values hvalue)).1
            refine ⟨final, hvalues ▸ hfinal, ?_⟩
            rw [read, if_neg Bool.false_ne_true, Level.knows_dash, Bool.false_and,
              if_neg Bool.false_ne_true, if_pos rfl, hclosed]
      refine ⟨(Taken.showing shown command.values).globals, ?_, fun mark => ?_⟩
      · rw [hread, hfinish]
        exact hmarks.finish hshown hfits.nodup hfinal
      · rw [mem_marks_showing hfits.nodup, hmarks.mem_iff_of_perm hshown]
  | @above name names arguments rest marks more hstretch hrest ih =>
      obtain ⟨inner, hinner, hbelow⟩ := Option.bind_eq_some_iff.mp hdescend
      have houter := hmarks.sublist (List.sublist_append_left marks more)
      obtain ⟨after, hafter, hread⟩ := readsOn_none hstretch (houter.fits level)
      obtain ⟨options, hinside, hoptions⟩ :=
        ih hbelow (hmarks.sublist (List.sublist_append_right marks more))
      have hdisjoint : (Taken.showing marks []).globals.config = none ∨ options.config = none := by
        cases hconfig : (Taken.showing marks []).globals.config with
        | none => exact .inl rfl
        | some file =>
            refine .inr (Option.eq_none_iff_forall_ne_some.mpr fun other hother => ?_)
            have hfirst : .file .config file ∈ marks :=
              ((mem_marks_showing houter.nodup).mp (mem_marks.mpr hconfig)).1
            have hsecond : .file .config other ∈ more := (hoptions _).mp (mem_marks.mpr hother)
            have hnodup := hmarks.nodup
            rw [List.map_append, List.nodup_append] at hnodup
            exact hnodup.2.2 _ (List.mem_map_of_mem hfirst) _ (List.mem_map_of_mem hsecond) rfl
      refine ⟨(Taken.showing marks []).globals.under options, ?_, fun mark => ?_⟩
      · have hwaiting := (Taken.of_settle hafter).2.2
        rw [hread, read, if_neg Bool.false_ne_true, Level.knows_of_find? hinner, hwaiting,
          Bool.not_false, Bool.and_true, if_pos rfl, hinner]
        simp only [hinside, bind, Except.bind, close_showing hafter houter.compatible]
        rfl
      · rw [mem_marks_under hdisjoint, mem_marks_showing houter.nodup, hoptions, List.mem_append]
        exact or_congr_left (and_iff_left_of_imp (houter.isGlobal mark))

end SkipChecks.Arguments

namespace SkipChecks.Invocation

open Arguments

variable {invocation : Invocation}

theorem isPlain_of_mem {option : ValueOption} {file : Path}
    (hplain : ∀ text ∈ invocation.texts, IsPlain text)
    (h : .file option file ∈ invocation.command.marks ++ invocation.options.marks) :
    IsPlain file.text :=
  hplain _ (List.mem_append_right _ (List.mem_filterMap.mpr ⟨_, h, rfl⟩))

theorem settable (hplain : ∀ text ∈ invocation.texts, IsPlain text)
    (hcompatible : ¬ (invocation.options.verbose = true ∧ invocation.options.quiet = true)) :
    Settable invocation.options.marks where
  isGlobal := fun _ hmark => isGlobal_of_mem_marks hmark
  nodup := nodup_marks invocation.options
  compatible := by
    rw [mem_marks, mem_marks]
    exact hcompatible
  plain := fun _ _ hfile => isPlain_of_mem hplain (List.mem_append_right _ hfile)

/-- What a line asks for can be written, and whichever way it is written, reading the line gives it
back: flags and options at any level, by name or by letter, anywhere between the values. -/
theorem ofArguments_of_spelled (hplain : ∀ text ∈ invocation.texts, IsPlain text)
    (hcompatible : ¬ (invocation.options.verbose = true ∧ invocation.options.quiet = true)) :
    (∃ line, invocation.Spelled line) ∧
      ∀ line, invocation.Spelled line → ofArguments line = .ok invocation := by
  constructor
  · obtain ⟨line, hwritten⟩ := exists_written invocation.command invocation.command.names
      invocation.options.marks
    exact ⟨line, _, hwritten, .refl _⟩
  · rintro line ⟨marks, hwritten, hmarks⟩
    obtain ⟨options, hread, hoptions⟩ := read_written hwritten
      (descend?_names invocation.command) ((settable hplain hcompatible).perm hmarks)
      (fun option file hfile => isPlain_of_mem hplain (List.mem_append_left _ hfile))
      fun value hvalue => hplain value (List.mem_append_left _ hvalue)
    have heq : options = invocation.options :=
      eq_of_marks fun mark => (hoptions mark).trans hmarks.mem_iff
    rw [ofArguments, hread, heq]
    rfl

/-- A file that is named like a command, and flags between the values. -/
theorem ofArguments_of_spelled_check :
    Spelled
        ⟨⟨true, false, true, some ⟨"check".toList⟩⟩,
          .check (.method ⟨"User".toList, "unverified".toList⟩)⟩
        ["-c".toList, "check".toList, "check".toList, "--no-color".toList, "method".toList,
          "User".toList, "-v".toList, "unverified".toList] ∧
      ofArguments
        ["-c".toList, "check".toList, "check".toList, "--no-color".toList, "method".toList,
          "User".toList, "-v".toList, "unverified".toList] =
        .ok ⟨⟨true, false, true, some ⟨"check".toList⟩⟩,
          .check (.method ⟨"User".toList, "unverified".toList⟩)⟩ := by
  have hletters : List.Forall₂ (fun flag c => Flag.letter? flag = some c) [.verbose] ['v'] :=
    .cons rfl .nil
  have hmethod : Written (.check (.method ⟨"User".toList, "unverified".toList⟩)) []
      ["User".toList, "-v".toList, "unverified".toList] [.flag .verbose] :=
    .last (.cons (.value "User".toList) (.cons (.letters (List.cons_ne_nil _ _) hletters)
      (.cons (.value "unverified".toList) .nil))) .none (.refl _) rfl
  have hspelled : Spelled
      ⟨⟨true, false, true, some ⟨"check".toList⟩⟩,
        .check (.method ⟨"User".toList, "unverified".toList⟩)⟩
      ["-c".toList, "check".toList, "check".toList, "--no-color".toList, "method".toList,
        "User".toList, "-v".toList, "unverified".toList] := by
    refine ⟨[.file .config ⟨"check".toList⟩, .flag .noColor, .flag .verbose], ?_, by decide⟩
    exact .above (.cons (.lettersWith .config ⟨"check".toList⟩ .nil) .nil)
      (.above (.cons (.name .noColor) .nil) hmethod)
  refine ⟨hspelled, (ofArguments_of_spelled ?_ ?_).2 _ hspelled⟩
  · simp [texts, Command.values, Command.marks, GlobalOptions.marks, IsPlain]
  · simp

end SkipChecks.Invocation
