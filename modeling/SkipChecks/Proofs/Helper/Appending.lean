import SkipChecks.Helper.Bootstrap
import SkipChecks.Proofs.Text.Occurrence
import SkipChecks.Proofs.Tree.Hindrance

/-!
# Helpers are appended once

Appending fails and changes nothing, finds the marker and changes nothing, or makes the bootstrap
file longer and changes nothing else. It fails where the file cannot be read, or where something
keeps it from being replaced. Whether appending can happen again depends on the blocks alone: blank
lines keep them apart, so that the marker stands in the file from then on when it stands in one of
them.
-/

namespace SkipChecks.Helper

open Text

/-! ## The marker in rendered blocks -/

/-- The marker holds no line feed, so it never reaches over the blank line in front of a block. -/
theorem marker_infix_append_iff (location : Text) (blocks : List Text) (s : Text) :
    marker <:+: s ++ blocks.flatMap (fun block => "\n\n".toList ++ render location block) ↔
      marker <:+: s ∨ ∃ block ∈ blocks, marker <:+: render location block := by
  have hfeed : '\n' ∉ marker := by decide
  have hempty : ¬ marker <:+: [] := by decide
  induction blocks generalizing s with
  | nil => simp
  | cons block blocks ih =>
      have hblank (rest : Text) :
          marker <:+: s ++ ("\n\n".toList ++ rest) ↔ marker <:+: s ∨ marker <:+: rest := by
        have hapart : s ++ ("\n\n".toList ++ rest) = s ++ '\n' :: ([] ++ '\n' :: rest) := rfl
        rw [hapart, infix_append_cons_iff hfeed, infix_append_cons_iff hfeed]
        simp only [hempty, false_or]
      rw [List.flatMap_cons, List.append_assoc, hblank]
      simp only [ih, List.mem_cons, exists_eq_or_imp]

theorem infix_stripPreamble {line s : Text} (h : line ∈ lines s) (hnot : isPreamble line = false) :
    line <:+: stripPreamble s := by
  rw [← List.takeWhile_append_dropWhile (p := isPreamble) (l := lines s), List.mem_append] at h
  apply infix_of_mem_join
  refine h.resolve_left fun hmem => ?_
  have hpreamble := List.all_eq_true.mp (List.all_takeWhile (l := lines s)) line hmem
  rw [hnot] at hpreamble
  cases hpreamble

/-- Filling in a location neither takes the marker away nor cuts it: the place that is left open
begins and ends in a brace. -/
theorem marker_infix_render {block : Text} (h : marker <:+: stripPreamble block)
    (location : Text) : marker <:+: render location block := by
  have hplace : placeholder = '\x7b' :: "\x7bROUTE_MANIFEST\x7d".toList ++ ['\x7d'] := rfl
  rw [render, hplace]
  exact infix_replace (by decide) (by decide) (by decide) h

theorem marker_infix_skipHelpers (location : Text) : marker <:+: render location skipHelpers := by
  let line := "function skipIfRouteMissing(string $routeName): void".toList
  have hbegins : marker <+: line := by decide
  have hline : line ∈ lines skipHelpers := by
    apply mem_lines_join
    · apply List.mem_map_of_mem
      simp [skipHelperLines]
    · decide
  exact marker_infix_render (hbegins.isInfix.trans (infix_stripPreamble hline (by decide))) location

namespace Appender

variable {appender : Appender} {disk : Disk} {t : Tree} {s : Text}

/-! ## Runs -/

theorem isFile_of_readText {p : Path} (h : t.readText p = .ok s) : t.isFile p = true := by
  rw [Tree.isFile, Tree.readText_eq_ok_iff.mp h]
  rfl

theorem append_of_marked (h : t.readText appender.bootstrap = .ok s) (hmarked : marker <:+: s) :
    appender.append disk t = (.ok .alreadyApplied, t) := by
  unfold append
  simp only [isFile_of_readText h, h, contains_iff.mpr hmarked, if_true]

/-- Without the marker, the bootstrap file is replaced by a longer one, unless something is against
it. -/
theorem append_of_unmarked (hwell : t.WellFormed) (h : t.readText appender.bootstrap = .ok s)
    (hunmarked : ¬ marker <:+: s) (disk : Disk) :
    ∃ l, t.resolve appender.bootstrap = .ok l ∧ t.find? l ≠ some .directory ∧
      appender.append disk t =
        match Tree.hindrance? disk t appender.bootstrap with
        | some failure => (.error failure, t)
        | none => (.ok .appended, t.put l (.file (Bytes.ofText (s ++ appender.appendix)))) := by
  obtain ⟨l, hresolve, hfind⟩ := Tree.exists_of_read (Tree.readText_eq_ok_iff.mp h)
  refine ⟨l, hresolve, by simp [hfind], ?_⟩
  have hnot : contains marker s = false := by
    rwa [Bool.eq_false_iff, ne_eq, contains_iff]
  have hreplace := Tree.replaceFile_of_resolve hwell hresolve hfind disk
    (Bytes.ofText (s ++ appender.appendix))
  unfold append
  simp only [isFile_of_readText h, h, hnot, if_true, Bool.false_eq_true, if_false, hreplace]
  cases Tree.hindrance? disk t appender.bootstrap <;> rfl

/-- A file is left alone just when it holds the marker. -/
theorem append_eq_alreadyApplied_iff (hwell : t.WellFormed) (h : t.readText appender.bootstrap = .ok s)
    (disk : Disk) : appender.append disk t = (.ok .alreadyApplied, t) ↔ marker <:+: s := by
  refine ⟨fun hagain => ?_, append_of_marked h⟩
  by_contra hunmarked
  obtain ⟨l, -, -, happend⟩ := append_of_unmarked hwell h hunmarked disk
  rw [happend] at hagain
  cases hhindrance : Tree.hindrance? disk t appender.bootstrap <;> simp [hhindrance] at hagain

/-- Appending fails where there is no bootstrap file or where it holds no text, and the tree stays as
it was. A file that holds the marker is left alone. Any other one is followed by the rendered blocks,
each behind a blank line, and nothing else changes; if something keeps the file from being replaced,
that is the failure and nothing changes at all. The next time, the file is left alone just when the
marker stands in a rendered block, as it does in the built-in ones wherever the manifest lies. -/
theorem append_at_most_once (appender : Appender) (disk : Disk) (t : Tree) (hwell : t.WellFormed) :
    let p := appender.bootstrap
    let rendered := appender.blocks.map (render appender.location)
    (t.isFile p = false → appender.append disk t = (.error (.bootstrapNotFound p), t)) ∧
    (∀ content, t.read p = .ok content → content.text? = none →
      appender.append disk t = (.error (.file .read p .notText), t)) ∧
    ∀ s, t.readText p = .ok s →
      (marker <:+: s → appender.append disk t = (.ok .alreadyApplied, t)) ∧
      (¬ marker <:+: s →
        (∀ failure, Tree.hindrance? disk t p = some failure →
          appender.append disk t = (.error failure, t)) ∧
        (Tree.hindrance? disk t p = none → ∃ l u, t.resolve p = .ok l ∧
          appender.append disk t = (.ok .appended, u) ∧ u.WellFormed ∧ u.home = t.home ∧
          u.readText p = .ok (s ++ rendered.flatMap ("\n\n".toList ++ ·)) ∧
          (∀ m, m ≠ l → u.find? m = t.find? m) ∧
          ∀ later : Disk,
            (appender.append later u = (.ok .alreadyApplied, u) ↔
              ∃ block ∈ rendered, marker <:+: block) ∧
            (appender.blocks = (standard p).blocks →
              appender.append later u = (.ok .alreadyApplied, u)))) := by
  intro p rendered
  refine ⟨fun hmissing => ?_, fun content hread htext => ?_, fun s hs =>
    ⟨append_of_marked hs, fun hunmarked => ?_⟩⟩
  · simp [append, p, hmissing]
  · have hfile : t.isFile p = true := by rw [Tree.isFile, hread]; rfl
    simp [append, Tree.readText, p, hfile, hread, htext]
  -- from here on the file is one that holds a text without the marker
  obtain ⟨l, hresolve, hfile, happend⟩ := append_of_unmarked hwell hs hunmarked disk
  refine ⟨fun failure hfailure => by rw [happend, hfailure], fun hnone => ?_⟩
  rw [hnone] at happend
  have hlonger : s ++ appender.appendix = s ++ rendered.flatMap ("\n\n".toList ++ ·) := by
    rw [appendix, List.flatMap_map]
  have hmarked : marker <:+: s ++ appender.appendix ↔ ∃ block ∈ rendered, marker <:+: block := by
    rw [appendix, marker_infix_append_iff]
    simp [hunmarked, rendered]
  have hread := Tree.readText_eq_ok_iff.mpr
    (Tree.read_put hfile hresolve (Bytes.ofText (s ++ appender.appendix)))
  have hothers (m : Location) (hm : m ≠ l) :
      (t.put l (.file (Bytes.ofText (s ++ appender.appendix)))).find? m = t.find? m := by
    rw [Tree.find?_put (Tree.ne_nil_of_find? hfile), if_neg hm]
  have hlonger_well := hwell.put_of_resolve hresolve hfile
    (Bytes.ofText (s ++ appender.appendix))
  refine ⟨l, _, hresolve, happend, hlonger_well, rfl, hlonger ▸ hread, hothers, fun later => ?_⟩
  have hagain := append_eq_alreadyApplied_iff hlonger_well hread later
  rw [hmarked] at hagain
  refine ⟨hagain, fun hstandard => hagain.mpr ?_⟩
  refine ⟨_, List.mem_map_of_mem (a := skipHelpers) ?_, marker_infix_skipHelpers _⟩
  rw [hstandard]
  exact List.mem_cons_self

/-- The marker is in no block, and comes up when the location of the manifest is filled in. -/
theorem append_at_most_once_filled_in :
    let block := "<?php\n\nfunction ".toList ++ placeholder ++ "();\n".toList
    let p : Path := ⟨"Pest.php".toList⟩
    let appender := (ofBlocks p [block]).reading ⟨"skipIfRouteMissing/".toList⟩
    let t := Tree.empty.put ["Pest.php".toList] (.file (Bytes.ofText "<?php\n".toList))
    t.WellFormed ∧ ¬ marker <:+: block ∧ ∃ u, appender.append .obliging t = (.ok .appended, u) ∧
      u.readText p = .ok "<?php\n\n\nfunction skipIfRouteMissing();\n".toList ∧
      appender.append .obliging u = (.ok .alreadyApplied, u) := by
  intro block p appender t
  have hwell : t.WellFormed := by decide +kernel
  have hs : t.readText p = .ok "<?php\n".toList := by decide +kernel
  have hfree : Tree.hindrance? .obliging t p = none := by decide +kernel
  obtain ⟨-, u, -, happend, -, -, hread, -, hagain⟩ :=
    (((append_at_most_once appender .obliging t hwell).2.2 _ hs).2 (by decide)).2 hfree
  refine ⟨hwell, by decide, u, happend, hread.trans (by decide +kernel), (hagain _).1.mpr ?_⟩
  exact ⟨_, List.mem_cons_self, by decide +kernel⟩

/-- The bootstrap file holds a text without the marker. Through the first of these paths, which is
longer than the system takes, it is not found; through the second one it is read, but the path of the
temporary file is too long. -/
theorem long_paths_stop_append :
    let source := "<?php\n".toList
    let home : Location := ["home".toList]
    let directory : Location := home ++ ["tests".toList]
    let t : Tree := ⟨[(home, .directory), (directory, .directory),
      (directory ++ ["Pest.php".toList], .file (Bytes.ofText source))], home⟩
    let p (dots : Nat) : Path := .behindDots dots "tests/Pest.php".toList
    t.WellFormed ∧ ¬ marker <:+: source ∧
      (standard (p 2050)).append .obliging t = (.error (.bootstrapNotFound (p 2050)), t) ∧
      t.readText (p 2040) = .ok source ∧
      (standard (p 2040)).append .obliging t =
        (.error (.file .createTemporary (.behindDots 2040 "tests".toList)
          (.atPath (t.temporaryPath .obliging (p 2040)) .nameTooLong)), t) := by
  intro source home directory t p
  have hwell : t.WellFormed := by decide +kernel
  have hhome : t.find? t.home = some .directory := by decide +kernel
  have hunmarked : ¬ marker <:+: source := by decide
  have hsound : Path.Sound ⟨"tests/Pest.php".toList⟩ := ⟨rfl, by decide⟩
  have hname : byteLength "tests/Pest.php".toList = 14 := by decide
  have hbytes : byteLength "tests".toList = 5 := by decide
  have hmissing (dots : Nat) (hdots : 2041 ≤ dots) : t.isFile (p dots) = false := by
    have hfault : (p dots).fault? = some .nameTooLong := by
      rw [(hsound.behindDots dots).fault?_eq, Path.byteLength_behindDots, hname, if_pos]
      rw [Path.longest]
      omega
    rw [Tree.isFile, Tree.read, Tree.resolve, hfault]
    rfl
  have hread (dots : Nat) (hdots : dots ≤ 2040) : t.readText (p dots) = .ok source := by
    have hresolve : t.resolve (p dots) = .ok (directory ++ ["Pest.php".toList]) := by
      rw [Tree.resolve_behindDots hhome hsound rfl]
      · decide +kernel
      · rw [hname, Path.longest]
        omega
    exact Tree.readText_eq_ok_iff.mpr (Tree.read_of_resolve hresolve (by decide +kernel))
  have hhindrance (dots : Nat) (hdots : 2040 ≤ dots) :
      Tree.hindrance? .obliging t (p dots) = some (.file .createTemporary
        (.behindDots dots "tests".toList)
        (.atPath (t.temporaryPath .obliging (p dots)) .nameTooLong)) := by
    refine Tree.hindrance?_behindDots (s := "tests".toList) (n := "Pest.php".toList) hwell hhome
      (by simp [Path.IsStep]) (by simp [Path.IsStep]) ?_ .obliging
    have hfront : byteLength t.homePath.text = 5 := by decide +kernel
    rw [hfront, hbytes, Path.longest]
    omega
  refine ⟨hwell, hunmarked, ?_, hread 2040 (Nat.le_refl _), ?_⟩
  · have hfile : t.isFile (standard (p 2050)).bootstrap = false := hmissing 2050 (by decide)
    simp only [append, hfile, Bool.false_eq_true, if_false]
    rfl
  · have htext : t.readText (standard (p 2040)).bootstrap = .ok source := hread 2040 (Nat.le_refl _)
    obtain ⟨l, -, -, happend⟩ := append_of_unmarked hwell htext hunmarked .obliging
    have hfailure : Tree.hindrance? .obliging t (standard (p 2040)).bootstrap = _ :=
      hhindrance 2040 (Nat.le_refl _)
    rw [happend, hfailure]

end Appender

end SkipChecks.Helper
