import SkipChecks.Helper.Bootstrap
import SkipChecks.Proofs.Text.Literals
import SkipChecks.Proofs.Text.Silence

/-!
# The location in the helpers

In the helpers that guards call, one place is left open for the location of the manifest, inside a
single-quoted literal. Whatever the location holds, the literal stands for it, and what is around
the place stays. What was filled in is not looked at again, so a location may hold the mark of the
place itself.
-/

namespace SkipChecks.Helper

open Text

/-- A block with one open place. -/
theorem render_of_parts {block front back : Text} (location : Text)
    (hblock : stripPreamble block = front ++ (placeholder ++ back))
    (hfront : Silent placeholder front) (hback : contains placeholder back = false) :
    render location block = front ++ (Literal.escape location ++ back) := by
  have hplace : placeholder = '\x7b' :: "\x7bROUTE_MANIFEST\x7d\x7d".toList := rfl
  have hrest : replace placeholder (Literal.escape location) back = back :=
    replace_of_not_contains hback
  rw [render, hblock, hfront.replace_append]
  rw [hplace] at hrest ⊢
  rw [replace_append, hrest]

/-! ## The functions that guards call -/

/-- The lines between the preamble and the line with the open place. -/
def linesBefore : List Text := ((skipHelperLines.take 11).drop 4).map String.toList

/-- The lines behind the line with the open place. -/
def linesBehind : List Text := (skipHelperLines.drop 12).map String.toList

theorem linesBefore_ne_nil : linesBefore ≠ [] := List.cons_ne_nil _ _

theorem linesBehind_ne_nil : linesBehind ≠ [] := List.cons_ne_nil _ _

theorem lines_skipHelpers : lines skipHelpers = skipHelperLines.map String.toList := by
  apply lines_join (List.cons_ne_nil _ _)
  simp only [List.forall_mem_map, List.forall_mem_cons]
  repeat' apply And.intro
  -- literals are written out by rewriting: the kernel would decode them byte by byte
  all_goals first | (rw [String.toList_ofList]; decide) | exact List.forall_mem_nil _

theorem stripPreamble_skipHelpers :
    stripPreamble skipHelpers =
      join ['\n'] (linesBefore ++
        ("        $manifestPath = __DIR__.'/".toList ++ (placeholder ++ "';".toList)) ::
          linesBehind) := by
  have hlines : skipHelperLines.map String.toList =
      (skipHelperLines.take 4).map String.toList ++ (linesBefore ++
        "        $manifestPath = __DIR__.'/\x7b\x7bROUTE_MANIFEST\x7d\x7d';".toList ::
          linesBehind) := rfl
  have hpreamble : ∀ line ∈ (skipHelperLines.take 4).map String.toList, isPreamble line := by
    decide +kernel
  have hbefore : linesBefore = "$_routeManifest = null;".toList ::
      ((skipHelperLines.take 11).drop 5).map String.toList := rfl
  have hfirst : ¬ isPreamble "$_routeManifest = null;".toList := by decide +kernel
  have hplace : "        $manifestPath = __DIR__.'/\x7b\x7bROUTE_MANIFEST\x7d\x7d';".toList =
      "        $manifestPath = __DIR__.'/".toList ++ (placeholder ++ "';".toList) := by
    decide +kernel
  rw [stripPreamble, lines_skipHelpers, hlines, List.dropWhile_append_of_pos hpreamble, ← hplace,
    hbefore, List.cons_append, List.dropWhile_cons_of_neg hfirst]

theorem contains_linesBehind : contains placeholder (join ['\n'] linesBehind) = false := by
  have hnone : ∀ line ∈ linesBehind, contains placeholder line = false := by
    simp only [linesBehind, List.forall_mem_map, skipHelperLines, List.drop, List.forall_mem_cons]
    repeat' apply And.intro
    all_goals first | (rw [String.toList_ofList]; decide +kernel) | exact List.forall_mem_nil _
  have hfree : ∀ line ∈ linesBehind, '\n' ∉ line := by
    intro line hline
    have hmem : line ∈ lines skipHelpers := by
      rw [lines_skipHelpers]
      exact ((List.drop_suffix 12 skipHelperLines).map String.toList).subset hline
    exact notMem_of_mem_split hmem
  rw [Bool.eq_false_iff, ne_eq, contains_iff]
  intro h
  obtain ⟨line, hline, hwithin⟩ := exists_line_infix (by decide) h
  rw [lines_join linesBehind_ne_nil hfree] at hline
  have hhere := contains_iff.mpr hwithin
  rw [hnone line hline] at hhere
  cases hhere

/-- The open place is in the literal behind the directory. -/
theorem exists_parts_skipHelpers :
    ∃ front back, stripPreamble skipHelpers =
        front ++ "__DIR__.'/".toList ++ (placeholder ++ ("';".toList ++ back)) ∧
      Silent placeholder (front ++ "__DIR__.'/".toList) ∧
      contains placeholder ("';".toList ++ back) = false := by
  refine ⟨join ['\n'] linesBefore ++ "\n        $manifestPath = ".toList,
    '\n' :: join ['\n'] linesBehind, ?_, by decide +kernel, ?_⟩
  · obtain ⟨next, others, hbehind⟩ := List.exists_cons_of_ne_nil linesBehind_ne_nil
    have hsplit : "        $manifestPath = __DIR__.'/".toList =
        "        $manifestPath = ".toList ++ "__DIR__.'/".toList := by
      decide +kernel
    rw [stripPreamble_skipHelpers, join_append linesBefore_ne_nil (List.cons_ne_nil _ _),
      hbehind, join_cons_cons, hsplit]
    simp
  · have hquiet : Silent placeholder ("';".toList ++ ['\n']) := by decide +kernel
    rw [← List.singleton_append, ← List.append_assoc, hquiet.contains_append]
    exact contains_linesBehind

/-! ## The location between the quotes -/

/-- Whatever the path of the manifest is, its steps are escaped for the literal that they go into:
no quote is left to close it and no backslash to take its closing quote along. So the literal behind
the directory stands for a slash and the steps, and everything else in the helpers stays, also where
the path itself looks like the open place. -/
theorem location_survives_quoting :
    ∃ front back, stripPreamble skipHelpers =
        front ++ "__DIR__.'/".toList ++ placeholder ++ "';".toList ++ back ∧
      ∀ (appender : Appender) (p : Path),
        let steps := join ['/'] (p.parts.map Part.text)
        let escaped := replace ['\''] ['\\', '\''] (replace ['\\'] ['\\', '\\'] steps)
        Literal.read? escaped = none ∧ Literal.Closes escaped ∧ Literal.value escaped = steps ∧
          render (appender.reading p).location skipHelpers =
            front ++ "__DIR__.'/".toList ++ escaped ++ "';".toList ++ back ∧
          Literal.read? ("/".toList ++ escaped ++ "';".toList ++ back) =
            some ('/' :: steps, ';' :: back) := by
  obtain ⟨front, back, hblock, hfront, hback⟩ := exists_parts_skipHelpers
  refine ⟨front, back, by simpa using hblock, fun appender p => ?_⟩
  intro steps escaped
  have hescaped : escaped = Literal.escape steps :=
    Literal.replace_quotes_replace_backslashes steps
  have hrender := render_of_parts steps hblock hfront hback
  have hinside := Literal.read?_escape steps (';' :: back)
  rw [hescaped]
  refine ⟨Literal.read?_escape_eq_none steps, Literal.closes_escape steps,
    Literal.value_escape steps, ?_, ?_⟩
  · rw [Appender.reading, location, Path.showParts, hrender]
    simp
  · have hslash : Literal.read? ('/' :: (Literal.escape steps ++ '\'' :: ';' :: back)) =
        some ('/' :: steps, ';' :: back) := by
      rw [Literal.read?, hinside] <;> simp
    simpa using hslash

example :
    let block := "<?php\n$p = __DIR__.'/\x7b\x7bROUTE_MANIFEST\x7d\x7d';\n".toList
    render (location ⟨"it's//\\\x7b\x7bROUTE_MANIFEST\x7d\x7d\\".toList⟩) block =
      "$p = __DIR__.'/it\\'s/\\\\\x7b\x7bROUTE_MANIFEST\x7d\x7d\\\\';\n".toList := by
  decide +kernel

end SkipChecks.Helper
