import SkipChecks.Declaration
import SkipChecks.Proofs.Text.Finds

/-!
# Where declarations open

A declaration that is located opens its body at a byte offset that splits the source text, and a
later one at a greater offset. So a body can be read at each of them.
-/

namespace SkipChecks.Declaration

open Text

theorem consumes_name? : Consumes name? := by
  intro s name rest h
  simp only [name?, Option.bind_eq_bind, Option.bind_eq_some_iff, Option.pure_def,
    Option.some.injEq, Prod.mk.injEq, Prod.exists] at h
  obtain ⟨_, hopening, _, _, hname, _, hcomma, _, hfunction, _, hparameters, _, hclosing, _, hbrace,
    -, rfl⟩ := h
  have hbody := (Behind.of_isPrefixOf? hbrace (by simp)).of_suffix (List.dropWhile_suffix _)
  have hlist := (Behind.of_isPrefixOf? hclosing (by simp)).of_suffix (List.dropWhile_suffix _)
  have hcall := (Behind.of_isPrefixOf? hparameters (by simp)).of_suffix (List.dropWhile_suffix _)
  have hword := (Behind.of_isPrefixOf? hfunction (by decide)).of_suffix (List.dropWhile_suffix _)
  exact hbody.trans <| hlist.trans <| hcall.trans <| hword.trans <|
    (Behind.of_isPrefixOf? hcomma (by simp)).trans <| (consumes_quotedName? hname).trans <|
      .of_isPrefixOf? hopening (by decide)

/-- The text behind a find splits the source at the offset that is told for it. -/
theorem splitAtByte?_of_behind {rest source : Text} (h : Behind rest source) :
    ∃ before, splitAtByte? source (byteLength source - byteLength rest) = some (before, rest) := by
  obtain ⟨before, -, rfl⟩ := h
  exact ⟨before, splitAtByte?_eq_some_iff.mpr ⟨rfl, by simp⟩⟩

/-- Each located declaration opens its body at an offset that splits the source. -/
theorem splitAtByte?_bodyStart {source : Text} {d : Declaration} (hd : d ∈ locate source) :
    ∃ before after, splitAtByte? source d.bodyStart = some (before, after) := by
  obtain ⟨⟨name, rest⟩, hfind, rfl⟩ := List.mem_map.mp hd
  obtain ⟨before, hbefore⟩ :=
    splitAtByte?_of_behind (findAll_behind consumes_name? source _ hfind)
  exact ⟨before, rest, hbefore⟩

theorem bodyStart_pairwise (source : Text) :
    ((locate source).map (·.bodyStart)).Pairwise (· < ·) := by
  rw [locate, List.map_map, List.pairwise_map]
  refine (findAll_pairwise consumes_name? source).imp_of_mem ?_
  intro first second hfirst _ hbehind
  have hshorter := hbehind.byteLength_lt
  have hinside := (findAll_behind consumes_name? source first hfirst).byteLength_lt
  simp only [Function.comp_apply]
  omega

end SkipChecks.Declaration
