import SkipChecks.Proofs.Manifest.RoundTrip
import SkipChecks.Proofs.Tree.Growth

/-!
# Generation spares files

A manifest is written as a whole or not at all. Generating one can fail when the routes are listed,
on the way to the file, and when the file is put in place; none of this touches a file.
-/

namespace SkipChecks.Manifest

open Tree

variable {disk : Disk} {t : Tree}

/-- The directories that are made lie on the way of the file. -/
theorem prepare_grows (disk : Disk) (t : Tree) (output : Path) :
    t.GrowsTowards (prepare disk t output).2 output := by
  unfold prepare
  split
  next => exact .refl t output
  next => exact .refl t output
  next parent hempty hparent =>
    have hmade : t.GrowsTowards (t.makeDirectories disk parent).2 output := by
      by_cases hroot : parent = ⟨['/']⟩
      · subst hroot
        exact .refl t output
      · exact .makeDirectories (Path.above_of_parent? hparent hempty hroot)
    split
    next hmake => rwa [hmake] at hmade
    next hmake => rwa [hmake] at hmade

theorem prepare_wellFormed (hwell : t.WellFormed) (disk : Disk) (output : Path) :
    (prepare disk t output).2.WellFormed := by
  unfold prepare
  split
  next => exact hwell
  next => exact hwell
  next parent _ _ =>
    have hmade := hwell.makeDirectories disk parent
    split
    next hmake => rwa [hmake] at hmade
    next hmake => rwa [hmake] at hmade

/-- Storing fails with new directories at most, or puts the file behind them. -/
theorem store_cases (hwell : t.WellFormed) (disk : Disk) (manifest : Manifest) (output : Path) :
    ∃ middle, middle.WellFormed ∧ t.GrowsTowards middle output ∧
      ((∃ failure, store disk manifest t output = (.error failure, middle)) ∨
        ∃ l u, store disk manifest t output = (.ok (), u) ∧ u.WellFormed ∧
          middle.resolve output = .ok l ∧ middle.find? l ≠ some .directory ∧
          u = middle.put l (.file (Bytes.ofText manifest.text))) := by
  have hgrows := prepare_grows disk t output
  have hmiddle := prepare_wellFormed hwell disk output
  refine ⟨(prepare disk t output).2, hmiddle, hgrows, ?_⟩
  unfold store
  split
  next hprepare => exact .inl ⟨_, by rw [hprepare]⟩
  next middle hprepare =>
    rw [hprepare] at hmiddle ⊢
    dsimp only
    rcases replaceFile_cases disk middle output (Bytes.ofText manifest.text) with
      ⟨failure, hfailed⟩ | ⟨l, hresolve, hput, hdone⟩
    · exact .inl ⟨failure, hfailed⟩
    · exact .inr ⟨l, _, hdone, hmiddle.put_of_resolve hresolve hput _, hresolve, hput, rfl⟩

/-- No file is touched when no manifest is generated, and nothing at all when the routes cannot be
listed. A manifest that is generated is in its file, every directory on the way there exists, and
nothing else is new or different. -/
theorem generation_spares_files (disk : Disk) (programs : Programs) (time : Text) (router : Router)
    (output : Path) (hwell : t.WellFormed) (hquiet : (router.names programs t).2.2 = t) :
    let generated := generate disk programs time t router output
    let u := generated.2.2
    u.WellFormed ∧
    (∀ failure, (router.names programs t).1 = .error failure →
      generated.1 = .error failure ∧ u = t) ∧
    (∀ failure, generated.1 = .error failure → t.KeepsFiles u output) ∧
    ∀ manifest, generated.1 = .ok manifest →
      u.home = t.home ∧ ∃ l, u.resolve output = .ok l ∧
        u.find? l = some (.file (Bytes.ofText manifest.text)) ∧
        (∀ before after, output.pieces = before ++ after → after ≠ [] →
          ∃ m, u.follow output before = .ok m ∧ u.find? m = some .directory) ∧
        ∀ m, m ≠ l → u.find? m = t.find? m ∨
          t.find? m = none ∧ u.find? m = some .directory ∧ u.Passes output m := by
  rcases hnames : router.names programs t with ⟨answer, next, t'⟩
  obtain rfl : t' = t := by rw [← hquiet, hnames]
  unfold generate build
  rw [hnames]
  cases answer with
  | error failure =>
      refine ⟨hwell, fun _ h => ?_, fun _ _ => ?_, fun _ h => ?_⟩
      · cases h
        exact ⟨rfl, rfl⟩
      · exact (GrowsTowards.refl t' output).keepsFiles hwell
      · cases h
  | ok names =>
      obtain ⟨middle, hmiddle, hgrows, ⟨failure, hstore⟩ | ⟨l, u, hstore, hu, hresolve, hput, rfl⟩⟩ :=
        store_cases hwell disk (ofNames time names) output
      · dsimp only
        rw [hstore]
        refine ⟨hmiddle, fun _ h => ?_, fun _ _ => hgrows.keepsFiles hwell, fun _ h => ?_⟩
        · cases h
        · cases h
      · dsimp only
        rw [hstore]
        refine ⟨hu, fun _ h => ?_, fun _ h => ?_, fun manifest h => ?_⟩
        · cases h
        · cases h
        cases h
        have hleads := resolve_put (e := .file (Bytes.ofText (ofNames time names).text)) hput hresolve
        refine ⟨hgrows.home_eq, l, hleads, ?_, fun before after hpieces hafter => ?_, fun m hm => ?_⟩
        · rw [find?_put (ne_nil_of_find? hput), if_pos rfl]
        · have hfollow := follow_of_resolve hleads
          rw [hpieces] at hfollow
          exact exists_of_follow hafter hfollow
        · rw [find?_put (ne_nil_of_find? hput), if_neg hm]
          exact (hgrows.same_or_new m).imp_right fun ⟨hfree, hnew, hpasses⟩ =>
            ⟨hfree, hnew, hpasses.put hput⟩

/-- A directory that the path only goes through and leaves again is made too, and stays where the
path ends in a slash, which no file does. -/
theorem generation_spares_files_beside_way :
    let t := Tree.empty.put ["notes".toList] (.file (Bytes.ofText "mine".toList))
    let stopped : Programs := fun _ t => (.error .notFound, t)
    let router := Router.fixed ["home".toList]
    let behind := (generate .obliging stopped "now".toList t router ⟨"new/../m.json".toList⟩).2.2
    let broken := (generate .obliging stopped "now".toList t router ⟨"new/x/".toList⟩).2.2
    (t.WellFormed ∧ (router.names stopped t).2.2 = t) ∧
      (behind.find? ["new".toList] = some .directory ∧
        ∃ l, behind.resolve ⟨"new/../m.json".toList⟩ = .ok l ∧
          behind.find? l = some (.file (Bytes.ofText
            (ofNames "now".toList ["home".toList]).text))) ∧
      broken.find? ["new".toList] = some .directory ∧ t.KeepsFiles broken ⟨"new/x/".toList⟩ := by
  intro t stopped router behind broken
  have hwell : t.WellFormed := by decide +kernel
  have hquiet : (router.names stopped t).2.2 = t := rfl
  refine ⟨⟨hwell, hquiet⟩, ⟨by decide +kernel, ?_⟩, by decide +kernel, ?_⟩
  · obtain ⟨-, -, -, hbehind⟩ := generation_spares_files .obliging stopped "now".toList router
      ⟨"new/../m.json".toList⟩ hwell hquiet
    obtain ⟨-, l, hresolve, hfile, -⟩ :=
      hbehind (ofNames "now".toList ["home".toList]) (by decide +kernel)
    exact ⟨l, hresolve, hfile⟩
  · obtain ⟨-, -, hbroken, -⟩ := generation_spares_files .obliging stopped "now".toList router
      ⟨"new/x/".toList⟩ hwell hquiet
    exact hbroken (.file .replace ⟨"new/x/".toList⟩ .notDirectory) (by decide +kernel)

end SkipChecks.Manifest
