import SkipChecks.Injection.Basic
import SkipChecks.Proofs.Declaration.Bodies
import SkipChecks.Proofs.Declaration.Places
import SkipChecks.Proofs.Dependencies.Calls

/-!
# Texts cut short

A scan of the beginning of a text finds nothing that a scan of the whole text does not find. A call
that is recognised only with what follows the beginning has one quote in it at most, so no other
call lies behind its start and none is displaced. Bodies are cut short where a stray brace closes
them: the guards for such a body are among those for all the text behind the opening brace.
-/

namespace SkipChecks.Dependencies

open Text

variable {opening : Text}

/-! ## Calls in the beginning of a text -/

/-- Whether a call is recognised does not depend on what follows its name. -/
theorem call?_append_eq_some_iff (s rest more name : Text) :
    call? opening (s ++ more) = some (name, rest ++ more) ↔
      call? opening s = some (name, rest) := by
  simp only [call?_eq_some_iff, ← List.cons_append, ← List.append_assoc, List.append_left_inj]

theorem IsOpening.countP_isQuote (hopening : IsOpening opening) : opening.countP isQuote = 0 :=
  List.countP_eq_zero.mpr fun c hc => by simp [hopening.notQuote c hc]

/-- A call has two quotes, around its name. -/
theorem two_le_countP_isQuote {s : Text} (h : findAll (call? opening) s ≠ []) :
    2 ≤ s.countP isQuote := by
  obtain ⟨⟨name, rest⟩, hfind⟩ := List.exists_mem_of_ne_nil _ h
  obtain ⟨before, text, rfl, hcall⟩ := exists_of_mem_findAll (consumes_call? opening) hfind
  obtain ⟨first, last, hfirst, hlast, -, -, rfl⟩ := call?_eq_some_iff.mp hcall
  simp only [List.countP_append, List.countP_cons, hfirst, hlast, if_true]
  omega

/-- What begins a call and is no call itself ends before the closing quote. -/
theorem countP_isQuote_le_one (hopening : IsOpening opening) {s more : Text} {find : Text × Text}
    (hnone : call? opening s = none) (hsome : call? opening (s ++ more) = some find) :
    s.countP isQuote ≤ 1 := by
  obtain ⟨name, rest⟩ := find
  obtain ⟨first, last, hfirst, hlast, hne, hfree, hwhole⟩ := call?_eq_some_iff.mp hsome
  rw [← List.append_assoc] at hwhole
  have hshort : s <+: opening ++ first :: name := by
    rcases List.append_eq_append_iff.mp hwhole with ⟨part, hpart, -⟩ | ⟨part, rfl, hpart⟩
    · exact ⟨part, hpart.symm⟩
    · cases part with
      | nil => exact ⟨[], by simp⟩
      | cons c part =>
          -- the closing quote would be in the text, and the call be recognised there
          obtain ⟨rfl, -⟩ := List.cons.inj hpart
          have hcall : call? opening (opening ++ first :: name ++ last :: part) =
              some (name, part) :=
            call?_eq_some_iff.mpr ⟨first, last, hfirst, hlast, hne, hfree, by simp⟩
          rw [hnone] at hcall
          cases hcall
  have hname : name.countP isQuote = 0 :=
    List.countP_eq_zero.mpr fun c hc => by simp [hfree c hc]
  calc s.countP isQuote ≤ (opening ++ first :: name).countP isQuote :=
        hshort.sublist.countP_le
    _ = 1 := by
        rw [List.countP_append, hopening.countP_isQuote, List.countP_cons_of_pos hfirst, hname]

/-- The calls in the beginning of a text come first among those in the whole text. -/
theorem namesCalled_prefix (hopening : IsOpening opening) (body more : Text) :
    namesCalled opening body <+: namesCalled opening (body ++ more) := by
  have hfinds := findAll_prefix_append (consumes_call? opening) call?_append_eq_some_iff
    (fun s more find hnone hsome => by
      by_contra hfound
      have hleast := two_le_countP_isQuote hfound
      have hmost := countP_isQuote_le_one hopening hnone hsome
      omega) body more
  have hnames := hfinds.map (·.1)
  rwa [List.map_map] at hnames

/-! ## Scans of the beginning of a text -/

theorem routes_scan_subset (body more : Text) :
    (scan body).routes ⊆ (scan (body ++ more)).routes := by
  intro name hname
  obtain ⟨opening, hopening, hcalled⟩ := mem_routes_iff.mp hname
  have hprefix := namesCalled_prefix (isOpening_of_mem hopening) body more
  exact mem_routes_iff.mpr ⟨opening, hopening, hprefix.subset hcalled⟩

theorem methods_scan_subset (body more : Text) :
    (scan body).methods ⊆ (scan (body ++ more)).methods := by
  intro method hmethod
  obtain ⟨name, hname, rfl⟩ := mem_methods hmethod
  have hchain := (method_mem_scan_iff hname).mp hmethod
  exact (method_mem_scan_iff hname).mpr (hchain.trans (List.prefix_append body more).isInfix)

theorem starterKit_scan_append {body : Text} (h : (scan body).starterKit) (more : Text) :
    (scan (body ++ more)).starterKit := by
  obtain ⟨phrase, hphrase, hmentions⟩ := List.any_eq_true.mp h
  exact List.any_eq_true.mpr
    ⟨phrase, hphrase, mentions_of_infix hmentions (List.prefix_append body more).isInfix⟩

theorem guards_subset {d e : Dependencies} (hroutes : d.routes ⊆ e.routes)
    (hmethods : d.methods ⊆ e.methods) (hkit : d.starterKit → e.starterKit) :
    d.guards ⊆ e.guards := by
  have hstarter : (if d.starterKit then [Guard.starterKit] else []) ⊆
      if e.starterKit then [Guard.starterKit] else [] := by
    split
    next h => rw [if_pos (hkit h)]; exact List.Subset.refl _
    next => exact List.nil_subset _
  intro guard hguard
  simp only [guards, List.mem_append] at hguard ⊢
  exact hguard.imp (Or.imp (hstarter ·) (List.map_subset _ hroutes ·))
    (List.map_subset _ hmethods ·)

theorem guards_scan_subset {body rest : Text} (h : body <+: rest) :
    (scan body).guards ⊆ (scan rest).guards := by
  obtain ⟨more, rfl⟩ := h
  exact guards_subset (routes_scan_subset body more) (methods_scan_subset body more)
    fun hkit => starterKit_scan_append hkit more

/-- Cutting a text short never adds a guard. Every route and every method that a scan of a text
gives is given by a scan of any longer text that it begins, and so is the need of the starter kit.
So wherever the body of a located test ends, its guards are among those for all the text behind the
opening brace. -/
theorem cut_adds_no_guard (body more source : Text) :
    (scan body).routes ⊆ (scan (body ++ more)).routes ∧
    (scan body).methods ⊆ (scan (body ++ more)).methods ∧
    ((scan body).starterKit → (scan (body ++ more)).starterKit) ∧
    ∀ d ∈ Declaration.locate source, ∃ before cut rest,
      splitAtByte? source d.bodyStart = some (before, rest) ∧
      Declaration.bodyAt? source d.bodyStart = some cut ∧
      Injection.guardsAt source d.bodyStart = (scan cut).guards ∧
      (scan cut).guards ⊆ (scan rest).guards := by
  refine ⟨routes_scan_subset body more, methods_scan_subset body more,
    fun hkit => starterKit_scan_append hkit more, fun d hd => ?_⟩
  obtain ⟨before, rest, hsplit⟩ := Declaration.splitAtByte?_bodyStart hd
  have hbody : Declaration.bodyAt? source d.bodyStart = some (Declaration.upToClose 0 rest) := by
    rw [Declaration.bodyAt?, hsplit, Option.map_some]
  exact ⟨before, _, rest, hsplit, hbody, by rw [Injection.guardsAt, hbody],
    guards_scan_subset (Declaration.upToClose_isPrefix 0 rest)⟩

/-- A brace in the name of a route closes the body. The call around it is found only in the whole
text, and the call in front of it is found in both. -/
theorem cut_adds_no_guard_inside_call :
    let source := "test('a', function () \x7b route('x'); route('b\x7dc'); \x7d".toList
    let rest := " route('x'); route('b\x7dc'); \x7d".toList
    ⟨['a'], 23⟩ ∈ Declaration.locate source ∧
      Injection.guardsAt source 23 = [.route ['x']] ∧
      Injection.guardsAt source 23 ⊆ (scan rest).guards ∧
      .route "b\x7dc".toList ∈ (scan rest).guards := by
  intro source rest
  have hlocated : (⟨['a'], 23⟩ : Declaration) ∈ Declaration.locate source := by decide +kernel
  obtain ⟨before, cut, after, hsplit, -, hguards, hsubset⟩ :=
    (cut_adds_no_guard [] [] source).2.2.2 _ hlocated
  have hrest : splitAtByte? source 23 = some ("test('a', function () \x7b".toList, rest) := by
    decide +kernel
  obtain rfl : after = rest := (Prod.mk.inj (Option.some.inj (hsplit.symm.trans hrest))).2
  refine ⟨hlocated, by decide +kernel, ?_, by decide +kernel⟩
  rw [hguards]
  exact hsubset

end SkipChecks.Dependencies
