import SkipChecks.Proofs.Text.Blanks
import SkipChecks.Proofs.Text.ByteOrder
import SkipChecks.Proofs.Text.Folding
import SkipChecks.Proofs.Tree.Replace
import SkipChecks.Reflection.Basic

/-!
# Declarations of methods in sources

A method is found exactly when a declaration of it stands in the source of its class, wherever that
is and whatever blanks are in it. The name in the declaration must be the name that is looked for,
case aside. So a name that goes on before or behind is another one, and a text that is no name is
never found. No bound is put on the length of names.
-/

namespace SkipChecks

namespace MethodDeclaration

open Text

variable {name other s source : Text}

/-- A declaration that stands in a source, of a method with any name. -/
structure Site (source : Text) where
  before : Text
  /-- The word `function`, in whatever case. -/
  keyword : Text
  gap : Text
  /-- An ampersand, or nothing. -/
  mark : Text
  name : Text
  space : Text
  after : Text
  source_eq :
    source = before ++ (keyword ++ (gap ++ (mark ++ (name ++ (space ++ '(' :: after)))))
  notInWord : ∀ c ∈ before.getLast?, isWord c = false
  keyword_eq : keyword.map foldCase = "function".toList
  gap_ne_nil : gap ≠ []
  isBlank_gap : ∀ c ∈ gap, isBlank c
  mark_eq : mark = [] ∨ mark = ['&']
  name_ne_nil : name ≠ []
  isWord_name : ∀ c ∈ name, isWord c
  isBlank_space : ∀ c ∈ space, isBlank c

/-! ## Names -/

theorem isName_iff : isName name ↔ name ≠ [] ∧ ∀ c ∈ name, c.isAlphanum ∨ c = '_' := by
  simp [isName]

/-- A character of a name is part of a word, and neither a blank nor an ampersand. -/
theorem of_isAlphanum {c : Char} (h : c.isAlphanum ∨ c = '_') :
    isWord c ∧ isBlank c = false ∧ c ≠ '&' := by
  -- names are ASCII, so finitely many characters are left to look at
  have hascii : c.toNat < 128 := by
    rcases h with h | rfl
    · exact toNat_lt_of_isAlphanum h
    · decide
  have hall : ∀ n < 128, (Char.ofNat n).isAlphanum ∨ Char.ofNat n = '_' →
      isWord (Char.ofNat n) ∧ isBlank (Char.ofNat n) = false ∧ Char.ofNat n ≠ '&' := by
    decide +kernel
  have hchar := hall c.toNat hascii
  rw [Char.ofNat_toNat] at hchar
  exact hchar h

/-- What a name is compared as begins neither with a blank nor with an ampersand. -/
theorem head_folded (hname : isName name) :
    ∃ c ∈ (name.map foldCase).head?, isBlank c = false ∧ c ≠ '&' := by
  obtain ⟨hne, hall⟩ := isName_iff.mp hname
  obtain ⟨c, others, rfl⟩ := List.exists_cons_of_ne_nil hne
  obtain ⟨-, hblank, hmark⟩ := of_isAlphanum (hall c List.mem_cons_self)
  refine ⟨foldCase c, rfl, by rwa [isBlank_foldCase], ?_⟩
  rwa [ne_eq, foldCase_eq_iff (by decide +kernel)]

/-- What is compared as a name consists of characters of words. -/
theorem isWord_of_folded (hname : isName name) (h : other.map foldCase = name.map foldCase) :
    ∀ c ∈ other, isWord c := by
  intro c hc
  have hmem := List.mem_map_of_mem (f := foldCase) hc
  rw [h] at hmem
  obtain ⟨d, hd, hfold⟩ := List.mem_map.mp hmem
  rw [← isWord_foldCase c, ← hfold, isWord_foldCase]
  exact (of_isAlphanum ((isName_iff.mp hname).2 d hd)).1

/-! ## Declarations at the start of a text -/

theorem eq_dropMark_iff {rest : Text} (h : ∀ c ∈ rest.head?, c ≠ '&') :
    rest = beginsWith.dropMark s ↔ ∃ mark, (mark = [] ∨ mark = ['&']) ∧ s = mark ++ rest := by
  constructor
  · rintro rfl
    unfold beginsWith.dropMark
    split
    next s => exact ⟨['&'], .inr rfl, rfl⟩
    next => exact ⟨[], .inl rfl, rfl⟩
  · rintro ⟨mark, rfl | rfl, rfl⟩
    · unfold beginsWith.dropMark
      split
      next => exact absurd rfl (h '&' rfl)
      next => rfl
    · rfl

theorem beginsWith_iff_steps :
    beginsWith name s ↔ ∃ c rest behind, "function".toList ++ c :: rest = s ∧ isBlank c ∧
      name ++ behind = beginsWith.dropMark (trimStart rest) ∧ ['('] <+: trimStart behind := by
  simp only [← List.isPrefixOf?_eq_some_iff_append_eq]
  unfold beginsWith
  split
  next c rest hkeyword =>
    simp only [hkeyword, Bool.and_eq_true, Option.some.injEq, List.cons.injEq]
    split
    next behind hbehind => simp [hbehind, List.isPrefixOf_iff_prefix]
    next hnone => simp [hnone]
  next hnone =>
    simp only [Bool.false_eq_true, false_iff, not_exists, not_and]
    intro c rest behind hkeyword
    exact absurd hkeyword (hnone c rest)

/-- The steps of the comparison take the parts of a declaration one after the other. -/
theorem beginsWith_iff (hname : ∃ c ∈ name.head?, isBlank c = false ∧ c ≠ '&') :
    beginsWith name s ↔ ∃ gap mark space after, gap ≠ [] ∧ (∀ c ∈ gap, isBlank c) ∧
      (mark = [] ∨ mark = ['&']) ∧ (∀ c ∈ space, isBlank c) ∧
      s = "function".toList ++ (gap ++ (mark ++ (name ++ (space ++ '(' :: after)))) := by
  obtain ⟨d, hhead, hblank, hmark⟩ := hname
  obtain ⟨others, rfl⟩ := List.head?_eq_some_iff.mp hhead
  have hparen : ∃ c ∈ ['('].head?, isBlank c = false := ⟨'(', rfl, by decide +kernel⟩
  -- trimming stops at the mark, or at the name where there is no mark
  have hword {mark : Text} (h : mark = [] ∨ mark = ['&']) :
      ∃ c ∈ (mark ++ d :: others).head?, isBlank c = false := by
    rcases h with rfl | rfl
    · exact ⟨d, rfl, hblank⟩
    · exact ⟨'&', rfl, by decide +kernel⟩
  have hdrop {behind s : Text} : (d :: others) ++ behind = beginsWith.dropMark s ↔
      ∃ mark, (mark = [] ∨ mark = ['&']) ∧ s = mark ++ ((d :: others) ++ behind) :=
    eq_dropMark_iff fun c hc => by
      cases hc
      exact hmark
  rw [beginsWith_iff_steps]
  constructor
  · rintro ⟨c, rest, behind, rfl, hc, hmatch, after, hafter⟩
    obtain ⟨mark, hmark, hrest⟩ := hdrop.mp hmatch
    obtain ⟨gap, hgap, rfl⟩ := (append_eq_trimStart_iff (hword hmark)).mp
      ((List.append_assoc ..).trans hrest.symm)
    obtain ⟨space, hspace, rfl⟩ := (append_eq_trimStart_iff hparen).mp hafter
    refine ⟨c :: gap, mark, space, after, List.cons_ne_nil c gap, ?_, hmark, hspace, by simp⟩
    exact List.forall_mem_cons.mpr ⟨hc, hgap⟩
  · rintro ⟨gap, mark, space, after, hne, hgap, hmark, hspace, rfl⟩
    obtain ⟨c, gap, rfl⟩ := List.exists_cons_of_ne_nil hne
    obtain ⟨hc, hgap⟩ := List.forall_mem_cons.mp hgap
    refine ⟨c, gap ++ (mark ++ ((d :: others) ++ (space ++ '(' :: after))),
      space ++ '(' :: after, rfl, hc, hdrop.mpr ⟨mark, hmark, ?_⟩, after, ?_⟩
    · rw [← List.append_assoc mark]
      exact ((append_eq_trimStart_iff (hword hmark)).mpr ⟨gap, hgap, rfl⟩).symm
    · exact (append_eq_trimStart_iff hparen).mpr ⟨space, hspace, rfl⟩

/-! ## Declarations in a text -/

/-- What stands before a declaration decides whether it begins inside of a word. -/
theorem occurs_iff {inWord : Bool} :
    occurs name inWord s ↔ ∃ before rest, s = before ++ rest ∧
      before.getLast?.elim inWord isWord = false ∧ beginsWith name rest := by
  induction s generalizing inWord with
  | nil =>
      refine iff_of_false Bool.false_ne_true ?_
      rintro ⟨before, rest, hs, -, hbegins⟩
      rw [(List.nil_eq_append_iff.mp hs).2] at hbegins
      cases hbegins
  | cons c s ih =>
      -- behind the first character it no longer matters what came before the text
      have hlast (before : Text) :
          (c :: before).getLast?.elim inWord isWord = before.getLast?.elim (isWord c) isWord := by
        rw [List.getLast?_cons]
        cases before.getLast? <;> rfl
      rw [occurs, Bool.or_eq_true, Bool.and_eq_true, Bool.not_eq_true', ih]
      constructor
      · rintro (⟨hword, hbegins⟩ | ⟨before, rest, rfl, hword, hbegins⟩)
        · exact ⟨[], c :: s, rfl, hword, hbegins⟩
        · exact ⟨c :: before, rest, rfl, (hlast before).trans hword, hbegins⟩
      · rintro ⟨_ | ⟨d, before⟩, rest, hs, hword, hbegins⟩
        · exact .inl ⟨hword, hs ▸ hbegins⟩
        · obtain ⟨rfl, rfl⟩ := List.cons.inj hs
          exact .inr ⟨before, rest, rfl, (hlast before).symm.trans hword, hbegins⟩

theorem forall_isBlank_folded {blanks : Text} :
    (∀ c ∈ blanks.map foldCase, isBlank c) ↔ ∀ c ∈ blanks, isBlank c := by
  simp only [List.forall_mem_map, isBlank_foldCase]

theorem mark_folded {mark : Text} :
    (mark.map foldCase = [] ∨ mark.map foldCase = ['&']) ↔ mark = [] ∨ mark = ['&'] := by
  have hmark (c : Char) : foldCase c = '&' ↔ c = '&' := foldCase_eq_iff (by decide +kernel)
  simp only [List.map_eq_nil_iff, List.map_eq_singleton_iff, hmark]
  simp

theorem notInWord_folded {before : Text} :
    (before.map foldCase).getLast?.elim false isWord = false ↔
      ∀ c ∈ before.getLast?, isWord c = false := by
  rw [List.getLast?_map]
  cases before.getLast? <;> simp [isWord_foldCase]

/-- What a source is compared as has the parts of a declaration in it, each as it is compared. -/
theorem Site.folded_eq (site : Site source) :
    source.map foldCase = site.before.map foldCase ++ ("function".toList ++
      (site.gap.map foldCase ++ (site.mark.map foldCase ++ (site.name.map foldCase ++
        (site.space.map foldCase ++ '(' :: site.after.map foldCase))))) := by
  have hparen : foldCase '(' = '(' := by decide +kernel
  have hsource := congrArg (List.map foldCase) site.source_eq
  simpa only [List.map_append, List.map_cons, site.keyword_eq, hparen] using hsource

/-- A source declares a method exactly when a declaration of its name, case aside, stands in it. -/
theorem declares_iff :
    declares source name ↔
      isName name ∧ ∃ site : Site source, site.name.map foldCase = name.map foldCase := by
  rw [declares, Bool.and_eq_true, and_congr_right_iff]
  intro hname
  rw [occurs_iff]
  simp only [beginsWith_iff (head_folded hname)]
  constructor
  · rintro ⟨_, _, hsource, hword, _, _, _, _, hne, hgap, hmark, hspace, rfl⟩
    simp only [List.map_eq_append_iff, List.map_eq_cons_iff] at hsource
    -- each part of what is compared comes from a part of the source
    obtain ⟨before, _, rfl, rfl, keyword, _, rfl, hkeyword, gap, _, rfl, rfl, mark, _, rfl, rfl,
      other, _, rfl, hother, space, _, rfl, rfl, paren, after, rfl, hparen, -⟩ := hsource
    rw [foldCase_eq_iff (by decide +kernel)] at hparen
    subst hparen
    have hne' : other ≠ [] := by
      rintro rfl
      exact (isName_iff.mp hname).1 (List.map_eq_nil_iff.mp hother.symm)
    exact ⟨{
      before, keyword, gap, mark, name := other, space, after
      source_eq := rfl
      notInWord := notInWord_folded.mp hword
      keyword_eq := hkeyword
      gap_ne_nil := fun h => hne (List.map_eq_nil_iff.mpr h)
      isBlank_gap := forall_isBlank_folded.mp hgap
      mark_eq := mark_folded.mp hmark
      name_ne_nil := hne'
      isWord_name := isWord_of_folded hname hother
      isBlank_space := forall_isBlank_folded.mp hspace }, hother⟩
  · rintro ⟨site, hsite⟩
    rw [← hsite]
    exact ⟨site.before.map foldCase, _, site.folded_eq, notInWord_folded.mpr site.notInWord,
      site.gap.map foldCase, site.mark.map foldCase, site.space.map foldCase,
      site.after.map foldCase, fun h => site.gap_ne_nil (List.map_eq_nil_iff.mp h),
      forall_isBlank_folded.mpr site.isBlank_gap, mark_folded.mpr site.mark_eq,
      forall_isBlank_folded.mpr site.isBlank_space, rfl⟩

theorem isName_toLower (name : Text) : isName (name.map Char.toLower) = isName name := by
  have hchar (c : Char) :
      (c.toLower.isAlphanum || c.toLower == '_') = (c.isAlphanum || c == '_') := by
    induction c using fold_cases with
    | self c hlower _ => rw [hlower]
    | folded c hc =>
        revert c
        exact List.all_iff_forall_prop.mp (by decide +kernel)
  simp only [isName, List.isEmpty_map, List.all_map, Function.comp_def, hchar]

theorem declares_toLower (source name : Text) :
    declares source (name.map Char.toLower) = declares source name := by
  have hfold : (name.map Char.toLower).map foldCase = name.map foldCase := by
    rw [List.map_map]
    exact List.map_congr_left fun c _ => foldCase_toLower c
  rw [declares, isName_toLower, hfold, declares]

end MethodDeclaration

namespace Reflection

variable {t : Tree} {autoload : Autoload} {method : Method}

theorem hasMethod_sources_iff :
    hasMethod t method (.sources autoload) ↔ ∃ p source,
      autoload.file? method.className = some p ∧ t.read p = .ok (Bytes.ofText source) ∧
        MethodDeclaration.declares source method.name := by
  simp only [← Tree.readText_eq_ok_iff, hasMethod]
  cases autoload.file? method.className with
  | none => simp
  | some p => cases hread : t.readText p <;> simp [hread]

/-- Lookup finds a method exactly when the file of its class is a text in which a declaration of
its name stands. So a name in another case is found alike, and no other name is found for it. -/
theorem finds_declarations_of_name (t : Tree) (autoload : Autoload) (method : Method) :
    (hasMethod t method (.sources autoload) ↔ ∃ p source,
      autoload.file? method.className = some p ∧ t.read p = .ok (Bytes.ofText source) ∧
        method.name ≠ [] ∧ (∀ c ∈ method.name, c.isAlphanum ∨ c = '_') ∧
        ∃ site : MethodDeclaration.Site source,
          site.name.map Text.foldCase = method.name.map Text.foldCase) ∧
      (∀ name : Text, name.map Char.toLower = method.name.map Char.toLower →
        hasMethod t { method with name } (.sources autoload) =
          hasMethod t method (.sources autoload)) ∧
      ((∀ p source, autoload.file? method.className = some p →
          t.read p = .ok (Bytes.ofText source) →
          ∀ site : MethodDeclaration.Site source, site.name.length ≠ method.name.length) →
        hasMethod t method (.sources autoload) = false) := by
  refine ⟨?_, fun name hname => ?_, fun hlength => ?_⟩
  · simp only [hasMethod_sources_iff, MethodDeclaration.declares_iff, MethodDeclaration.isName_iff,
      and_assoc]
  · rw [Bool.eq_iff_iff, hasMethod_sources_iff, hasMethod_sources_iff]
    simp only [← MethodDeclaration.declares_toLower _ name, hname,
      MethodDeclaration.declares_toLower]
  · rw [← Bool.not_eq_true, hasMethod_sources_iff]
    rintro ⟨p, source, hfile, hread, hdeclares⟩
    obtain ⟨-, site, hsite⟩ := MethodDeclaration.declares_iff.mp hdeclares
    have hsame := congrArg List.length hsite
    rw [List.length_map, List.length_map] at hsame
    exact hlength p source hfile hread site hsame

/-- The declaration is found by its name in other cases, and not by a part of it. -/
theorem finds_declarations_of_name_getNames :
    let source := "\nFunction\t&getNames\n(".toList
    let t := Tree.empty.put ["User.php".toList] (.file (Bytes.ofText source))
    let autoload := Autoload.ofNamespaces ⟨['.']⟩ [("App".toList, ⟨['.']⟩)]
    let found (name : String) := hasMethod t ⟨"App\\User".toList, name.toList⟩ (.sources autoload)
    found "getNames" ∧ found "GETNAMES" ∧ found "Names" = false := by
  intro source t autoload found
  have hfile : autoload.file? "App\\User".toList = some ⟨"././User.php".toList⟩ := by decide +kernel
  have hread : t.read ⟨"././User.php".toList⟩ = .ok (Bytes.ofText source) := by decide +kernel
  let site : MethodDeclaration.Site source :=
    { before := ['\n'], keyword := "Function".toList, gap := ['\t'], mark := ['&'],
      name := "getNames".toList, space := ['\n'], after := []
      source_eq := rfl
      notInWord := by rintro _ ⟨⟩; decide +kernel
      keyword_eq := by decide +kernel
      gap_ne_nil := by decide
      isBlank_gap := List.all_eq_true.mp (by decide +kernel)
      mark_eq := by decide
      name_ne_nil := by decide
      isWord_name := List.all_eq_true.mp (by decide +kernel)
      isBlank_space := List.all_eq_true.mp (by decide +kernel) }
  obtain ⟨hfinds, hcase, -⟩ :=
    finds_declarations_of_name t autoload ⟨"App\\User".toList, "getNames".toList⟩
  have hfound : found "getNames" :=
    hfinds.mpr ⟨_, source, hfile, hread, by decide,
      List.all_iff_forall_prop.mp (by decide), site, rfl⟩
  exact ⟨hfound, (hcase "GETNAMES".toList (by decide +kernel)).trans hfound, by decide +kernel⟩

end Reflection

end SkipChecks
