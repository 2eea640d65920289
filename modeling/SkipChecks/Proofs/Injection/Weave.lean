import SkipChecks.Proofs.Declaration.Bodies
import SkipChecks.Proofs.Declaration.Forms
import SkipChecks.Proofs.Injection.Blocks
import SkipChecks.Proofs.Injection.Insertion

/-!
# A source with texts woven into it

A source is taken apart into the pieces that end where bodies open. Woven together again with blocks
of guards behind the pieces, it has the same declarations, and each body is the old one with its
blocks in front. So the guards for it are the same, whatever number of blocks is put in.
-/

namespace SkipChecks.Injection

open Text Declaration Dependencies

/-- A piece of a source that ends where a body opens, and the guards for that body. -/
structure Opened where
  head : Head
  guards : List Guard

/-- The pieces with a text put in behind each, and what is behind the last one. -/
def weave (put : List Guard → Text) (tail : Text) : List Opened → Text
  | [] => tail
  | test :: later => test.head.text ++ (put test.guards ++ weave put tail later)

/-- The declarations in a weave that starts at a byte offset, and the guards for their bodies. -/
def openedIn (put : List Guard → Text) : Nat → List Opened → List (Declaration × List Guard)
  | _, [] => []
  | copied, test :: later =>
    let start := copied + byteLength test.head.text
    (⟨test.head.form.name, start⟩, test.guards) ::
      openedIn put (start + byteLength (put test.guards)) later

/-- The block of the guards so many times, and nothing where there are no guards. -/
def repeated (n : Nat) (guards : List Guard) : Text :=
  if guards = [] then [] else (List.replicate n (block guards)).flatten

theorem repeated_nil (n : Nat) : repeated n [] = [] := if_pos rfl

theorem repeated_succ (n : Nat) {guards : List Guard} (h : guards ≠ []) :
    repeated (n + 1) guards = block guards ++ repeated n guards := by
  rw [repeated, repeated, if_neg h, if_neg h, List.replicate_succ, List.flatten_cons]

/-! ## Weaving in -/

/-- Weaving in more is an insertion at the places that have guards. -/
theorem weave_inserted (old more new : List Guard → Text) (hnil : new [] = old [])
    (hnew : ∀ guards, guards ≠ [] → new guards = more guards ++ old guards) (tail : Text)
    (copied : Nat) (tests : List Opened) :
    Inserted copied
      (((openedIn old copied tests).filter fun opened => opened.2 ≠ []).map fun opened =>
        (opened.1.bodyStart, more opened.2))
      (weave old tail tests) (weave new tail tests) := by
  induction tests generalizing copied with
  | nil => exact .rest copied tail
  | cons test later ih =>
      have hlater := (ih (copied + byteLength test.head.text + byteLength (old test.guards))).prepend
      by_cases hnone : test.guards = []
      · have hwoven := hlater.prepend
        simpa [weave, openedIn, hnone, hnil] using hwoven
      · have hwoven : Inserted copied
            ((copied + byteLength test.head.text, more test.guards) :: _) _ _ := .put rfl hlater
        simpa [weave, openedIn, hnone, hnew test.guards hnone] using hwoven

/-! ## Bodies in a weave -/

/-- In the source by itself, the guards of each piece are those for the body behind it, none of them
has parentheses or braces in a name, and no body reaches beyond the piece that follows. -/
inductive Settled (tail : Text) : List Opened → Prop
  | nil : Settled tail []
  | cons {test : Opened} {later : List Opened}
      (hguards : test.guards = (scan (upToClose 0 (weave (repeated 0) tail later))).guards)
      (hinert : ∀ guard ∈ test.guards, guard.IsInert)
      (hreach : ∀ next ∈ later.head?,
        (upToClose 0 (weave (repeated 0) tail later)).length ≤ next.head.text.length)
      (hlater : Settled tail later) : Settled tail (test :: later)

variable {tail : Text} {test : Opened} {later tests : List Opened}

theorem repeated_zero (guards : List Guard) : repeated 0 guards = [] := by simp [repeated]

theorem silent_repeated {needle : Text} {guards : List Guard} (hneedle : needle ∈ openings)
    (hinert : ∀ guard ∈ guards, guard.IsInert) (n : Nat) : Silent needle (repeated n guards) := by
  rw [repeated]
  split
  · exact Silent.nil needle
  · refine Silent.flatten fun s hs => ?_
    rw [List.eq_of_mem_replicate hs]
    exact silent_block hneedle hinert

theorem notMem_repeated {c : Char} {guards : List Guard} (hc : c = '{' ∨ c = '}')
    (hinert : ∀ guard ∈ guards, guard.IsInert) (n : Nat) : c ∉ repeated n guards := by
  rw [repeated]
  split
  · exact List.not_mem_nil
  · intro hmem
    obtain ⟨s, hs, hmem⟩ := List.mem_flatten.mp hmem
    rw [List.eq_of_mem_replicate hs] at hmem
    exact notMem_block hc hinert hmem

/-- A body depends on the same things with its guards in front of it so many times. -/
theorem scan_append_repeated {body : Text} (hinert : ∀ guard ∈ (scan body).guards, guard.IsInert)
    (n : Nat) : scan (repeated n (scan body).guards ++ body) = scan body := by
  by_cases hnone : (scan body).guards = []
  · rw [hnone, repeated_nil, List.nil_append]
  · induction n with
    | zero => rw [repeated_zero, List.nil_append]
    | succ n ih =>
        have hinert' := hinert
        rw [← ih] at hinert'
        have hstep := scan_append_block hinert'
        rw [ih] at hstep
        rw [repeated_succ n hnone, List.append_assoc, hstep]

theorem weave_eq_nil {put : List Guard → Text} (h : weave put tail tests = []) :
    tests = [] ∧ tail = [] := by
  cases tests with
  | nil => exact ⟨rfl, h⟩
  | cons test later =>
      obtain ⟨before, hbefore⟩ := test.head.exists_text_eq
      simp [weave, hbefore] at h

/-- What is put in behind the pieces to come does not show in a body. -/
theorem upToClose_weave (hlater : Settled tail later)
    (hreach : ∀ next ∈ later.head?,
      (upToClose 0 (weave (repeated 0) tail later)).length ≤ next.head.text.length) (n : Nat) :
    upToClose 0 (weave (repeated n) tail later) = upToClose 0 (weave (repeated 0) tail later) := by
  cases hlater with
  | nil => rfl
  | @cons next others hguards _ _ _ =>
      obtain ⟨before, hbefore⟩ := next.head.exists_text_eq
      have hwithin := hreach next rfl
      have hopened : ∀ n, weave (repeated n) tail (next :: others) =
          before ++ '{' :: (repeated n next.guards ++ weave (repeated n) tail others) := by
        intro n
        rw [weave, hbefore, List.append_assoc, List.singleton_append]
      rw [hopened, hbefore, List.length_append, List.length_singleton] at hwithin
      rw [hopened, hopened]
      rcases upToClose_of_length_le hwithin with hend | hclosed
      · -- the source ends with the brace, so there are no guards for what is behind it
        rw [repeated_zero, List.nil_append] at hend
        obtain ⟨rfl, rfl⟩ := weave_eq_nil hend
        have hempty : (scan (upToClose 0 [])).guards = [] := by decide +kernel
        have hnone : next.guards = [] := hguards.trans hempty
        rw [hnone, repeated_nil, repeated_nil]
        rfl
      · exact hclosed _

/-- The guards for a body are the same when it has some in front of it, and other bodies too. -/
theorem guards_weave (h : Settled tail (test :: later)) (n : Nat) :
    (scan (upToClose 0 (repeated n test.guards ++ weave (repeated n) tail later))).guards =
      test.guards := by
  obtain _ | ⟨hguards, hinert, hreach, hlater⟩ := h
  have hopen := notMem_repeated (.inl rfl) hinert n
  have hclose := notMem_repeated (.inr rfl) hinert n
  rw [upToClose_append hopen hclose, upToClose_weave hlater hreach, hguards,
    scan_append_repeated (hguards ▸ hinert)]

/-! ## Declarations in a weave -/

/-- The declarations in a source, and the guards for their bodies. -/
def opened (source : Text) : List (Declaration × List Guard) :=
  (locate source).map fun d => (d, guardsAt source d.bodyStart)

/-- A declaration that was found, and the guards for its body, where the source is so many bytes
long. -/
def ofFind (whole : Nat) (find : Text × Text) : Declaration × List Guard :=
  (⟨find.1, whole - byteLength find.2⟩, (scan (upToClose 0 find.2)).guards)

theorem opened_eq (source : Text) :
    opened source = (findAll name? source).map (ofFind (byteLength source)) := by
  rw [opened, locate, List.map_map]
  refine List.map_congr_left fun find hfind => ?_
  obtain ⟨before, hsplit⟩ := splitAtByte?_of_behind (findAll_behind consumes_name? source _ hfind)
  simp only [Function.comp_apply, ofFind, (guardsAt_of_split hsplit).2]

theorem placements_eq_opened (source : Text) :
    placements source =
      ((opened source).filter fun o => o.2 ≠ []).map fun o => (o.1.bodyStart, o.2) := by
  rw [placements_eq, opened]
  simp only [List.filter_map, List.map_map]
  rfl

theorem map_ofFind_weave (h : Settled tail tests) (htail : findAll name? tail = []) (n : Nat)
    {copied whole : Nat} (hwhole : copied + byteLength (weave (repeated n) tail tests) = whole) :
    (findAll name? (weave (repeated n) tail tests)).map (ofFind whole) =
      openedIn (repeated n) copied tests := by
  induction tests generalizing copied with
  | nil => simp [weave, openedIn, htail]
  | cons test later ih =>
      have hguards := guards_weave h n
      obtain _ | ⟨-, hinert, -, hlater⟩ := h
      have hsilent : Silent "test(".toList (repeated n test.guards) :=
        silent_repeated List.mem_cons_self hinert n
      have hstart : ∀ ⦃s find⦄, name? s = some find → "test(".toList <+: s := by
        rintro s ⟨name, rest⟩ hfind
        obtain ⟨form, -, rfl⟩ := name?_eq_some_iff.mp hfind
        rw [Form.text, List.append_assoc]
        exact List.prefix_append _ _
      rw [weave, byteLength_append, byteLength_append] at hwhole
      have hoffset : whole - byteLength
          (repeated n test.guards ++ weave (repeated n) tail later) =
            copied + byteLength test.head.text := by
        rw [byteLength_append]
        omega
      have hcopied : copied + byteLength test.head.text + byteLength (repeated n test.guards) +
          byteLength (weave (repeated n) tail later) = whole := by
        omega
      have hrest := ih hlater hcopied
      rw [weave, Head.findAll_text_append, hsilent.findAll_append hstart, List.map_cons, hrest,
        ofFind, hguards, hoffset]
      rfl

theorem opened_weave (h : Settled tail tests) (htail : findAll name? tail = []) (n : Nat) :
    opened (weave (repeated n) tail tests) = openedIn (repeated n) 0 tests := by
  rw [opened_eq, map_ofFind_weave h htail n (Nat.zero_add _)]

end SkipChecks.Injection
