import SkipChecks.Proofs.Declaration.Bodies
import SkipChecks.Proofs.Declaration.Sites
import SkipChecks.Proofs.Text.ByteOrder

/-!
# Matched braces

A body is known by its braces: none closes more than was opened before it, and the body ends in
front of the brace that would, or with the text. Counting bytes finds the same body, since no byte
of another character looks like a brace, and the count never falls below one block. Bodies of
located declarations lie apart or one inside the other.
-/

namespace SkipChecks.Declaration

open Text

/-- What stands behind an opening brace up to the brace that closes it, or to the end. -/
structure IsBody (rest body : Text) : Prop where
  isPrefix : body <+: rest
  within : ∀ front, front <+: body → front.count '}' ≤ front.count '{'
  ends : (∃ after, rest = body ++ '}' :: after ∧ body.count '}' = body.count '{') ∨ body = rest

theorem byteLength_open (s : Text) : byteLength ('{' :: s) = 1 + byteLength s := rfl

theorem byteLength_close (s : Text) : byteLength ('}' :: s) = 1 + byteLength s := rfl

/-! ## Bodies by their braces -/

/-- A character closes the body, or it is part of it and changes how many blocks are open. -/
theorem upToClose_cons_cases (depth : Nat) (c : Char) :
    (depth = 0 ∧ c = '}') ∨
      ∃ inner, inner + [c].count '}' = depth + [c].count '{' ∧
        ∀ rest, upToClose depth (c :: rest) = c :: upToClose inner rest := by
  by_cases hopen : c = '{'
  · subst hopen
    exact .inr ⟨depth + 1, rfl, fun rest => rfl⟩
  · by_cases hclose : c = '}'
    · subst hclose
      cases depth with
      | zero => exact .inl ⟨rfl, rfl⟩
      | succ depth => exact .inr ⟨depth, rfl, fun rest => rfl⟩
    · exact .inr ⟨depth, by simp [hopen, hclose], upToClose_cons hopen hclose⟩

/-- A body is closed in a text, whatever follows it, or it goes on behind the text. -/
theorem upToClose_append_cases (depth : Nat) (front : Text) :
    (∃ used more, front = used ++ '}' :: more ∧ used.count '}' = depth + used.count '{' ∧
      ∀ rest, upToClose depth (front ++ rest) = used) ∨
    ∃ inner, inner + front.count '}' = depth + front.count '{' ∧
      ∀ rest, upToClose depth (front ++ rest) = front ++ upToClose inner rest := by
  induction front generalizing depth with
  | nil => exact .inr ⟨depth, rfl, fun rest => rfl⟩
  | cons c front ih =>
      rcases upToClose_cons_cases depth c with ⟨rfl, rfl⟩ | ⟨inner, hbraces, hstep⟩
      · exact .inl ⟨[], front, rfl, rfl, fun rest => rfl⟩
      · rcases ih inner with ⟨used, more, rfl, hcount, hused⟩ | ⟨deepest, hcount, hdeepest⟩
        · refine .inl ⟨c :: used, more, rfl, ?_, fun rest => ?_⟩
          · rw [← List.singleton_append, List.count_append, List.count_append]
            omega
          · rw [List.cons_append, hstep, hused]
        · refine .inr ⟨deepest, ?_, fun rest => ?_⟩
          · rw [← List.singleton_append, List.count_append, List.count_append]
            omega
          · rw [List.cons_append, hstep, hdeepest, List.cons_append]

/-- No part of a body closes more blocks than are open. -/
theorem count_le_of_prefix {depth : Nat} {s front : Text} (h : front <+: upToClose depth s) :
    front.count '}' ≤ depth + front.count '{' := by
  obtain ⟨rest, rfl⟩ := h.trans (upToClose_isPrefix depth s)
  rcases upToClose_append_cases depth front with ⟨used, more, rfl, -, hused⟩ | ⟨inner, hcount, -⟩
  · -- the part would be longer than the body
    have hle := h.length_le
    rw [hused, List.length_append, List.length_cons] at hle
    omega
  · omega

/-- A body is closed by a brace, which closes the block around it, or it reaches to the end. -/
theorem closed_or_whole (depth : Nat) (s : Text) :
    (∃ after, s = upToClose depth s ++ '}' :: after ∧
      (upToClose depth s).count '}' = depth + (upToClose depth s).count '{') ∨
    upToClose depth s = s := by
  rcases upToClose_append_cases depth s with ⟨used, more, hs, hcount, hused⟩ | ⟨inner, -, hinner⟩
  · have hbody := hused []
    rw [List.append_nil] at hbody
    exact .inl ⟨more, by rw [hbody]; exact hs, by rw [hbody]; exact hcount⟩
  · have hbody := hinner []
    rw [List.append_nil, upToClose, List.append_nil] at hbody
    exact .inr hbody

/-- With more blocks open a body goes on behind the brace that closes it with fewer. -/
theorem upToClose_of_lt {depth deeper : Nat} (h : depth < deeper) (s : Text) :
    (upToClose depth s = s ∧ upToClose deeper s = s) ∨
      ∃ more, upToClose deeper s = upToClose depth s ++ '}' :: more := by
  have hcases := upToClose_append_cases deeper (upToClose depth s)
  rcases hcases with ⟨used, more, hbody, hcount, -⟩ | ⟨inner, hcount, hinner⟩
  · -- a brace in the body would close more blocks than are open
    have hused : used <+: upToClose depth s := by
      rw [hbody]
      exact List.prefix_append _ _
    have hwithin := count_le_of_prefix hused
    omega
  · rcases closed_or_whole depth s with ⟨after, hs, hclosed⟩ | hwhole
    · obtain ⟨open', rfl⟩ : ∃ open', inner = open' + 1 := ⟨inner - 1, by omega⟩
      have hdeeper := hinner ('}' :: after)
      rw [← hs, upToClose] at hdeeper
      exact .inr ⟨_, hdeeper⟩
    · have hdeeper := hinner []
      rw [hwhole, List.append_nil, upToClose, List.append_nil] at hdeeper
      exact .inl ⟨hwhole, hdeeper⟩

theorem isBody_upToClose (rest : Text) : IsBody rest (upToClose 0 rest) where
  isPrefix := upToClose_isPrefix 0 rest
  within front hfront := by simpa using count_le_of_prefix hfront
  ends := by simpa using closed_or_whole 0 rest

theorem IsBody.eq_of_length_le {rest first second : Text} (hfirst : IsBody rest first)
    (hsecond : IsBody rest second) (hle : first.length ≤ second.length) : first = second := by
  have hprefix := List.prefix_of_prefix_length_le hfirst.isPrefix hsecond.isPrefix hle
  rcases hfirst.ends with ⟨after, hafter, hcount⟩ | rfl
  · -- the longer body would go on with the brace that closes more blocks than it opens
    by_contra hne
    obtain ⟨more, rfl⟩ := hprefix
    obtain ⟨beyond, hbeyond⟩ := hsecond.isPrefix
    rw [hafter, List.append_assoc, List.append_cancel_left_eq] at hbeyond
    cases more with
    | nil => simp at hne
    | cons c more =>
        obtain ⟨rfl, -⟩ := List.cons.inj hbeyond
        have hwithin := hsecond.within (first ++ ['}']) ⟨more, by simp⟩
        simp at hwithin
        omega
  · exact hprefix.eq_of_length (Nat.le_antisymm hle hsecond.isPrefix.length_le)

theorem isBody_iff {rest body : Text} : IsBody rest body ↔ upToClose 0 rest = body := by
  constructor
  · intro h
    rcases Nat.le_total (upToClose 0 rest).length body.length with hle | hle
    · exact (isBody_upToClose rest).eq_of_length_le h hle
    · exact (h.eq_of_length_le (isBody_upToClose rest) hle).symm
  · rintro rfl
    exact isBody_upToClose rest

/-! ## Counting bytes -/

/-- The byte offset at which a count of open blocks comes to an end, over bytes as numbers. There is
no answer when a brace closes while no block is open. -/
def stopByte? : Nat → List Nat → Option Nat
  | _, [] => some 0
  | depth, byte :: bytes =>
    if byte = '{'.toNat then (stopByte? (depth + 1) bytes).map (· + 1)
    else if byte = '}'.toNat then
      if depth = 0 then none
      else if depth = 1 then some 0
      else (stopByte? (depth - 1) bytes).map (· + 1)
    else (stopByte? depth bytes).map (· + 1)

/-- Cuts out the body at a byte offset with a count that begins at one open block. There is none
when a cut fails, or the count. -/
def countedBody? (source : Text) (start : Nat) : Option Text := do
  let (_, rest) ← splitAtByte? source start
  let stop ← stopByte? 1 (Bytes.numbers rest)
  let (body, _) ← splitAtByte? rest stop
  return body

theorem numbers_cons (c : Char) (s : Text) :
    Bytes.numbers (c :: s) = Bytes.encode c.toNat ++ Bytes.numbers s := by
  rw [Bytes.numbers_eq, Bytes.numbers_eq, List.flatMap_cons]

theorem length_encode (c : Char) : (Bytes.encode c.toNat).length = c.utf8Size := by
  rw [← Bytes.map_utf8EncodeChar, List.length_map, String.length_utf8EncodeChar]

/-- A byte of an ASCII character stands for that character alone. -/
theorem eq_of_mem_encode {v byte : Nat} (h : byte ∈ Bytes.encode v) (hbyte : byte ≤ 127) :
    byte = v := by
  rw [Bytes.encode] at h
  split_ifs at h <;> simp at h <;> omega

theorem stopByte?_append {depth : Nat} {front bytes : List Nat} (hopen : '{'.toNat ∉ front)
    (hclose : '}'.toNat ∉ front) :
    stopByte? depth (front ++ bytes) = (stopByte? depth bytes).map (front.length + ·) := by
  induction front with
  | nil => simp
  | cons byte front ih =>
      rw [List.mem_cons, not_or] at hopen hclose
      rw [List.cons_append, stopByte?, if_neg (Ne.symm hopen.1), if_neg (Ne.symm hclose.1),
        ih hopen.2 hclose.2, Option.map_map]
      congr 1
      funext stop
      simp only [Function.comp_apply, List.length_cons]
      omega

/-- Counting stops where the body ends. -/
theorem stopByte?_numbers (depth : Nat) (s : Text) :
    stopByte? (depth + 1) (Bytes.numbers s) = some (byteLength (upToClose depth s)) := by
  have hopening : Bytes.encode '{'.toNat = ['{'.toNat] := rfl
  have hclosing : Bytes.encode '}'.toNat = ['}'.toNat] := rfl
  have hdiffer : '}'.toNat ≠ '{'.toNat := by decide
  induction s generalizing depth with
  | nil => rfl
  | cons c s ih =>
      by_cases hopen : c = '{'
      · subst hopen
        rw [numbers_cons, hopening, List.singleton_append, stopByte?, if_pos rfl, ih, upToClose,
          byteLength_open, Option.map_some, Nat.add_comm]
      · by_cases hclose : c = '}'
        · subst hclose
          rw [numbers_cons, hclosing, List.singleton_append, stopByte?, if_neg hdiffer, if_pos rfl]
          cases depth with
          | zero => rfl
          | succ depth =>
              rw [if_neg (by omega), if_neg (by omega), Nat.add_sub_cancel, ih, upToClose,
                byteLength_close, Option.map_some, Nat.add_comm]
        · -- the bytes of the character are no braces, since the character is none
          have hfree {brace : Char} (hbrace : brace.toNat ≤ 127) (hne : c ≠ brace) :
              brace.toNat ∉ Bytes.encode c.toNat := by
            intro hmem
            exact hne (Char.toNat_inj.mp (eq_of_mem_encode hmem hbrace).symm)
          rw [numbers_cons, stopByte?_append (hfree (by decide) hopen) (hfree (by decide) hclose),
            ih, upToClose_cons hopen hclose, byteLength_cons, length_encode, Option.map_some]

theorem countedBody?_eq (source : Text) (start : Nat) :
    countedBody? source start = bodyAt? source start := by
  rw [countedBody?, bodyAt?]
  cases hsplit : splitAtByte? source start with
  | none => rfl
  | some cut =>
      obtain ⟨before, rest⟩ := cut
      obtain ⟨after, hafter⟩ := upToClose_isPrefix 0 rest
      have hcut : splitAtByte? rest (byteLength (upToClose 0 rest)) =
          some (upToClose 0 rest, after) :=
        splitAtByte?_eq_some_iff.mpr ⟨hafter.symm, rfl⟩
      simp [stopByte?_numbers, hcut]

theorem bodyAt?_eq_some_iff {source body : Text} {start : Nat} :
    bodyAt? source start = some body ↔
      ∃ before rest, source = before ++ rest ∧ byteLength before = start ∧ IsBody rest body := by
  rw [bodyAt?, Option.map_eq_some_iff]
  constructor
  · rintro ⟨⟨before, rest⟩, hsplit, hbody⟩
    obtain ⟨hsource, hstart⟩ := splitAtByte?_eq_some_iff.mp hsplit
    exact ⟨before, rest, hsource, hstart, isBody_iff.mpr hbody⟩
  · rintro ⟨before, rest, hsource, hstart, hbody⟩
    exact ⟨(before, rest), splitAtByte?_eq_some_iff.mpr ⟨hsource, hstart⟩, isBody_iff.mp hbody⟩

/-! ## Offsets without a body -/

/-- An offset inside a character of the text. -/
def InsideCharacter (source : Text) (start : Nat) : Prop :=
  ∃ before c after, source = before ++ c :: after ∧
    byteLength before < start ∧ start < byteLength before + c.utf8Size

theorem exists_split_or_insideCharacter {source : Text} {start : Nat}
    (h : start ≤ byteLength source) :
    (∃ before after, splitAtByte? source start = some (before, after)) ∨
      InsideCharacter source start := by
  induction source generalizing start with
  | nil =>
      obtain rfl : start = 0 := Nat.le_zero.mp h
      exact .inl ⟨[], [], rfl⟩
  | cons c source ih =>
      rw [byteLength_cons] at h
      by_cases hzero : start = 0
      · subst hzero
        exact .inl ⟨[], c :: source, splitAtByte?_eq_some_iff.mpr ⟨rfl, rfl⟩⟩
      · by_cases hinside : start < c.utf8Size
        · exact .inr ⟨[], c, source, rfl, by simpa using Nat.pos_of_ne_zero hzero, by simpa using hinside⟩
        · have hrest : start - c.utf8Size ≤ byteLength source := by omega
          rcases ih hrest with ⟨before, after, hsplit⟩ | ⟨before, d, after, rfl, hlow, hhigh⟩
          · obtain ⟨rfl, hlength⟩ := splitAtByte?_eq_some_iff.mp hsplit
            refine .inl ⟨c :: before, after, splitAtByte?_eq_some_iff.mpr ⟨rfl, ?_⟩⟩
            rw [byteLength_cons]
            omega
          · refine .inr ⟨c :: before, d, after, rfl, ?_, ?_⟩ <;> rw [byteLength_cons] <;> omega

theorem bodyAt?_eq_none_iff {source : Text} {start : Nat} :
    bodyAt? source start = none ↔ byteLength source < start ∨ InsideCharacter source start := by
  rw [bodyAt?, Option.map_eq_none_iff]
  constructor
  · intro h
    by_contra hnot
    rw [not_or, Nat.not_lt] at hnot
    obtain ⟨before, after, hsplit⟩ :=
      (exists_split_or_insideCharacter hnot.1).resolve_right hnot.2
    rw [h] at hsplit
    cases hsplit
  · intro h
    rw [Option.eq_none_iff_forall_ne_some]
    rintro ⟨front, rest⟩ hsplit
    obtain ⟨rfl, rfl⟩ := splitAtByte?_eq_some_iff.mp hsplit
    rcases h with hbeyond | ⟨before, c, after, hsource, hlow, hhigh⟩
    · rw [byteLength_append] at hbeyond
      omega
    · -- the offset lies behind the start of the character, so it lies behind its end
      obtain ⟨middle, rfl, hmiddle⟩ := exists_middle hsource.symm (Nat.le_of_lt hlow)
      cases middle with
      | nil => simp at hlow
      | cons d middle =>
          obtain ⟨rfl, -⟩ := List.cons.inj hmiddle
          rw [byteLength_append, byteLength_cons] at hhigh
          omega

/-! ## Bodies inside bodies -/

/-- A located declaration opens its body behind a brace. -/
theorem exists_brace_of_mem_locate {source : Text} {d : Declaration} (hd : d ∈ locate source) :
    ∃ before rest, source = before ++ '{' :: rest ∧ byteLength before + 1 = d.bodyStart := by
  obtain ⟨site, rfl⟩ := exists_site_of_mem_locate hd
  obtain ⟨inside, hinside⟩ := site.form.exists_text_eq
  refine ⟨site.before ++ inside, site.after, ?_, ?_⟩
  · rw [List.append_assoc, List.append_cons, ← hinside]
    exact site.source_eq
  · simp only [Site.declaration, Site.stop, hinside, byteLength_append, byteLength_open,
      byteLength_nil]
    omega

/-- Of two blocks in a text, one of which opens later, the bodies lie apart, or the later one closes
first, or both reach to the end. -/
theorem upToClose_nested (middle rest : Text) :
    let outer := upToClose 0 (middle ++ '{' :: rest)
    let inner := upToClose 0 rest
    outer <+: middle ∨
      (∃ more, outer = middle ++ '{' :: (inner ++ '}' :: more)) ∨
      (outer = middle ++ '{' :: rest ∧ inner = rest) := by
  intro outer inner
  rcases upToClose_append_cases 0 middle with ⟨used, more, rfl, -, hused⟩ | ⟨depth, -, hdepth⟩
  · refine .inl ?_
    rw [show outer = used from hused _]
    exact List.prefix_append _ _
  · have houter : outer = middle ++ '{' :: upToClose (depth + 1) rest := hdepth ('{' :: rest)
    rcases upToClose_of_lt (Nat.succ_pos depth) rest with ⟨hinner, hwhole⟩ | ⟨more, hmore⟩
    · exact .inr (.inr ⟨by rw [houter, hwhole], hinner⟩)
    · exact .inr (.inl ⟨more, by rw [houter, hmore]⟩)

/-- Of two located declarations the bodies lie apart, or the later one lies inside the other one and
ends before it, unless both reach to the end. -/
theorem bodyAt?_nested {source : Text} {d e : Declaration} (hd : d ∈ locate source)
    (he : e ∈ locate source) (hlt : d.bodyStart < e.bodyStart) :
    ∃ outer inner, bodyAt? source d.bodyStart = some outer ∧
      bodyAt? source e.bodyStart = some inner ∧
      (d.bodyStart + byteLength outer ≤ e.bodyStart ∨
        e.bodyStart + byteLength inner < d.bodyStart + byteLength outer ∨
        e.bodyStart + byteLength inner = byteLength source ∧
          d.bodyStart + byteLength outer = byteLength source) := by
  obtain ⟨front, rest, hsource, hopen⟩ := exists_brace_of_mem_locate he
  obtain ⟨before, after, hsplit⟩ := splitAtByte?_bodyStart hd
  obtain ⟨hcut, hstart⟩ := splitAtByte?_eq_some_iff.mp hsplit
  -- the earlier body begins in front of the brace that opens the later one
  obtain ⟨middle, rfl, rfl⟩ := exists_middle (hcut.symm.trans hsource) (by omega)
  have hlater : splitAtByte? source e.bodyStart = some (before ++ middle ++ ['{'], rest) := by
    refine splitAtByte?_eq_some_iff.mpr ⟨by rw [hsource]; simp, ?_⟩
    rw [byteLength_append, byteLength_open, byteLength_nil, ← hopen]
  have hlength := congrArg byteLength hsource
  rw [byteLength_append] at hopen
  refine ⟨upToClose 0 (middle ++ '{' :: rest), upToClose 0 rest, by rw [bodyAt?, hsplit]; rfl,
    by rw [bodyAt?, hlater]; rfl, ?_⟩
  rcases upToClose_nested middle rest with ⟨more, hmore⟩ | ⟨more, hmore⟩ | ⟨houter, hinner⟩
  · -- the earlier body is closed in front of the brace
    refine .inl ?_
    have hmiddle := congrArg byteLength hmore
    rw [byteLength_append] at hmiddle
    omega
  · refine .inr (.inl ?_)
    have houter := congrArg byteLength hmore
    simp only [byteLength_append, byteLength_open, byteLength_close] at houter
    omega
  · refine .inr (.inr ?_)
    rw [houter, hinner]
    simp only [byteLength_append, byteLength_open] at hlength ⊢
    omega

/-- There is a body exactly at the offsets that neither lie past the end nor inside a character. It
is what a count of bytes finds that never falls below the block around the body, and it is the only
text with the braces of a body. Of two located declarations the bodies lie apart, or the later one
lies inside the other one and ends before it, unless both reach to the end. -/
theorem bodies_match_braces (source : Text) :
    (∀ start, bodyAt? source start = none ↔
      byteLength source < start ∨ InsideCharacter source start) ∧
    (∀ start, countedBody? source start = bodyAt? source start) ∧
    (∀ start body, bodyAt? source start = some body ↔
      ∃ before rest, source = before ++ rest ∧ byteLength before = start ∧ IsBody rest body) ∧
    ∀ d ∈ locate source, ∀ e ∈ locate source, d.bodyStart < e.bodyStart →
      ∃ outer inner, bodyAt? source d.bodyStart = some outer ∧
        bodyAt? source e.bodyStart = some inner ∧
        (d.bodyStart + byteLength outer ≤ e.bodyStart ∨
          e.bodyStart + byteLength inner < d.bodyStart + byteLength outer ∨
          e.bodyStart + byteLength inner = byteLength source ∧
            d.bodyStart + byteLength outer = byteLength source) := by
  refine ⟨fun start => bodyAt?_eq_none_iff, countedBody?_eq source,
    fun start body => bodyAt?_eq_some_iff, fun d hd e he hlt => ?_⟩
  exact bodyAt?_nested hd he hlt

end SkipChecks.Declaration
