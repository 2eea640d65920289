import SkipChecks.Proofs.Json.Spelling

/-!
# Only JSON texts are read

The machine that cuts a text into tokens has read, at any time, whole tokens with blanks between
them and the beginning of one more. What the beginning is can be told from the mode.
-/

namespace SkipChecks.Json.Token

open Text

/-! ## Digits -/

theorem exists_digitChar {c : Char} (h : c.isDigit) :
    ∃ d < 10, c = Nat.digitChar d ∧ c.toNat - '0'.toNat = d := by
  obtain ⟨hlow, hhigh⟩ := Char.isDigit_iff_toNat.mp h
  have hfirst : '0'.toNat = 48 := rfl
  have hlast : '9'.toNat = 57 := rfl
  refine ⟨c.toNat - 48, by omega, Char.toNat_inj.mp ?_, rfl⟩
  rw [Nat.toNat_digitChar_of_lt_ten (by omega)]
  omega

theorem ofNat_of_isDigit {c : Char} (h : c.isDigit) : ofNat (c.toNat - '0'.toNat) = [c] := by
  obtain ⟨d, hd, rfl, hvalue⟩ := exists_digitChar h
  rw [hvalue, ofNat, Nat.toDigits_of_lt_base hd]

theorem ofDigit_ne_zero {c : Char} (h : c.isDigit) (hzero : c ≠ '0') :
    c.toNat - '0'.toNat ≠ 0 := by
  obtain ⟨d, -, hc, hvalue⟩ := exists_digitChar h
  rw [hvalue]
  rintro rfl
  exact hzero hc

theorem ofNat_append {n : Nat} (hn : n ≠ 0) {c : Char} (h : c.isDigit) :
    ofNat (n * 10 + (c.toNat - '0'.toNat)) = ofNat n ++ [c] := by
  obtain ⟨d, hd, rfl, hvalue⟩ := exists_digitChar h
  rw [hvalue, ofNat, ofNat, Nat.toDigits_eq_if (by decide), if_neg (by omega)]
  have hfront : (n * 10 + d) / 10 = n := by omega
  have hlast : (n * 10 + d) % 10 = d := by omega
  rw [hfront, hlast]

/-! ## What a mode has read -/

/-- A number that only has its whole part so far. -/
def Numeral.ofWhole (negative : Bool) (whole : Nat) : Numeral :=
  ⟨negative, whole, [], none, by simp⟩

@[simp] theorem Numeral.text_ofWhole (negative : Bool) (whole : Nat) :
    (ofWhole negative whole).text = (if negative then ['-'] else []) ++ ofNat whole := by
  cases negative <;> simp [ofWhole, text]

theorem spells_ofWhole (negative : Bool) (whole : Nat) :
    Spells (ofDigits negative whole) (Numeral.ofWhole negative whole).text := by
  have htoken : (Numeral.ofWhole negative whole).token = ofDigits negative whole := by
    simp [Numeral.ofWhole, Numeral.token, ofDigits]
  exact htoken ▸ .numeral _

theorem spells_of_fraction {numeral : Numeral} (h : numeral.fraction ≠ []) :
    Spells number numeral.text := by
  have htoken : numeral.token = number := if_pos (.inr (.inl h))
  exact htoken ▸ .numeral numeral

/-- A number with an exponent behind it. -/
theorem spells_of_exponent {numeral : Numeral} (h : numeral.exponent = none)
    (exponent : Exponent) : Spells number (numeral.text ++ exponent.text) := by
  let raised : Numeral := { numeral with exponent := some exponent }
  have htoken : raised.token = number := if_pos (.inr (.inr rfl))
  have htext : raised.text = numeral.text ++ exponent.text := by
    rw [Numeral.text, Numeral.text, h, Option.elim_none, List.append_nil, List.append_assoc,
      List.append_assoc]
    rfl
  exact htoken ▸ htext ▸ .numeral raised

theorem isDigit_concat {digits : Text} {c : Char} (h : ∀ d ∈ digits, d.isDigit) (hc : c.isDigit) :
    ∀ d ∈ digits ++ [c], d.isDigit := by
  intro d hd
  rcases List.mem_append.mp hd with hd | hd
  · exact h d hd
  · rwa [List.mem_singleton.mp hd]

theorem hexFrom?_concat (value : Nat) (digits : Text) (c : Char) :
    hexFrom? value (digits ++ [c]) =
      (hexFrom? value digits).bind fun value => (hexDigit? c).map (value * 16 + ·) := by
  rw [hexFrom?, List.foldlM_append]
  simp [hexFrom?]

/-- The mode is in the middle of a token that begins with this text. -/
def Held : Mode → Text → Prop
  | .between, front => front = []
  | .string inside, front =>
    ∃ pieces, inside = Piece.addAll pieces Piece.opened ∧ front = '"' :: pieces.flatMap Piece.text
  | .escape inside, front =>
    ∃ pieces, inside = Piece.addAll pieces Piece.opened ∧
      front = '"' :: (pieces.flatMap Piece.text ++ ['\\'])
  | .unit inside missing value, front =>
    ∃ pieces digits, inside = Piece.addAll pieces Piece.opened ∧
      front = '"' :: (pieces.flatMap Piece.text ++ '\\' :: 'u' :: digits) ∧
      0 < missing ∧ digits.length + missing = 4 ∧ hexFrom? 0 digits = some value
  | .word next missing token, front => (front ++ next :: missing, token) ∈ words
  | .minus, front => front = ['-']
  | .zero negative, front => front = (Numeral.ofWhole negative 0).text
  | .digits negative value, front => value ≠ 0 ∧ front = (Numeral.ofWhole negative value).text
  | .point, front =>
    ∃ negative whole, front = (Numeral.ofWhole negative whole).text ++ ['.']
  | .fraction, front =>
    ∃ numeral : Numeral, numeral.fraction ≠ [] ∧ numeral.exponent = none ∧ front = numeral.text
  | .mark, front =>
    ∃ (numeral : Numeral) (mark : Char), numeral.exponent = none ∧ (mark = 'e' ∨ mark = 'E') ∧
      front = numeral.text ++ [mark]
  | .markSign, front =>
    ∃ (numeral : Numeral) (mark sign : Char), numeral.exponent = none ∧
      (mark = 'e' ∨ mark = 'E') ∧ (sign = '+' ∨ sign = '-') ∧ front = numeral.text ++ [mark, sign]
  | .exponent, front =>
    ∃ (numeral : Numeral) (exponent : Exponent), numeral.exponent = none ∧
      front = numeral.text ++ exponent.text

/-- What one character does: it goes on with the token, completes it, or is a blank. -/
inductive Takes (front : Text) (c : Char) : List Token → Mode → Prop
  | further {after : Mode} (h : Held after (front ++ [c])) : Takes front c [] after
  | whole {token : Token} (h : Spells token (front ++ [c])) : Takes front c [token] .between
  | blank (hfront : front = []) (h : IsBlanks [c]) : Takes front c [] .between

theorem takes_start {c : Char} {completed : List Token} {after : Mode}
    (h : start c = some (completed, after)) : Takes [] c completed after := by
  unfold start at h
  split at h
  case h_1 | h_2 | h_3 | h_4 =>
    cases h
    exact .blank rfl (by simp [IsBlanks])
  case h_5 | h_6 | h_7 | h_8 | h_9 | h_10 =>
    cases h
    exact .whole (.mark (by simp [marks]))
  case h_11 =>
    cases h
    exact .further ⟨[], rfl, rfl⟩
  case h_12 | h_13 | h_14 =>
    cases h
    exact .further (by simp [Held, words])
  case h_15 =>
    cases h
    exact .further rfl
  case h_16 =>
    cases h
    exact .further rfl
  case h_17 hzero =>
    split at h
    next hdigit =>
      cases h
      refine .further ⟨ofDigit_ne_zero hdigit hzero, ?_⟩
      rw [Numeral.text_ofWhole, ofNat_of_isDigit hdigit]
      rfl
    next => cases h

section Steps

variable {front : Text} {c : Char} {completed : List Token} {after : Mode}

/-- The character ends the number in front of it. -/
def Ends (front : Text) (c : Char) (completed : List Token) (after : Mode) : Prop :=
  ∃ token rest, Spells token front ∧ start c = some (rest, after) ∧ completed = token :: rest

theorem ends_endNumber {token : Token} (hspells : Spells token front)
    (h : endNumber token c = some (completed, after)) : Ends front c completed after := by
  obtain ⟨⟨rest, mode⟩, hstart, heq⟩ := Option.map_eq_some_iff.mp h
  cases heq
  exact ⟨token, rest, hspells, hstart, rfl⟩

theorem takes_afterDigits {negative : Bool} {whole : Nat}
    (h : afterDigits negative whole c = some (completed, after)) :
    Takes (Numeral.ofWhole negative whole).text c completed after ∨
      Ends (Numeral.ofWhole negative whole).text c completed after := by
  rw [afterDigits] at h
  split at h
  next hpoint =>
    cases h
    subst hpoint
    exact .inl (.further ⟨negative, whole, rfl⟩)
  next =>
    split at h
    next hmark =>
      cases h
      exact .inl (.further ⟨_, c, rfl, hmark, rfl⟩)
    next =>
      exact .inr (ends_endNumber (spells_ofWhole negative whole) h)

theorem Held.takes_string {inside : Option Inside} (h : Held (.string inside) front)
    (hstep : step (.string inside) c = some (completed, after)) :
    Takes front c completed after := by
  obtain ⟨pieces, rfl, rfl⟩ := h
  rw [step] at hstep
  split at hstep
  next hquote =>
    cases hstep
    subst hquote
    exact .whole (.string pieces (Piece.close_opened pieces).symm)
  next hquote =>
    split at hstep
    next hslash =>
      cases hstep
      subst hslash
      exact .further ⟨pieces, rfl, rfl⟩
    next hslash =>
      split at hstep
      next => cases hstep
      next hcontrol =>
        cases hstep
        refine .further ⟨pieces ++ [.plain c ⟨hquote, hslash, hcontrol⟩], ?_, ?_⟩
        · rw [Piece.addAll_concat, Piece.add_plain]
        · simp [Piece.text]

theorem Held.takes_escape {inside : Option Inside} (h : Held (.escape inside) front)
    (hstep : step (.escape inside) c = some (completed, after)) :
    Takes front c completed after := by
  obtain ⟨pieces, rfl, rfl⟩ := h
  rw [step] at hstep
  split at hstep
  next hletter =>
    cases hstep
    subst hletter
    exact .further ⟨pieces, [], rfl, by simp, by decide, rfl, rfl⟩
  next =>
    obtain ⟨d, hd, heq⟩ := Option.map_eq_some_iff.mp hstep
    cases heq
    refine .further ⟨pieces ++ [.short c d hd], ?_, ?_⟩
    · rw [Piece.addAll_concat, Piece.add_short]
    · simp [Piece.text]

theorem Held.takes_unit {inside : Option Inside} {missing value : Nat}
    (h : Held (.unit inside missing value) front)
    (hstep : step (.unit inside missing value) c = some (completed, after)) :
    Takes front c completed after := by
  obtain ⟨pieces, digits, rfl, rfl, hmissing, hlength, hvalue⟩ := h
  obtain ⟨d, hd, heq⟩ := Option.map_eq_some_iff.mp hstep
  have hdigits : hexFrom? 0 (digits ++ [c]) = some (value * 16 + d) := by
    rw [hexFrom?_concat, hvalue, hd]
    rfl
  match missing, hmissing with
  | 1, _ =>
    cases heq
    have hunit : IsUnit (digits ++ [c]) (value * 16 + d) := ⟨by simpa using hlength, hdigits⟩
    refine .further ⟨pieces ++ [.unit (digits ++ [c]) _ hunit], ?_, ?_⟩
    · rw [Piece.addAll_concat, Piece.add_unit]
    · simp [Piece.text]
  | fewer + 2, _ =>
    cases heq
    refine .further ⟨pieces, digits ++ [c], rfl, by simp, by omega, ?_, hdigits⟩
    rw [List.length_append, List.length_singleton]
    omega

theorem Held.takes_word {next : Char} {missing : Text} {token : Token}
    (h : Held (.word next missing token) front)
    (hstep : step (.word next missing token) c = some (completed, after)) :
    Takes front c completed after := by
  cases missing with
  | nil =>
      obtain ⟨rfl, heq⟩ := Option.ite_none_right_eq_some.mp hstep
      cases heq
      exact .whole (.word h)
  | cons d missing =>
      obtain ⟨rfl, heq⟩ := Option.ite_none_right_eq_some.mp hstep
      cases heq
      refine .further ?_
      rw [Held, List.append_assoc]
      exact h

theorem Held.takes_minus (h : Held .minus front)
    (hstep : step .minus c = some (completed, after)) : Takes front c completed after := by
  obtain rfl : front = ['-'] := h
  rw [step] at hstep
  split at hstep
  next hzero =>
    cases hstep
    subst hzero
    exact .further rfl
  next hzero =>
    obtain ⟨hdigit, heq⟩ := Option.ite_none_right_eq_some.mp hstep
    cases heq
    refine .further ⟨ofDigit_ne_zero hdigit hzero, ?_⟩
    rw [Numeral.text_ofWhole, ofNat_of_isDigit hdigit]
    rfl

theorem Held.takes_digits {negative : Bool} {value : Nat} (h : Held (.digits negative value) front)
    (hstep : step (.digits negative value) c = some (completed, after)) :
    Takes front c completed after ∨ Ends front c completed after := by
  obtain ⟨hvalue, rfl⟩ := h
  rw [step] at hstep
  split at hstep
  next hdigit =>
    cases hstep
    refine .inl (.further ⟨by omega, ?_⟩)
    rw [Numeral.text_ofWhole, Numeral.text_ofWhole, ofNat_append hvalue hdigit, List.append_assoc]
  next => exact takes_afterDigits hstep

theorem Held.takes_point (h : Held .point front)
    (hstep : step .point c = some (completed, after)) : Takes front c completed after := by
  obtain ⟨negative, whole, rfl⟩ := h
  obtain ⟨hdigit, heq⟩ := Option.ite_none_right_eq_some.mp hstep
  cases heq
  refine .further ⟨⟨negative, whole, [c], none, by simpa using hdigit⟩, by simp, rfl, ?_⟩
  rw [Numeral.text_ofWhole]
  simp [Numeral.text]

theorem Held.takes_fraction (h : Held .fraction front)
    (hstep : step .fraction c = some (completed, after)) :
    Takes front c completed after ∨ Ends front c completed after := by
  obtain ⟨numeral, hfraction, hexponent, rfl⟩ := h
  rw [step] at hstep
  split at hstep
  next hdigit =>
    cases hstep
    have hdigits := isDigit_concat numeral.isDigits hdigit
    refine .inl (.further
      ⟨⟨numeral.negative, numeral.whole, numeral.fraction ++ [c], none, hdigits⟩, by simp, rfl, ?_⟩)
    simp [Numeral.text, hfraction, hexponent]
  next =>
    split at hstep
    next hmark =>
      cases hstep
      exact .inl (.further ⟨numeral, c, hexponent, hmark, rfl⟩)
    next =>
      exact .inr (ends_endNumber (spells_of_fraction hfraction) hstep)

theorem Held.takes_mark (h : Held .mark front)
    (hstep : step .mark c = some (completed, after)) : Takes front c completed after := by
  obtain ⟨numeral, mark, hexponent, hmark, rfl⟩ := h
  rw [step] at hstep
  split at hstep
  next hsign =>
    cases hstep
    refine .further ⟨numeral, mark, c, hexponent, hmark, hsign, ?_⟩
    simp
  next =>
    obtain ⟨hdigit, heq⟩ := Option.ite_none_right_eq_some.mp hstep
    cases heq
    refine .further ⟨numeral, ⟨mark, [], [c], hmark, .inl rfl, by simp, by simpa using hdigit⟩,
      hexponent, ?_⟩
    simp [Exponent.text]

theorem Held.takes_markSign (h : Held .markSign front)
    (hstep : step .markSign c = some (completed, after)) : Takes front c completed after := by
  obtain ⟨numeral, mark, sign, hexponent, hmark, hsign, rfl⟩ := h
  obtain ⟨hdigit, heq⟩ := Option.ite_none_right_eq_some.mp hstep
  cases heq
  have hsigns : [sign] = [] ∨ [sign] = ['+'] ∨ [sign] = ['-'] := by simpa using hsign
  refine .further ⟨numeral, ⟨mark, [sign], [c], hmark, hsigns, by simp, by simpa using hdigit⟩,
    hexponent, ?_⟩
  simp [Exponent.text]

theorem Held.takes_exponent (h : Held .exponent front)
    (hstep : step .exponent c = some (completed, after)) :
    Takes front c completed after ∨ Ends front c completed after := by
  obtain ⟨numeral, exponent, hexponent, rfl⟩ := h
  rw [step] at hstep
  split at hstep
  next hdigit =>
    cases hstep
    have hdigits := isDigit_concat exponent.isDigits.2 hdigit
    refine .inl (.further ⟨numeral, ⟨exponent.mark, exponent.sign, exponent.digits ++ [c],
      exponent.isMark, exponent.isSign, by simp, hdigits⟩, hexponent, ?_⟩)
    simp [Exponent.text]
  next =>
    exact .inr (ends_endNumber (spells_of_exponent hexponent exponent) hstep)

/-- One character goes on with the token that a mode is in the middle of, or completes it. -/
theorem Held.takes {mode : Mode} (h : Held mode front)
    (hstep : step mode c = some (completed, after)) :
    Takes front c completed after ∨ Ends front c completed after := by
  cases mode with
  | between =>
      obtain rfl : front = [] := h
      exact .inl (takes_start hstep)
  | string => exact .inl (h.takes_string hstep)
  | escape => exact .inl (h.takes_escape hstep)
  | unit => exact .inl (h.takes_unit hstep)
  | word => exact .inl (h.takes_word hstep)
  | minus => exact .inl (h.takes_minus hstep)
  | zero negative =>
      obtain rfl : front = (Numeral.ofWhole negative 0).text := h
      exact takes_afterDigits hstep
  | digits => exact h.takes_digits hstep
  | point => exact .inl (h.takes_point hstep)
  | fraction => exact h.takes_fraction hstep
  | mark => exact .inl (h.takes_mark hstep)
  | markSign => exact .inl (h.takes_markSign hstep)
  | exponent => exact h.takes_exponent hstep

end Steps

/-! ## Runs -/

/-- At the end of the text, a mode is between tokens or in a number that may end there. -/
theorem Held.of_atEnd {mode : Mode} {front : Text} {tokens : List Token} (h : Held mode front)
    (hend : atEnd mode = some tokens) :
    front = [] ∧ tokens = [] ∨ ∃ token, Spells token front ∧ tokens = [token] := by
  cases mode with
  | between =>
      cases hend
      exact .inl ⟨h, rfl⟩
  | zero negative =>
      cases hend
      obtain rfl : front = (Numeral.ofWhole negative 0).text := h
      exact .inr ⟨_, spells_ofWhole negative 0, rfl⟩
  | digits negative value =>
      cases hend
      obtain ⟨-, rfl⟩ := h
      exact .inr ⟨_, spells_ofWhole negative value, rfl⟩
  | fraction =>
      cases hend
      obtain ⟨numeral, hfraction, -, rfl⟩ := h
      exact .inr ⟨_, spells_of_fraction hfraction, rfl⟩
  | exponent =>
      cases hend
      obtain ⟨numeral, exponent, hexponent, rfl⟩ := h
      exact .inr ⟨_, spells_of_exponent hexponent exponent, rfl⟩
  | _ => cases hend

/-- What a character completes stands in front of what the run behind it comes to. -/
theorem Takes.lays {front blanks s : Text} {c : Char} {completed rest : List Token} {after : Mode}
    (h : Takes front c completed after) (hblanks : IsBlanks blanks)
    (hrest : ∀ {front blanks}, Held after front → IsBlanks blanks →
      Lays rest (blanks ++ (front ++ s))) :
    Lays (completed ++ rest) (blanks ++ (front ++ c :: s)) := by
  have hbetween : Held .between [] := rfl
  rw [← List.singleton_append, ← List.append_assoc front]
  cases h with
  | further hheld => exact hrest hheld hblanks
  | whole hspells => exact .cons hblanks hspells (hrest hbetween isBlanks_nil)
  | blank hfront hblank =>
      subst hfront
      have hmore : IsBlanks (blanks ++ [c]) := by
        intro d hd
        exact (List.mem_append.mp hd).elim (hblanks d) (hblank d)
      have hlays := hrest hbetween hmore
      simpa using hlays

/-- Where a run comes to tokens, these stand in the text, the first one from where the mode has
begun it. -/
theorem lays_of_run {s front blanks : Text} {mode : Mode} {tokens : List Token}
    (h : Held mode front) (hrun : run mode s = some tokens) (hblanks : IsBlanks blanks) :
    Lays tokens (blanks ++ (front ++ s)) := by
  induction s generalizing front blanks mode tokens with
  | nil =>
      rw [List.append_nil]
      rcases h.of_atEnd hrun with ⟨rfl, rfl⟩ | ⟨token, hspells, rfl⟩
      · rw [List.append_nil]
        exact .nil hblanks
      · rw [← List.append_nil front]
        exact .cons hblanks hspells (.nil isBlanks_nil)
  | cons c s ih =>
      simp only [run, Option.bind_eq_bind, Option.bind_eq_some_iff, Option.pure_def,
        Option.some.injEq] at hrun
      obtain ⟨⟨completed, after⟩, hstep, rest, hrest, rfl⟩ := hrun
      rcases h.takes hstep with htakes | ⟨token, completed, hspells, hstart, rfl⟩
      · exact htakes.lays hblanks fun hheld hmore => ih hheld hrest hmore
      · -- the character is read once more, between two tokens
        have hlays := (takes_start hstart).lays isBlanks_nil fun hheld hmore => ih hheld hrest hmore
        exact .cons hblanks hspells hlays

theorem lays_of_ofText? {s : Text} {tokens : List Token} (h : ofText? s = some tokens) :
    Lays tokens s := by
  have hbetween : Held .between [] := rfl
  exact lays_of_run hbetween h isBlanks_nil

end SkipChecks.Json.Token

namespace SkipChecks.Json

/-! ## Values -/

/-- The tokens that have been read of an open array or object, up to the value being read in it. -/
def Frame.tokens : Frame → List Token
  | .array before => .openArray :: before.flatMap fun item => Json.tokens item ++ [.comma]
  | .object before key =>
    .openObject :: (before.flatMap (fun member => memberToken member ++ [.comma]) ++
      [.string key, .colon])

def stackTokens (stack : List Frame) : List Token := stack.reverse.flatMap Frame.tokens

theorem stackTokens_cons (frame : Frame) (stack : List Frame) :
    stackTokens (frame :: stack) = stackTokens stack ++ frame.tokens := by
  simp [stackTokens]

/-- The tokens that have been read to come to a state. -/
def State.tokens : State → List Token
  | .value stack => stackTokens stack
  | .firstItem stack => stackTokens stack ++ [.openArray]
  | .firstKey stack => stackTokens stack ++ [.openObject]
  | .key stack before =>
    stackTokens stack ++
      .openObject :: before.flatMap fun member => memberToken member ++ [.comma]
  | .colon stack before name =>
    stackTokens stack ++ .openObject ::
      (before.flatMap (fun member => memberToken member ++ [.comma]) ++ [.string name])
  | .after stack v => stackTokens stack ++ Json.tokens v

theorem itemTokens_concat (items : List Json) (item : Json) :
    itemTokens (items ++ [item]) =
      (items.flatMap fun item => tokens item ++ [.comma]) ++ tokens item := by
  induction items with
  | nil => rfl
  | cons first items ih =>
      obtain ⟨next, others, hnext⟩ := List.exists_cons_of_ne_nil
        (List.append_ne_nil_of_right_ne_nil items (List.cons_ne_nil item []))
      rw [hnext] at ih
      rw [List.cons_append, hnext, itemTokens, ih]
      simp

theorem memberTokens_concat (members : List (Option Text × Json)) (member : Option Text × Json) :
    memberTokens (members ++ [member]) =
      (members.flatMap fun member => memberToken member ++ [.comma]) ++ memberToken member := by
  induction members with
  | nil => rfl
  | cons first members ih =>
      obtain ⟨next, others, hnext⟩ := List.exists_cons_of_ne_nil
        (List.append_ne_nil_of_right_ne_nil members (List.cons_ne_nil member []))
      rw [hnext] at ih
      rw [List.cons_append, hnext, memberTokens, ih]
      simp [memberToken]

theorem tokens_of_start {stack : List Frame} {token : Token} {state : State}
    (h : start stack token = some state) : state.tokens = stackTokens stack ++ [token] := by
  unfold start at h
  split at h
  case h_8 => cases h
  all_goals
    cases h
    rfl

/-- Every token that is read is one more of those that come to the state. -/
theorem tokens_of_step {state after : State} {token : Token} (h : step state token = some after) :
    after.tokens = state.tokens ++ [token] := by
  unfold step at h
  split at h
  case h_1 => exact tokens_of_start h
  case h_3 =>
    rw [tokens_of_start h, stackTokens_cons]
    rfl
  case h_9 before _ v =>
    cases h
    simp [State.tokens, stackTokens_cons, Frame.tokens, tokens, itemTokens_concat]
  case h_11 before key _ v =>
    cases h
    simp [State.tokens, stackTokens_cons, Frame.tokens, tokens, memberTokens_concat, memberToken]
  case h_12 => cases h
  all_goals
    cases h
    simp [State.tokens, stackTokens_cons, Frame.tokens, tokens, itemTokens, memberTokens,
      memberToken]

theorem tokens_of_foldlM {ts : List Token} {state after : State}
    (h : ts.foldlM step state = some after) : after.tokens = state.tokens ++ ts := by
  induction ts generalizing state with
  | nil =>
      cases h
      rw [List.append_nil]
  | cons token ts ih =>
      rw [List.foldlM_cons, Option.bind_eq_bind, Option.bind_eq_some_iff] at h
      obtain ⟨next, hstep, hrest⟩ := h
      rw [ih hrest, tokens_of_step hstep, List.append_assoc, List.singleton_append]

theorem eq_tokens_of_ofTokens? {ts : List Token} {value : Json} (h : ofTokens? ts = some value) :
    ts = tokens value := by
  rw [ofTokens?] at h
  split at h
  next v hread =>
    cases h
    simpa [State.tokens, stackTokens] using (tokens_of_foldlM hread).symm
  next => cases h

/-- The texts that are read as a value are those that it can be written as. -/
theorem ofText?_eq_some_iff {value : Json} {s : Text} :
    ofText? s = some value ↔ value.WrittenAs s := by
  constructor
  · intro h
    obtain ⟨ts, hts, hvalue⟩ := Option.bind_eq_some_iff.mp h
    rw [WrittenAs, ← eq_tokens_of_ofTokens? hvalue]
    exact Token.lays_of_ofText? hts
  · exact WrittenAs.ofText?_eq

end SkipChecks.Json
