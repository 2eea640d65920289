import Mathlib.Data.List.Chain
import SkipChecks.Proofs.Json.Values

/-!
# JSON texts

What a JSON text is, told by the parts it is put together from and not by the machine that reads it.
A value is a row of tokens, most tokens can be spelled in several ways, and around each of them
there may be blanks. However a value is written, it is read as that value.
-/

namespace SkipChecks.Json

open Text

namespace Token

/-! ## Strings -/

/-- The number that hexadecimal digits stand for, behind those with this number. -/
def hexFrom? (value : Nat) (digits : Text) : Option Nat :=
  digits.foldlM (fun value c => (hexDigit? c).map (value * 16 + ·)) value

/-- The four digits stand for this number. -/
def IsUnit (digits : Text) (value : Nat) : Prop :=
  digits.length = 4 ∧ hexFrom? 0 digits = some value

instance (digits : Text) (value : Nat) : Decidable (IsUnit digits value) :=
  inferInstanceAs (Decidable (digits.length = 4 ∧ hexFrom? 0 digits = some value))

/-- What stands between the quotes of a string, piece by piece. -/
inductive Piece
  /-- A character that stands for itself. -/
  | plain (c : Char) (h : c ≠ '"' ∧ c ≠ '\\' ∧ ¬ c < ' ')
  /-- A backslash and a letter. -/
  | short (letter c : Char) (h : shortEscape? letter = some c)
  /-- A backslash, a `u` and the number of a UTF-16 unit. -/
  | unit (digits : Text) (value : Nat) (h : IsUnit digits value)

namespace Piece

def text : Piece → Text
  | plain c _ => [c]
  | short letter _ _ => ['\\', letter]
  | unit digits _ _ => '\\' :: 'u' :: digits

/-- The text that the pieces stand for. Units of UTF-16 that are half of a surrogate pair need the
other half right behind them. -/
def content? : List Piece → Option Text
  | [] => some []
  | plain c _ :: pieces | short _ c _ :: pieces => (content? pieces).map (c :: ·)
  | unit _ value _ :: pieces =>
    if value < 0xd800 ∨ 0xe000 ≤ value then (content? pieces).map (Char.ofNat value :: ·)
    else if value < 0xdc00 then
      match pieces with
      | unit _ low _ :: pieces =>
        if 0xdc00 ≤ low ∧ low < 0xe000 then
          (content? pieces).map
            (Char.ofNat (0x10000 + (value - 0xd800) * 0x400 + (low - 0xdc00)) :: ·)
        else none
      | _ => none
    else none

/-- What a piece does to the inside of a string that is being read. -/
def add : Piece → Option Inside → Option Inside
  | plain c _ | short _ c _ => Inside.add c
  | unit _ value _ => Inside.addUnit value

section Add

variable {letter c : Char} {digits : Text} {value : Nat}

@[simp] theorem add_plain (h : c ≠ '"' ∧ c ≠ '\\' ∧ ¬ c < ' ') :
    (plain c h).add = Inside.add c := rfl

@[simp] theorem add_short (h : shortEscape? letter = some c) :
    (short letter c h).add = Inside.add c := rfl

@[simp] theorem add_unit (h : IsUnit digits value) :
    (unit digits value h).add = Inside.addUnit value := rfl

end Add

theorem reads_hex {digits : Text} {inside : Option Inside} {missing value unit : Nat}
    (hlength : digits.length = missing + 1) (h : hexFrom? value digits = some unit) :
    Reads (.unit inside (missing + 1) value) digits [] (.string (Inside.addUnit unit inside)) := by
  induction digits generalizing missing value with
  | nil => cases hlength
  | cons c digits ih =>
      rw [hexFrom?, List.foldlM_cons, Option.bind_eq_bind, Option.bind_eq_some_iff] at h
      obtain ⟨next, hnext, hrest⟩ := h
      obtain ⟨d, hd, rfl⟩ := Option.map_eq_some_iff.mp hnext
      cases digits with
      | nil =>
          cases hlength
          cases hrest
          exact .single (by rw [step, hd]; rfl)
      | cons e digits =>
          obtain ⟨missing, rfl⟩ : ∃ fewer, missing = fewer + 1 :=
            ⟨digits.length, by simpa using hlength.symm⟩
          exact .silent (by rw [step, hd]; rfl) (ih (by simpa using hlength) hrest)

theorem reads_text (piece : Piece) (inside : Option Inside) :
    Reads (.string inside) piece.text [] (.string (piece.add inside)) := by
  cases piece with
  | plain c h =>
      refine .single ?_
      rw [step, if_neg h.1, if_neg h.2.1, if_neg h.2.2]
      rfl
  | short letter c h =>
      have hletter : letter ≠ 'u' := by
        rintro rfl
        cases h
      refine .silent rfl (.single ?_)
      rw [step, if_neg hletter, h]
      rfl
  | unit digits value h =>
      exact .silent rfl (.silent rfl (reads_hex h.1 h.2))

theorem add_none (piece : Piece) : piece.add none = none := by
  cases piece <;> rfl

/-- What pieces one after the other do to the inside of a string. -/
def addAll (pieces : List Piece) (inside : Option Inside) : Option Inside :=
  pieces.foldl (fun inside piece => piece.add inside) inside

@[simp] theorem addAll_nil (inside : Option Inside) : addAll [] inside = inside := rfl

@[simp] theorem addAll_cons (piece : Piece) (pieces : List Piece) (inside : Option Inside) :
    addAll (piece :: pieces) inside = addAll pieces (piece.add inside) := rfl

theorem addAll_concat (pieces : List Piece) (piece : Piece) (inside : Option Inside) :
    addAll (pieces ++ [piece]) inside = piece.add (addAll pieces inside) := by
  rw [addAll, List.foldl_append]
  rfl

@[simp] theorem addAll_none (pieces : List Piece) : addAll pieces none = none := by
  induction pieces with
  | nil => rfl
  | cons piece pieces ih => rw [addAll_cons, add_none, ih]

theorem reads_pieces (pieces : List Piece) (inside : Option Inside) :
    Reads (.string inside) (pieces.flatMap text) [] (.string (addAll pieces inside)) := by
  induction pieces generalizing inside with
  | nil => exact .nil _
  | cons piece pieces ih => exact (piece.reads_text inside).append (ih (piece.add inside))

/-- The inside that is read piece by piece is what the pieces stand for, behind what has been read
before. -/
theorem close_addAll (pieces : List Piece) (read : Text) :
    Inside.close (addAll pieces (some ⟨read, none⟩)) =
      (content? pieces).map (read.reverse ++ ·) := by
  fun_induction content? pieces generalizing read with
  | case1 => simp [Inside.close]
  | case2 c _ pieces ih =>
      have hrest := ih (c :: read)
      simpa [Inside.add, Function.comp_def] using hrest
  | case3 letter c _ pieces ih =>
      have hrest := ih (c :: read)
      simpa [Inside.add, Function.comp_def] using hrest
  | case4 digits value _ pieces hwhole ih =>
      have hrest := ih (Char.ofNat value :: read)
      simpa [Inside.addUnit, hwhole, Function.comp_def] using hrest
  | case5 digits lead _ hhalf hlead digits low _ pieces hlow ih =>
      have hrest := ih (Char.ofNat (0x10000 + (lead - 0xd800) * 0x400 + (low - 0xdc00)) :: read)
      simpa [Inside.addUnit, hhalf, hlead, hlow, Function.comp_def] using hrest
  | case6 digits lead _ hhalf hlead digits low _ pieces hlow =>
      simp [Inside.addUnit, hhalf, hlead, hlow, Inside.close]
  | case7 digits lead _ pieces hhalf hlead hnone =>
      -- the other half is not there
      cases pieces with
      | nil => simp [Inside.addUnit, hhalf, hlead, Inside.close]
      | cons next pieces =>
          cases next with
          | unit digits low h => exact absurd rfl (hnone digits low h pieces)
          | _ => simp [Inside.addUnit, Inside.add, hhalf, hlead, Inside.close]
  | case8 digits value _ pieces hhalf htrail =>
      simp [Inside.addUnit, hhalf, htrail, Inside.close]

/-- The inside of a string behind its opening quote. -/
def opened : Option Inside := some ⟨[], none⟩

theorem close_opened (pieces : List Piece) :
    Inside.close (addAll pieces opened) = content? pieces := by
  rw [opened, close_addAll]
  simp

end Piece

theorem reads_string (pieces : List Piece) :
    Reads .between ('"' :: (pieces.flatMap Piece.text ++ ['"']))
      [string (Piece.content? pieces)] .between := by
  refine .silent rfl ((Piece.reads_pieces pieces Piece.opened).append (.single ?_))
  rw [step, if_pos rfl, Piece.close_opened]

/-! ## Numbers -/

/-- The exponent of a number. -/
structure Exponent where
  mark : Char
  sign : Text
  digits : Text
  isMark : mark = 'e' ∨ mark = 'E'
  isSign : sign = [] ∨ sign = ['+'] ∨ sign = ['-']
  isDigits : digits ≠ [] ∧ ∀ c ∈ digits, c.isDigit

def Exponent.text (exponent : Exponent) : Text :=
  exponent.mark :: (exponent.sign ++ exponent.digits)

/-- A number as it is written. -/
structure Numeral where
  negative : Bool
  whole : Nat
  /-- The digits behind the point; there is no point in front of none. -/
  fraction : Text
  exponent : Option Exponent
  isDigits : ∀ c ∈ fraction, c.isDigit

namespace Numeral

def text (numeral : Numeral) : Text :=
  (if numeral.negative then ['-'] else []) ++ (ofNat numeral.whole ++
    ((if numeral.fraction = [] then [] else '.' :: numeral.fraction) ++
      numeral.exponent.elim [] Exponent.text))

/-- A number keeps its value when it has no sign, no fraction and no exponent. -/
def token (numeral : Numeral) : Token :=
  if numeral.negative ∨ numeral.fraction ≠ [] ∨ numeral.exponent.isSome then number
  else natural numeral.whole

end Numeral

theorem pends_fraction : Pends .fraction number where
  atEnd_eq := rfl
  step_eq := by
    intro c completed hends
    rw [step, if_neg (by simp [hends.notDigit]), if_neg (not_or.mpr hends.notMark), endNumber,
      hends.start_eq]
    rfl

theorem pends_exponent : Pends .exponent number where
  atEnd_eq := rfl
  step_eq := by
    intro c completed hends
    rw [step, if_neg (by simp [hends.notDigit]), endNumber, hends.start_eq]
    rfl

/-- Digits are read in a mode that they do not end. -/
theorem reads_repeated {mode : Mode} {digits : Text} (hdigits : ∀ c ∈ digits, c.isDigit)
    (hstep : ∀ ⦃c⦄, c.isDigit → step mode c = some ([], mode)) : Reads mode digits [] mode := by
  induction digits with
  | nil => exact .nil mode
  | cons c digits ih =>
      obtain ⟨hc, hothers⟩ := List.forall_mem_cons.mp hdigits
      exact .silent (hstep hc) (ih hothers)

theorem reads_fraction {digits : Text} (hne : digits ≠ []) (hdigits : ∀ c ∈ digits, c.isDigit) :
    Reads .point digits [] .fraction := by
  obtain ⟨c, others, rfl⟩ := List.exists_cons_of_ne_nil hne
  obtain ⟨hc, hothers⟩ := List.forall_mem_cons.mp hdigits
  refine .silent (by rw [step, if_pos hc]) (reads_repeated hothers fun d hd => ?_)
  rw [step, if_pos hd]

theorem reads_exponent (exponent : Exponent) :
    Reads .mark (exponent.sign ++ exponent.digits) [] .exponent := by
  obtain ⟨c, others, hdigits⟩ := List.exists_cons_of_ne_nil exponent.isDigits.1
  have hall := exponent.isDigits.2
  rw [hdigits] at hall ⊢
  obtain ⟨hc, hothers⟩ := List.forall_mem_cons.mp hall
  have hrest : Reads .exponent others [] .exponent :=
    reads_repeated hothers fun d hd => by rw [step, if_pos hd]
  rcases exponent.isSign with hsign | hsign | hsign
  · have hsigns : ¬ (c = '+' ∨ c = '-') := by
      rintro (rfl | rfl) <;> cases hc
    rw [hsign]
    exact .silent (by rw [step, if_neg hsigns, if_pos hc]) hrest
  all_goals
    rw [hsign]
    exact .silent rfl (.silent (by rw [step, if_pos hc]) hrest)

theorem reads_whole (numeral : Numeral) :
    Reads .between ((if numeral.negative then ['-'] else []) ++ ofNat numeral.whole) []
      (digitsMode numeral.negative numeral.whole) := by
  cases numeral.negative with
  | false => exact reads_ofNat numeral.whole
  | true =>
      have hfirst : ∀ d < 10, step .minus (Nat.digitChar d) = some ([], digitsMode true d) := by
        intro d hd
        interval_cases d <;> rfl
      exact .silent rfl (reads_digits hfirst numeral.whole)

/-- The exponent is read from every mode that takes its mark. -/
theorem Exponent.reads_text (exponent : Exponent) {mode : Mode}
    (hmode : ∀ c, c = 'e' ∨ c = 'E' → step mode c = some ([], .mark)) :
    Reads mode exponent.text [] .exponent :=
  .silent (hmode exponent.mark exponent.isMark) (reads_exponent exponent)

/-- A number is read up to its end, where it still waits for what is behind it. -/
theorem Numeral.exists_reads (numeral : Numeral) :
    ∃ mode, Reads .between numeral.text [] mode ∧ Pends mode numeral.token := by
  have hwhole := reads_whole numeral
  rw [text, ← List.append_assoc, token]
  by_cases hfraction : numeral.fraction = []
  · simp only [hfraction, if_true, List.nil_append, ne_eq, not_true_eq_false, false_or]
    cases numeral.exponent with
    | none =>
        refine ⟨_, hwhole.append (.nil _), ?_⟩
        have hpends := pends_digits numeral.negative numeral.whole
        simpa [ofDigits] using hpends
    | some exponent =>
        have hmark : ∀ c, c = 'e' ∨ c = 'E' →
            step (digitsMode numeral.negative numeral.whole) c = some ([], .mark) := by
          rintro c (rfl | rfl) <;> exact step_digitsMode rfl
        refine ⟨_, hwhole.append (exponent.reads_text hmark), ?_⟩
        simpa using pends_exponent
  · have hpoint : Reads (digitsMode numeral.negative numeral.whole) ('.' :: numeral.fraction) []
        .fraction :=
      .silent (step_digitsMode rfl) (reads_fraction hfraction numeral.isDigits)
    simp only [hfraction, if_false, ne_eq, not_false_eq_true, true_or, or_true, if_true]
    cases numeral.exponent with
    | none => exact ⟨_, hwhole.append (hpoint.append (.nil _)), pends_fraction⟩
    | some exponent =>
        have hmark : ∀ c, c = 'e' ∨ c = 'E' → step .fraction c = some ([], .mark) := by
          rintro c (rfl | rfl) <;> rfl
        exact ⟨_, hwhole.append (hpoint.append (exponent.reads_text hmark)), pends_exponent⟩

/-! ## Tokens in a row -/

/-- The tokens that are spelled with a single character. -/
def marks : List (Char × Token) :=
  [('[', openArray), (']', closeArray), ('\x7b', openObject), ('\x7d', closeObject), (',', comma),
    (':', colon)]

/-- The tokens that are spelled with a word. -/
def words : List (Text × Token) :=
  [("null".toList, null), ("true".toList, bool true), ("false".toList, bool false)]

/-- The ways in which a single token can be written. -/
inductive Spells : Token → Text → Prop
  | mark {c : Char} {token : Token} (h : (c, token) ∈ marks) : Spells token [c]
  | word {s : Text} {token : Token} (h : (s, token) ∈ words) : Spells token s
  | numeral (numeral : Numeral) : Spells numeral.token numeral.text
  | string {content : Option Text} (pieces : List Piece) (h : Piece.content? pieces = content) :
      Spells (string content) ('"' :: (pieces.flatMap Piece.text ++ ['"']))

/-- Only characters that may stand between tokens. -/
def IsBlanks (s : Text) : Prop := ∀ c ∈ s, c ∈ [' ', '\t', '\n', '\r']

/-- The tokens stand in the text one after the other, with blanks in front of them, between them and
behind them. -/
inductive Lays : List Token → Text → Prop
  | nil {blanks : Text} (hblanks : IsBlanks blanks) : Lays [] blanks
  | cons {blanks s rest : Text} {token : Token} {tokens : List Token} (hblanks : IsBlanks blanks)
      (hs : Spells token s) (hrest : Lays tokens rest) :
      Lays (token :: tokens) (blanks ++ (s ++ rest))

theorem isBlanks_nil : IsBlanks [] := by simp [IsBlanks]

theorem endsNumber_of_mem_marks {c : Char} {token : Token} (h : (c, token) ∈ marks) :
    EndsNumber c [token] := by
  simp only [marks, List.mem_cons, Prod.mk.injEq, List.not_mem_nil, or_false] at h
  rcases h with h | h | h | h | h | h
  all_goals
    obtain ⟨rfl, rfl⟩ := h
    exact ⟨by decide, by decide, by decide, rfl⟩

theorem IsBlanks.endsNumber {s : Text} {c : Char} (h : IsBlanks s) (hc : c ∈ s) :
    EndsNumber c [] := by
  have hblank := h c hc
  simp only [List.mem_cons, List.not_mem_nil, or_false] at hblank
  rcases hblank with rfl | rfl | rfl | rfl <;> exact ⟨by decide, by decide, by decide, rfl⟩

theorem IsBlanks.reads {s : Text} (h : IsBlanks s) : Reads .between s [] .between := by
  induction s with
  | nil => exact .nil _
  | cons c s ih =>
      have hothers : IsBlanks s := fun d hd => h d (List.mem_cons_of_mem c hd)
      exact .silent (h.endsNumber List.mem_cons_self).start_eq (ih hothers)

/-- A token with a character of its own. -/
def IsMark (token : Token) : Prop := token ∈ marks.map Prod.snd

instance : DecidablePred IsMark := fun token =>
  inferInstanceAs (Decidable (token ∈ marks.map Prod.snd))

theorem not_isMark_of_mem_words {s : Text} {token : Token} (h : (s, token) ∈ words) :
    ¬ IsMark token := by
  simp only [words, List.mem_cons, Prod.mk.injEq, List.not_mem_nil, or_false] at h
  rcases h with ⟨-, rfl⟩ | ⟨-, rfl⟩ | ⟨-, rfl⟩ <;> simp [IsMark, marks]

theorem Numeral.not_isMark (numeral : Numeral) : ¬ IsMark numeral.token := by
  rw [token]
  split <;> simp [IsMark, marks]

theorem Spells.exists_mark {token : Token} {s : Text} (h : Spells token s) (hmark : IsMark token) :
    ∃ c, s = [c] ∧ (c, token) ∈ marks := by
  cases h with
  | mark h => exact ⟨_, rfl, h⟩
  | word h => exact absurd hmark (not_isMark_of_mem_words h)
  | numeral numeral => exact absurd hmark numeral.not_isMark
  | string pieces h => simp [IsMark, marks] at hmark

theorem reads_word {s : Text} {token : Token} (h : (s, token) ∈ words) :
    Reads .between s [token] .between := by
  simp only [words, List.mem_cons, Prod.mk.injEq, List.not_mem_nil, or_false] at h
  rcases h with ⟨rfl, rfl⟩ | ⟨rfl, rfl⟩ | ⟨rfl, rfl⟩
  · exact .silent rfl (.silent rfl (.silent rfl (.single rfl)))
  · exact .silent rfl (.silent rfl (.silent rfl (.single rfl)))
  · exact .silent rfl (.silent rfl (.silent rfl (.silent rfl (.single rfl))))

/-- A token is read by itself, unless it is a number, which waits for its end. -/
theorem Spells.reads {token : Token} {s : Text} (h : Spells token s) :
    Reads .between s [token] .between ∨
      ¬ IsMark token ∧ ∃ mode, Reads .between s [] mode ∧ Pends mode token := by
  cases h with
  | mark h => exact .inl (.single (endsNumber_of_mem_marks h).start_eq)
  | word h => exact .inl (reads_word h)
  | numeral numeral => exact .inr ⟨numeral.not_isMark, numeral.exists_reads⟩
  | string pieces h => exact .inl (h ▸ reads_string pieces)

/-- Of two tokens one behind the other, one is a mark. -/
def Apart (first second : Token) : Prop := IsMark first ∨ IsMark second

/-- What waits for its end is complete where the text ends or goes on with something that may stand
between tokens. -/
theorem Pends.run_eq {mode : Mode} {token : Token} (h : Pends mode token) {s : Text}
    (hs : ∀ c ∈ s.head?, ∃ completed, EndsNumber c completed) :
    run mode s = (run .between s).map (token :: ·) := by
  cases s with
  | nil => rw [run, run, h.atEnd_eq]; rfl
  | cons c s =>
      obtain ⟨completed, hends⟩ := hs c rfl
      have hpending : Reads mode [c] (token :: completed) .between := .single (h.step_eq hends)
      have hplain : Reads .between [c] completed .between := .single hends.start_eq
      rw [← List.singleton_append, hpending s, hplain s, Option.map_map]
      rfl

namespace Lays

variable {tokens : List Token} {s : Text}

theorem endsNumber (h : Lays tokens s) (hfirst : ∀ token ∈ tokens.head?, IsMark token) :
    ∀ c ∈ s.head?, ∃ completed, EndsNumber c completed := by
  intro c hc
  cases h with
  | nil hblanks => exact ⟨_, hblanks.endsNumber (List.mem_of_mem_head? hc)⟩
  | @cons blanks s rest token tokens hblanks hs hrest =>
      cases blanks with
      | nil =>
          obtain ⟨d, rfl, hmark⟩ := hs.exists_mark (hfirst token rfl)
          obtain rfl : d = c := by simpa using hc
          exact ⟨_, endsNumber_of_mem_marks hmark⟩
      | cons blank blanks =>
          obtain rfl : blank = c := by simpa using hc
          exact ⟨_, hblanks.endsNumber List.mem_cons_self⟩

theorem ofText?_eq (h : Lays tokens s) (hapart : tokens.IsChain Apart) :
    ofText? s = some tokens := by
  rw [ofText?]
  induction h with
  | nil hblanks => exact hblanks.reads.ofText?_eq
  | @cons blanks s rest token tokens hblanks hs hrest ih =>
      obtain ⟨hnext, hothers⟩ := List.isChain_cons.mp hapart
      rw [hblanks.reads (s ++ rest)]
      rcases hs.reads with hread | ⟨hnot, mode, hread, hpends⟩
      · rw [hread rest, ih hothers]
        rfl
      · have hends := hrest.endsNumber fun other hother => (hnext other hother).resolve_left hnot
        rw [hread rest, hpends.run_eq hends, ih hothers]
        rfl

end Lays

end Token

/-! ## Values -/

/-- The text is one of those that the value can be written as. -/
def WrittenAs (value : Json) (s : Text) : Prop := Token.Lays (tokens value) s

section Chains

open Token

theorem isChain_single {before token after : Token} {more : List Token} (hbefore : IsMark before)
    (hafter : IsMark after) (hmore : (after :: more).IsChain Apart) :
    (before :: token :: after :: more).IsChain Apart :=
  .cons_cons (.inl hbefore) (.cons_cons (.inr hafter) hmore)

mutual

/-- Between marks, the tokens of a value have a mark beside each one that is none. -/
theorem isChain_tokens : ∀ (value : Json) {before after : Token} {more : List Token},
    IsMark before → IsMark after → (after :: more).IsChain Apart →
      (before :: (tokens value ++ after :: more)).IsChain Apart
  | null, _, _, _, hbefore, hafter, hmore => isChain_single hbefore hafter hmore
  | bool _, _, _, _, hbefore, hafter, hmore => isChain_single hbefore hafter hmore
  | natural _, _, _, _, hbefore, hafter, hmore => isChain_single hbefore hafter hmore
  | number, _, _, _, hbefore, hafter, hmore => isChain_single hbefore hafter hmore
  | string _, _, _, _, hbefore, hafter, hmore => isChain_single hbefore hafter hmore
  | array [], _, _, _, hbefore, hafter, hmore =>
      .cons_cons (.inl hbefore) (isChain_single (by decide) hafter hmore)
  | array (item :: items), _, _, _, hbefore, hafter, hmore => by
      have hitems := isChain_itemTokens (item :: items) (by simp) (by decide : IsMark .openArray)
        (by decide : IsMark .closeArray) (.cons_cons (.inr hafter) hmore)
      rw [tokens, List.cons_append, List.cons_append, List.append_assoc]
      exact .cons_cons (.inl hbefore) hitems
  | object [], _, _, _, hbefore, hafter, hmore =>
      .cons_cons (.inl hbefore) (isChain_single (by decide) hafter hmore)
  | object (member :: members), _, _, _, hbefore, hafter, hmore => by
      have hmembers := isChain_memberTokens (member :: members) (by simp)
        (by decide : IsMark .openObject) (by decide : IsMark .closeObject)
        (.cons_cons (.inr hafter) hmore)
      rw [tokens, List.cons_append, List.cons_append, List.append_assoc]
      exact .cons_cons (.inl hbefore) hmembers

theorem isChain_itemTokens : ∀ (items : List Json) {before after : Token} {more : List Token},
    items ≠ [] → IsMark before → IsMark after → (after :: more).IsChain Apart →
      (before :: (itemTokens items ++ after :: more)).IsChain Apart
  | [], _, _, _, hne, _, _, _ => absurd rfl hne
  | [item], _, _, _, _, hbefore, hafter, hmore => isChain_tokens item hbefore hafter hmore
  | item :: next :: items, _, _, _, _, hbefore, hafter, hmore => by
      have hcomma : IsMark .comma := by decide
      have hothers := isChain_itemTokens (next :: items) (by simp) hcomma hafter hmore
      rw [itemTokens, List.append_assoc]
      exact isChain_tokens item hbefore hcomma hothers

theorem isChain_memberTokens : ∀ (members : List (Option Text × Json)) {before after : Token}
    {more : List Token}, members ≠ [] → IsMark before → IsMark after →
      (after :: more).IsChain Apart →
        (before :: (memberTokens members ++ after :: more)).IsChain Apart
  | [], _, _, _, hne, _, _, _ => absurd rfl hne
  | [(key, value)], _, _, _, _, hbefore, hafter, hmore => by
      have hcolon : IsMark .colon := by decide
      exact isChain_single hbefore hcolon (isChain_tokens value hcolon hafter hmore)
  | (key, value) :: next :: members, _, _, _, _, hbefore, hafter, hmore => by
      have hcolon : IsMark .colon := by decide
      have hcomma : IsMark .comma := by decide
      have hothers := isChain_memberTokens (next :: members) (by simp) hcomma hafter hmore
      have hvalue := isChain_tokens value hcolon hcomma hothers
      rw [memberTokens, List.append_assoc]
      exact isChain_single hbefore hcolon hvalue

end

theorem isChain_apart (value : Json) : (tokens value).IsChain Apart := by
  have hcomma : IsMark .comma := by decide
  have hbetween := isChain_tokens value hcomma hcomma (.singleton Token.comma)
  exact hbetween.tail.left_of_append

end Chains

/-- However a value is written, it is read as that value. -/
theorem WrittenAs.ofText?_eq {value : Json} {s : Text} (h : WrittenAs value s) :
    ofText? s = some value := by
  rw [ofText?, Token.Lays.ofText?_eq h (isChain_apart value)]
  exact ofTokens?_tokens value

end SkipChecks.Json
