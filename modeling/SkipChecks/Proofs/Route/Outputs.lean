import SkipChecks.Proofs.Json.Recognition
import SkipChecks.Proofs.Text.Utf8
import SkipChecks.Route.Listing

/-!
# What programs print

The output of a program is bytes, and may be no text. It is read as a JSON value all the same when
the damage is inside strings. Such a string stands for no text, like one with half of a surrogate
pair. Apart from that, the outputs that are read as a value are the texts that it can be written as.
-/

namespace SkipChecks

namespace Json.Token

open Text

/-- A stretch of a printed string: a piece of a written one or, as `none`, bytes that are no
text. -/
def printed : Option Piece → List (Option Char)
  | some piece => piece.text.map some
  | none => [none]

/-- The ways in which a token can be printed: as it is written, or as a string that is damaged. -/
inductive Prints : Token → List (Option Char) → Prop
  | written {token : Token} {s : Text} (h : Spells token s) : Prints token (s.map some)
  | damaged {stretches : List (Option Piece)} (h : none ∈ stretches) :
      Prints (string none) (some '"' :: (stretches.flatMap printed ++ [some '"']))

/-- The tokens are printed one after the other, with blanks in front of them, between them and
behind them. -/
inductive PrintsAll : List Token → List (Option Char) → Prop
  | nil {blanks : Text} (hblanks : IsBlanks blanks) : PrintsAll [] (blanks.map some)
  | cons {blanks : Text} {front rest : List (Option Char)} {token : Token} {tokens : List Token}
      (hblanks : IsBlanks blanks) (hfront : Prints token front) (hrest : PrintsAll tokens rest) :
      PrintsAll (token :: tokens) (blanks.map some ++ (front ++ rest))

/-! ## Characters that are no backslash -/

theorem hexFrom?_free {value unit : Nat} {digits : Text} (h : hexFrom? value digits = some unit) :
    '\\' ∉ digits := by
  induction digits generalizing value with
  | nil => simp
  | cons c digits ih =>
      rw [hexFrom?, List.foldlM_cons, Option.bind_eq_bind, Option.bind_eq_some_iff] at h
      obtain ⟨next, hnext, hrest⟩ := h
      obtain ⟨d, hd, -⟩ := Option.map_eq_some_iff.mp hnext
      have hc : '\\' ≠ c := by
        rintro rfl
        cases hd
      simpa [hc] using ih hrest

theorem IsBlanks.free {s : Text} (h : IsBlanks s) : '\\' ∉ s :=
  fun hmem => absurd (h _ hmem) (by decide)

theorem digits_free {digits : Text} (h : ∀ c ∈ digits, c.isDigit) : '\\' ∉ digits :=
  fun hmem => absurd (h _ hmem) (by decide)

theorem Exponent.text_free (exponent : Exponent) : '\\' ∉ exponent.text := by
  have hmark : '\\' ≠ exponent.mark := by
    rcases exponent.isMark with h | h <;> rw [h] <;> decide
  have hsign : '\\' ∉ exponent.sign := by
    rcases exponent.isSign with h | h | h <;> rw [h] <;> decide
  simp [Exponent.text, hmark, hsign, digits_free exponent.isDigits.2]

theorem Numeral.text_free (numeral : Numeral) : '\\' ∉ numeral.text := by
  have hsign : '\\' ∉ if numeral.negative then ['-'] else [] := by split <;> decide
  have hwhole : '\\' ∉ ofNat numeral.whole :=
    digits_free fun c hc => Nat.isDigit_of_mem_toDigits (by decide) (by decide) hc
  have hfraction : '\\' ∉ if numeral.fraction = [] then [] else '.' :: numeral.fraction := by
    split
    · simp
    · simp [digits_free numeral.isDigits]
  have hexponent : '\\' ∉ numeral.exponent.elim [] Exponent.text := by
    cases numeral.exponent with
    | none => simp
    | some exponent => exact exponent.text_free
  simp only [Numeral.text, List.mem_append, hsign, hwhole, hfraction, hexponent, or_false,
    not_false_eq_true]

/-- Only strings are spelled with backslashes. -/
theorem Spells.free_or_string {token : Token} {s : Text} (h : Spells token s) :
    '\\' ∉ s ∨ ∃ pieces, token = .string (Piece.content? pieces) ∧
      s = '"' :: (pieces.flatMap Piece.text ++ ['"']) := by
  cases h with
  | @mark c token h =>
      have hall : ∀ mark ∈ marks, '\\' ≠ mark.1 := by decide
      exact .inl (by simpa using hall _ h)
  | word h =>
      have hall : ∀ word ∈ words, '\\' ∉ word.1 := by decide
      exact .inl (hall _ h)
  | numeral numeral => exact .inl numeral.text_free
  | string pieces h => exact .inr ⟨pieces, by rw [h], rfl⟩

/-! ## Damaged strings -/

/-- The escape that is put for damage stands for half of a surrogate pair. -/
def half : Piece := .unit "dc00".toList 0xdc00 (by decide)

/-- The pieces that a stretch of a string is read as. -/
def mended : Option Piece → List Piece
  | some piece => [piece]
  | none => [half, half]

theorem half_add_twice (inside : Option Inside) : half.add (half.add inside) = none := by
  match inside with
  | none => rfl
  | some ⟨read, none⟩ => rfl
  | some ⟨read, some lead⟩ => rfl

theorem content?_mended {stretches : List (Option Piece)} (h : none ∈ stretches) :
    Piece.content? (stretches.flatMap mended) = none := by
  obtain ⟨before, after, rfl⟩ := List.append_of_mem h
  rw [← Piece.close_opened, List.flatMap_append, List.flatMap_cons, Piece.addAll,
    List.foldl_append, ← Piece.addAll, ← Piece.addAll, mended, List.cons_append,
    List.singleton_append, Piece.addAll_cons, Piece.addAll_cons, half_add_twice,
    Piece.addAll_none]
  rfl

theorem exists_eq_map_some {stretches : List (Option Piece)} (h : none ∉ stretches) :
    ∃ pieces : List Piece, stretches = pieces.map some := by
  induction stretches with
  | nil => exact ⟨[], rfl⟩
  | cons stretch stretches ih =>
      rw [List.mem_cons, not_or] at h
      obtain ⟨pieces, rfl⟩ := ih h.2
      obtain ⟨piece, rfl⟩ := Option.ne_none_iff_exists.mp (Ne.symm h.1)
      exact ⟨piece :: pieces, rfl⟩

theorem flatMap_mended_some (pieces : List Piece) : (pieces.map some).flatMap mended = pieces := by
  rw [List.flatMap_map]
  exact List.flatMap_singleton' pieces

theorem flatMap_printed_some (pieces : List Piece) :
    (pieces.map some).flatMap printed = (pieces.flatMap Piece.text).map some := by
  rw [List.flatMap_map, List.map_flatMap]
  rfl

end Json.Token

/-- The value is what the output says. -/
def Json.PrintedAs (value : Json) (output : Bytes) : Prop :=
  Json.Token.PrintsAll (Json.tokens value) (Bytes.pieces none output.toList)

namespace Listing

open Json.Token

variable {s t : Text} {output rest : List (Option Char)}

/-! ## From the output to the text -/

@[simp] theorem readable_map_some (afterBackslash : Bool) (s : Text) :
    readable afterBackslash (s.map some) = s := by
  induction s generalizing afterBackslash with
  | nil => rfl
  | cons c s ih => rw [List.map_cons, readable, ih]

theorem readable_written (hfree : '\\' ∉ s) (rest : List (Option Char)) :
    readable false (s.map some ++ rest) = s ++ readable false rest := by
  induction s with
  | nil => rfl
  | cons c s ih =>
      rw [List.mem_cons, not_or] at hfree
      have hplain : (c == '\\' && !false) = false := by simpa using Ne.symm hfree.1
      rw [List.map_cons, List.cons_append, readable, hplain, ih hfree.2, List.cons_append]

theorem readable_printed (stretch : Option Piece) (rest : List (Option Char)) :
    readable false (printed stretch ++ rest) =
      (mended stretch).flatMap Piece.text ++ readable false rest := by
  match stretch with
  | none => simp [printed, mended, half, readable, Piece.text]
  | some (.plain c h) =>
      have hfree : '\\' ∉ [c] := by simpa using h.2.1.symm
      exact readable_written hfree rest
  | some (.short letter c h) => simp [printed, mended, readable, Piece.text]
  | some (.unit digits value h) =>
      have hrest := readable_written (hexFrom?_free h.2) rest
      simp [printed, mended, readable, Piece.text, hrest]

theorem readable_stretches (stretches : List (Option Piece)) (rest : List (Option Char)) :
    readable false (stretches.flatMap printed ++ rest) =
      (stretches.flatMap mended).flatMap Piece.text ++ readable false rest := by
  induction stretches with
  | nil => rfl
  | cons stretch stretches ih =>
      simp only [List.flatMap_cons, List.append_assoc, List.flatMap_append, readable_printed, ih]

/-! ## From the text to the output -/

theorem exists_of_readable_append (h : readable false output = s ++ t) (hfree : '\\' ∉ s) :
    ∃ rest, output = s.map some ++ rest ∧ readable false rest = t := by
  induction s generalizing output with
  | nil => exact ⟨output, rfl, h⟩
  | cons c s ih =>
      rw [List.mem_cons, not_or] at hfree
      match output with
      | [] => cases h
      | none :: output =>
          have hhead : '\\' = c := (List.cons.inj h).1
          exact absurd hhead hfree.1
      | some d :: output =>
          rw [readable, List.cons_append, List.cons.injEq] at h
          obtain ⟨rfl, hrest⟩ := h
          have hplain : (d == '\\' && !false) = false := by simpa using Ne.symm hfree.1
          rw [hplain] at hrest
          obtain ⟨rest, rfl, ht⟩ := ih hrest hfree.2
          exact ⟨rest, rfl, ht⟩

/-- Behind a backslash that was printed stands the character that was printed there, or the one that
no escape has. -/
theorem exists_of_readable_escape {d : Char}
    (h : readable false (some '\\' :: output) = '\\' :: d :: t) (hd : d ≠ '\x00') :
    ∃ rest, output = some d :: rest ∧ readable false rest = t := by
  have hrest : readable true output = d :: t := (List.cons.inj h).2
  match output with
  | [] => cases hrest
  | none :: rest => exact absurd (List.cons.inj hrest).1.symm hd
  | some e :: rest =>
      rw [readable, List.cons.injEq, Bool.not_true, Bool.and_false] at hrest
      exact ⟨rest, by rw [hrest.1], hrest.2⟩

/-- Where the text goes on with the escape that is put for damage, so do the pieces of a string. -/
theorem exists_eq_half_cons {pieces : List Piece} {u : Text}
    (h : pieces.flatMap Piece.text ++ '"' :: t = half.text ++ u) :
    ∃ others, pieces = half :: others ∧ others.flatMap Piece.text ++ '"' :: t = u := by
  match pieces with
  | [] => cases h
  | .plain c hc :: pieces => exact absurd (List.cons.inj h).1 hc.2.1
  | .short letter c hc :: pieces =>
      have hletter : letter = 'u' := (List.cons.inj (List.cons.inj h).2).1
      rw [hletter] at hc
      cases hc
  | .unit digits value hunit :: others =>
      have htail : digits ++ (others.flatMap Piece.text ++ '"' :: t) = "dc00".toList ++ u := by
        simpa [Piece.text, half] using h
      obtain ⟨rfl, hrest⟩ := List.append_inj htail hunit.1
      obtain rfl : 0xdc00 = value := Option.some.inj hunit.2
      exact ⟨others, rfl, hrest⟩

/-- Where the output goes on with a character, a piece of a string was printed as it is written. -/
theorem exists_of_readable_piece {d : Char} {piece : Piece}
    (h : readable false (some d :: output) = piece.text ++ t) :
    ∃ rest, some d :: output = printed (some piece) ++ rest ∧ readable false rest = t := by
  cases piece with
  | plain c hc =>
      have hfree : '\\' ∉ [c] := by simpa using hc.2.1.symm
      exact exists_of_readable_append h hfree
  | short letter c hc =>
      obtain rfl : d = '\\' := (List.cons.inj h).1
      have hletter : letter ≠ '\x00' := by
        rintro rfl
        cases hc
      obtain ⟨rest, rfl, ht⟩ := exists_of_readable_escape h hletter
      exact ⟨rest, rfl, ht⟩
  | unit digits value hunit =>
      obtain rfl : d = '\\' := (List.cons.inj h).1
      obtain ⟨front, rfl, hfront⟩ := exists_of_readable_escape h (by decide)
      obtain ⟨rest, rfl, ht⟩ := exists_of_readable_append hfront (hexFrom?_free hunit.2)
      exact ⟨rest, rfl, ht⟩

/-- A string that is read was printed stretch by stretch. -/
theorem exists_stretches : ∀ {output : List (Option Char)} {pieces : List Piece},
    readable false output = pieces.flatMap Piece.text ++ '"' :: t →
      ∃ (stretches : List (Option Piece)) (rest : List (Option Char)),
        output = stretches.flatMap printed ++ some '"' :: rest ∧ readable false rest = t ∧
          pieces = stretches.flatMap mended
  | [], pieces, h => by simp [readable] at h
  | none :: output, pieces, h => by
      -- the damage is read as two pieces
      have hfirst : pieces.flatMap Piece.text ++ '"' :: t =
          half.text ++ (half.text ++ readable false output) := h.symm
      obtain ⟨others, rfl, hsecond⟩ := exists_eq_half_cons hfirst
      obtain ⟨others, rfl, hrest⟩ := exists_eq_half_cons hsecond
      obtain ⟨stretches, rest, rfl, ht, rfl⟩ := exists_stretches hrest.symm
      exact ⟨none :: stretches, rest, rfl, ht, rfl⟩
  | some d :: output, [], h => by
      obtain ⟨rest, hout, ht⟩ := exists_of_readable_append (s := ['"']) h (by decide)
      exact ⟨[], rest, hout, ht, rfl⟩
  | some d :: output, piece :: pieces, h => by
      rw [List.flatMap_cons, List.append_assoc] at h
      obtain ⟨front, hout, hfront⟩ := exists_of_readable_piece h
      obtain ⟨stretches, rest, rfl, ht, rfl⟩ := exists_stretches hfront
      exact ⟨some piece :: stretches, rest, by rw [hout]; simp, ht, rfl⟩
termination_by _ pieces => pieces.length

/-! ## Tokens -/

theorem readable_string (stretches : List (Option Piece)) (rest : List (Option Char)) :
    readable false (some '"' :: (stretches.flatMap printed ++ [some '"']) ++ rest) =
      '"' :: ((stretches.flatMap mended).flatMap Piece.text ++ ['"']) ++ readable false rest := by
  have hquote (rest : List (Option Char)) :
      readable false (some '"' :: rest) = '"' :: readable false rest := rfl
  simp only [List.cons_append, List.append_assoc, List.nil_append, hquote, readable_stretches]

/-- What is printed for a token is read as one of its spellings. -/
theorem exists_spells {token : Json.Token} {front : List (Option Char)} (h : Prints token front) :
    ∃ s, Spells token s ∧ ∀ rest, readable false (front ++ rest) = s ++ readable false rest := by
  cases h with
  | @written token s h =>
      refine ⟨s, h, fun rest => ?_⟩
      rcases h.free_or_string with hfree | ⟨pieces, -, rfl⟩
      · exact readable_written hfree rest
      · have hstring := readable_string (pieces.map some) rest
        rw [flatMap_mended_some, flatMap_printed_some] at hstring
        simpa using hstring
  | @damaged stretches h =>
      exact ⟨_, .string (stretches.flatMap mended) (content?_mended h), readable_string stretches⟩

/-- Stretches that are read as these pieces are the pieces themselves, or damaged. -/
theorem prints_string (stretches : List (Option Piece)) :
    Prints (.string (Piece.content? (stretches.flatMap mended)))
      (some '"' :: (stretches.flatMap printed ++ [some '"'])) := by
  by_cases hdamaged : none ∈ stretches
  · rw [content?_mended hdamaged]
    exact .damaged hdamaged
  · obtain ⟨pieces, rfl⟩ := exists_eq_map_some hdamaged
    rw [flatMap_mended_some, flatMap_printed_some]
    have hwritten := Prints.written (.string pieces rfl)
    simpa using hwritten

/-- What is read as a token was printed for it. -/
theorem exists_prints {token : Json.Token} (hs : Spells token s)
    (h : readable false output = s ++ t) :
    ∃ front rest, output = front ++ rest ∧ Prints token front ∧ readable false rest = t := by
  rcases hs.free_or_string with hfree | ⟨pieces, rfl, rfl⟩
  · obtain ⟨rest, rfl, ht⟩ := exists_of_readable_append h hfree
    exact ⟨_, rest, rfl, .written hs, ht⟩
  · have hsplit : readable false output =
        ['"'] ++ (pieces.flatMap Piece.text ++ '"' :: t) := by simpa using h
    obtain ⟨inner, rfl, hinner⟩ := exists_of_readable_append hsplit (by decide)
    obtain ⟨stretches, rest, rfl, ht, rfl⟩ := exists_stretches hinner
    exact ⟨_, rest, by simp, prints_string stretches, ht⟩

theorem lays_readable {tokens : List Json.Token} (h : PrintsAll tokens output) :
    Lays tokens (readable false output) := by
  induction h with
  | nil hblanks =>
      rw [readable_map_some]
      exact .nil hblanks
  | cons hblanks hfront _ ih =>
      obtain ⟨s, hs, hread⟩ := exists_spells hfront
      rw [readable_written hblanks.free, hread]
      exact .cons hblanks hs ih

theorem readable_eq_nil (h : readable false output = []) : output = [] := by
  match output with
  | [] => rfl
  | none :: _ => cases h
  | some _ :: _ => cases h

theorem printsAll_of_lays {tokens : List Json.Token} (h : Lays tokens (readable false output)) :
    PrintsAll tokens output := by
  generalize hread : readable false output = s at h
  induction h generalizing output with
  | @nil blanks hblanks =>
      rw [← List.append_nil blanks] at hread
      obtain ⟨rest, rfl, hrest⟩ := exists_of_readable_append hread hblanks.free
      rw [readable_eq_nil hrest, List.append_nil]
      exact .nil hblanks
  | cons hblanks hs _ ih =>
      obtain ⟨behind, rfl, hbehind⟩ := exists_of_readable_append hread hblanks.free
      obtain ⟨front, rest, rfl, hfront, hrest⟩ := exists_prints hs hbehind
      exact .cons hblanks hfront (ih hrest)

/-- The outputs that are read as a value are those that say it. -/
theorem ofText?_readable_iff {value : Json} {output : Bytes} :
    Json.ofText? (readable false (Bytes.pieces none output.toList)) = some value ↔
      value.PrintedAs output := by
  rw [Json.ofText?_eq_some_iff]
  exact ⟨printsAll_of_lays, lays_readable⟩

theorem ofOutput?_ofText (s : Text) : ofOutput? (Bytes.ofText s) = (Json.ofText? s).bind ofJson? := by
  rw [ofOutput?, Bytes.pieces_ofText, readable_map_some]

end Listing

/-- A text says the value that it is written for. -/
theorem Json.printedAs_ofText_iff {value : Json} {s : Text} :
    value.PrintedAs (Bytes.ofText s) ↔ value.WrittenAs s := by
  rw [← Listing.ofText?_readable_iff, Bytes.pieces_ofText, Listing.readable_map_some,
    ofText?_eq_some_iff]

end SkipChecks
