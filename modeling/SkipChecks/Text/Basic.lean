/-!
# Text

A text is a list of characters. Places inside a text are counted in bytes of its UTF-8 form, so a
count may fall between two characters; `splitAtByte?` says when it does not.
-/

namespace SkipChecks

/-- A text, character by character. -/
abbrev Text := List Char

namespace Text

/-- The length of the UTF-8 form. -/
def byteLength (s : Text) : Nat := s.foldr (fun c n => c.utf8Size + n) 0

@[simp] theorem byteLength_nil : byteLength [] = 0 := rfl

@[simp] theorem byteLength_cons (c : Char) (s : Text) :
    byteLength (c :: s) = c.utf8Size + byteLength s := rfl

@[simp] theorem byteLength_append (s t : Text) :
    byteLength (s ++ t) = byteLength s + byteLength t := by
  induction s with
  | nil => simp
  | cons c s ih => simp [ih, Nat.add_assoc]

/-- What stands before and after a byte offset. There is no answer past the end of the text, and
none inside a character. -/
def splitAtByte? : Text → Nat → Option (Text × Text)
  | s, 0 => some ([], s)
  | [], _ + 1 => none
  | c :: cs, n + 1 =>
    if c.utf8Size ≤ n + 1 then
      (splitAtByte? cs (n + 1 - c.utf8Size)).map fun (before, after) => (c :: before, after)
    else
      none

/-- An offset that splits a text is the byte length of what stands before it. -/
theorem splitAtByte?_eq_some_iff {s before after : Text} {n : Nat} :
    splitAtByte? s n = some (before, after) ↔ s = before ++ after ∧ byteLength before = n := by
  induction s generalizing n before with
  | nil =>
    cases n with
    | zero => cases before <;> simp [splitAtByte?, eq_comm]
    | succ n =>
      simp only [splitAtByte?, reduceCtorEq, false_iff, not_and]
      intro h
      simp [(List.append_eq_nil_iff.1 h.symm).1]
  | cons c cs ih =>
    have hc := Char.utf8Size_pos c
    cases n with
    | zero =>
      cases before with
      | nil => simp [splitAtByte?, eq_comm]
      | cons d before =>
        have hd := Char.utf8Size_pos d
        simp [splitAtByte?]
        omega
    | succ n =>
      simp only [splitAtByte?]
      cases before with
      | nil => split <;> simp
      | cons d before =>
        have this := @ih before (n + 1 - c.utf8Size)
        split
        · simp only [Option.map_eq_some_iff, Prod.mk.injEq, List.cons.injEq, Prod.exists,
            List.cons_append, byteLength_cons]
          constructor
          · rintro ⟨b, a, h, ⟨rfl, rfl⟩, rfl⟩
            have := this.1 h
            exact ⟨⟨rfl, this.1⟩, by omega⟩
          · rintro ⟨⟨rfl, h⟩, hn⟩
            exact ⟨before, after, this.2 ⟨h, by omega⟩, ⟨rfl, rfl⟩, rfl⟩
        · simp only [reduceCtorEq, List.cons_append, List.cons.injEq, byteLength_cons, false_iff,
            not_and, and_imp]
          rintro rfl _
          omega

/-- The pieces between occurrences of a separator; a text without one is a single piece. -/
def split (sep : Char) : Text → List Text
  | [] => [[]]
  | c :: cs => if c = sep then [] :: split sep cs else (split sep cs).modifyHead (c :: ·)

theorem split_ne_nil (sep : Char) (s : Text) : split sep s ≠ [] := by
  induction s with
  | nil => simp [split]
  | cons c cs ih =>
    rw [split]
    split
    · simp
    · cases h : split sep cs <;> simp_all

/-- The lines of a text, without their line feeds. -/
def lines (s : Text) : List Text := split '\n' s

/-- The texts one after the other with a separator between each two. -/
def join (sep : Text) : List Text → Text
  | [] => []
  | [s] => s
  | s :: ss => s ++ sep ++ join sep ss

/-- Joining the pieces gives back what was split. -/
theorem join_split (sep : Char) (s : Text) : join [sep] (split sep s) = s := by
  induction s with
  | nil => rfl
  | cons c cs ih =>
    rw [split]
    have hne := split_ne_nil sep cs
    cases h : split sep cs with
    | nil => exact absurd h hne
    | cons l ls =>
      rw [h] at ih
      split
      · rename_i heq
        simp [join, ih, heq]
      · cases ls <;> simp_all [join]

def contains (needle : Text) : Text → Bool
  | [] => needle.isEmpty
  | c :: cs => needle.isPrefixOf (c :: cs) || contains needle cs

/-- The text after the first occurrence of `needle`. -/
def after? (needle : Text) : Text → Option Text
  | [] => needle.isPrefixOf? []
  | c :: cs => (needle.isPrefixOf? (c :: cs)).or (after? needle cs)

/-- Skips `skip` characters, then puts `new` for each occurrence of `old`, left to right. -/
def replaceFrom (old new : Text) : Nat → Text → Text
  | _, [] => []
  | skip + 1, _ :: cs => replaceFrom old new skip cs
  | 0, c :: cs =>
    if old.isPrefixOf (c :: cs) then
      new ++ replaceFrom old new (old.length - 1) cs
    else
      c :: replaceFrom old new 0 cs

/-- Puts `new` for each occurrence of the non-empty text `old`, left to right and without looking
again at what was put in. -/
def replace (old new s : Text) : Text := replaceFrom old new 0 s

/-- The decimal digits of a number. -/
def ofNat (n : Nat) : Text := Nat.toDigits 10 n

end Text

end SkipChecks
