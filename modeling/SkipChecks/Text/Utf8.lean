import SkipChecks.Text.Basic

/-!
# Texts as bytes

Files and the output of programs are bytes. `text?` reads bytes that are the UTF-8 form of a text,
and nothing else. Where damaged bytes have to be shown, `pieces` splits them into the characters
they hold and the longest damaged stretches between them.
-/

namespace SkipChecks

/-- The contents of a file or an output. -/
abbrev Bytes := ByteArray

namespace Bytes

instance : DecidableEq Bytes := ByteArray.instDecidableEq

/-- The UTF-8 form of a text. -/
def ofText (s : Text) : Bytes := (String.ofList s).toUTF8

/-- The text that the bytes are the UTF-8 form of. -/
def text? (bytes : Bytes) : Option Text := (String.fromUTF8? bytes).map String.toList

@[simp] theorem text?_ofText (s : Text) : text? (ofText s) = some s := by
  have h : String.fromUTF8? (String.ofList s).toUTF8 = some (String.ofList s) := by
    unfold String.fromUTF8?
    exact dif_pos (String.ofList s).isValidUTF8
  rw [text?, ofText, h, Option.map_some, String.toList_ofList]

/-- Only the UTF-8 form of a text is read as that text. -/
theorem text?_eq_some_iff {bytes : Bytes} {s : Text} : text? bytes = some s ↔ bytes = ofText s := by
  refine ⟨fun h => ?_, fun h => h ▸ text?_ofText s⟩
  obtain ⟨t, ht, rfl⟩ := Option.map_eq_some_iff.1 h
  unfold String.fromUTF8? at ht
  split at ht
  · cases ht
    simp [ofText, String.fromUTF8]
  · simp at ht

/-- How many bytes a sequence takes that starts with this byte, the least and the greatest second
byte, and the bits of the first byte that count. -/
def lead? (b : UInt8) : Option (Nat × UInt8 × UInt8 × Nat) :=
  let n := b.toNat
  if n < 0xc2 then none
  else if n < 0xe0 then some (2, 0x80, 0xbf, n - 0xc0)
  else if n == 0xe0 then some (3, 0xa0, 0xbf, 0)
  else if n == 0xed then some (3, 0x80, 0x9f, n - 0xe0)
  else if n < 0xf0 then some (3, 0x80, 0xbf, n - 0xe0)
  else if n == 0xf0 then some (4, 0x90, 0xbf, 0)
  else if n < 0xf4 then some (4, 0x80, 0xbf, n - 0xf0)
  else if n == 0xf4 then some (4, 0x80, 0x8f, 4)
  else none

/-- A sequence that has begun: how many bytes are to come, the bounds of the next one, and the
bits read so far. -/
structure Begun where
  missing : Nat
  least : UInt8
  greatest : UInt8
  bits : Nat

/-- The characters and, as `none`, the damaged stretches. A sequence that breaks off is one
stretch up to the byte that does not fit. -/
def pieces : Option Begun → List UInt8 → List (Option Char)
  | none, [] => []
  | some _, [] => [none]
  | none, b :: bs => start b bs
  | some begun, b :: bs =>
    if begun.least ≤ b && b ≤ begun.greatest then
      let bits := begun.bits * 64 + (b.toNat - 0x80)
      match begun.missing with
      | 0 | 1 => some (Char.ofNat bits) :: pieces none bs
      | missing + 1 => pieces (some ⟨missing, 0x80, 0xbf, bits⟩) bs
    else
      none :: start b bs
where
  /-- A byte at which no sequence has begun. -/
  start (b : UInt8) (bs : List UInt8) : List (Option Char) :=
    if b < 0x80 then some (Char.ofNat b.toNat) :: pieces none bs
    else
      match lead? b with
      | some (length, least, greatest, bits) => pieces (some ⟨length - 1, least, greatest, bits⟩) bs
      | none => none :: pieces none bs

/-- The text with a replacement character for each damaged stretch. -/
def lossyText (bytes : Bytes) : Text := (pieces none bytes.toList).map (·.getD '\ufffd')

end Bytes

end SkipChecks
