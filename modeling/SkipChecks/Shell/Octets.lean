import SkipChecks.Text.Utf8

/-!
# Texts of bytes

The shell and the programs it runs know bytes only. Their texts have one character for each byte: the
one with the number of the byte. What comes in as a text is taken in its UTF-8 form.
-/

namespace SkipChecks

/-- A text in which each character stands for a byte. -/
abbrev Octets := Text

namespace Octets

/-- The character that stands for a byte. -/
def ofByte (b : UInt8) : Char := Char.ofNat b.toNat

/-- The byte that a character stands for. -/
def byte (c : Char) : UInt8 := UInt8.ofNat c.toNat

def ofBytes (bytes : Bytes) : Octets := bytes.data.toList.map ofByte

/-- A text in its UTF-8 form. -/
def ofText (s : Text) : Octets := ofBytes (Bytes.ofText s)

def toBytes (s : Octets) : Bytes := ⟨(s.map byte).toArray⟩

/-- The text that has this UTF-8 form, with a replacement for what is damaged. -/
def text (s : Octets) : Text :=
  if s.all (· ≤ '\x7f') then s else Bytes.lossyText (toBytes s)

end Octets

end SkipChecks
