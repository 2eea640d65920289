import Mathlib.Data.Char
import Mathlib.Data.List.Lex
import SkipChecks.Text.Utf8

/-!
# Texts and the order of their bytes

Texts are ordered by their characters. This is also the order of their bytes.
-/

namespace SkipChecks

/-- Letters and digits are ASCII. -/
theorem Text.toNat_lt_of_isAlphanum {c : Char} (h : c.isAlphanum) : c.toNat < 128 := by
  delta Char.isAlphanum Char.isAlpha Char.isUpper Char.isLower Char.isDigit at h
  simp only [Char.reduceVal, UInt32.reduceToNat, Char.toNat_val, UInt32.le_iff_toNat_le, ge_iff_le,
    Bool.decide_and, Bool.or_eq_true, Bool.and_eq_true, decide_eq_true_eq] at h
  omega

namespace Bytes

/-- The bytes of a text as numbers. -/
def numbers (s : Text) : List Nat := (ofText s).data.toList.map UInt8.toNat

/-- The numbers of the bytes of a character that has this number. -/
def encode (v : Nat) : List Nat :=
  if v ≤ 127 then [v]
  else if v ≤ 2047 then [v / 64 % 32 + 192, v % 64 + 128]
  else if v ≤ 65535 then [v / 4096 % 16 + 224, v / 64 % 64 + 128, v % 64 + 128]
  else [v / 262144 % 8 + 240, v / 4096 % 64 + 128, v / 64 % 64 + 128, v % 64 + 128]

theorem map_utf8EncodeChar (c : Char) :
    (String.utf8EncodeChar c).map UInt8.toNat = encode c.toNat := by
  have hbyte {n : Nat} (h : n < 256) : (UInt8.ofNat n).toNat = n := UInt8.toNat_ofNat_of_lt' h
  rw [String.utf8EncodeChar, encode, Char.toNat]
  split_ifs with h1 h2 h3 <;> simp only [List.map_cons, List.map_nil]
  · rw [hbyte (by omega)]
  · rw [hbyte (by omega), hbyte (by omega)]
  · rw [hbyte (by omega), hbyte (by omega), hbyte (by omega)]
  · rw [hbyte (by omega), hbyte (by omega), hbyte (by omega), hbyte (by omega)]

theorem numbers_eq (s : Text) : numbers s = s.flatMap fun c => encode c.toNat := by
  have hbytes : (ofText s).data.toList = s.flatMap String.utf8EncodeChar := by
    simp [ofText, List.utf8Encode]
  rw [numbers, hbytes, List.map_flatMap]
  exact List.flatMap_congr fun c _ => map_utf8EncodeChar c

theorem digits_lt {a b c d e f g i : Nat} (hb : b < 64) (hc : c < 64) (hd : d < 64) (hf : f < 64)
    (hg : g < 64) (hi : i < 64)
    (h : ((a * 64 + b) * 64 + c) * 64 + d < ((e * 64 + f) * 64 + g) * 64 + i) :
    a < e ∨ a = e ∧ (b < f ∨ b = f ∧ (c < g ∨ c = g ∧ d < i)) := by
  omega

/-- A smaller character has smaller bytes, whatever follows. -/
theorem encode_append_lt {v w : Nat} (h : v < w) (hw : w < 1114112) (front back : List Nat) :
    encode v ++ front < encode w ++ back := by
  unfold encode
  -- the first byte tells how many follow, and a longer form begins with a greater byte
  split_ifs <;> simp only [List.cons_append, List.nil_append, List.cons_lt_cons_iff]
  any_goals (left; omega)
  · have hbytes : v / 64 % 32 + 192 < w / 64 % 32 + 192 ∨
        v / 64 % 32 + 192 = w / 64 % 32 + 192 ∧ v % 64 + 128 < w % 64 + 128 := by
      omega
    exact hbytes.imp_right (.imp_right .inl)
  · have hbytes : v / 4096 % 16 + 224 < w / 4096 % 16 + 224 ∨
        v / 4096 % 16 + 224 = w / 4096 % 16 + 224 ∧
          (v / 64 % 64 + 128 < w / 64 % 64 + 128 ∨
            v / 64 % 64 + 128 = w / 64 % 64 + 128 ∧ v % 64 + 128 < w % 64 + 128) := by
      omega
    exact hbytes.imp_right (.imp_right (.imp_right (.imp_right .inl)))
  · have hdigits (n : Nat) (hn : n < 1114112) :
        ((n / 262144 % 8 * 64 + n / 4096 % 64) * 64 + n / 64 % 64) * 64 + n % 64 = n := by
      omega
    have hbytes := digits_lt (a := v / 262144 % 8) (e := w / 262144 % 8)
      (Nat.mod_lt (v / 4096) (by decide)) (Nat.mod_lt (v / 64) (by decide)) (Nat.mod_lt v (by decide))
      (Nat.mod_lt (w / 4096) (by decide)) (Nat.mod_lt (w / 64) (by decide)) (Nat.mod_lt w (by decide))
      (by rwa [hdigits v (h.trans hw), hdigits w hw])
    simp only [Nat.add_lt_add_iff_right, Nat.add_right_cancel_iff]
    exact hbytes.imp_right (.imp_right (.imp_right (.imp_right (.imp_right (.imp_right .inl)))))

theorem toNat_lt (c : Char) : c.toNat < 1114112 := by
  rcases c.valid with h | h
  · exact h.trans (by decide)
  · exact h.2

theorem numbers_lt {s t : Text} (h : s < t) : numbers s < numbers t := by
  rw [numbers_eq, numbers_eq]
  induction s generalizing t with
  | nil =>
      cases t with
      | nil => exact absurd h (lt_irrefl _)
      | cons d t =>
          rw [List.flatMap_nil, List.flatMap_cons]
          unfold encode
          split_ifs <;> exact List.nil_lt_cons _ _
  | cons c s ih =>
      cases t with
      | nil => cases h
      | cons d t =>
          rw [List.flatMap_cons, List.flatMap_cons]
          rcases List.cons_lt_cons_iff.mp h with hlt | ⟨rfl, hlt⟩
          · exact encode_append_lt hlt (toNat_lt d) _ _
          · exact List.Lex.append_left _ (ih hlt) _

/-- Texts are ordered by their bytes. -/
theorem numbers_lt_iff {s t : Text} : numbers s < numbers t ↔ s < t := by
  refine ⟨fun h => ?_, numbers_lt⟩
  rcases lt_trichotomy s t with hlt | rfl | hgt
  · exact hlt
  · exact absurd h (lt_irrefl _)
  · exact absurd h (lt_asymm (numbers_lt hgt))

end Bytes

end SkipChecks
