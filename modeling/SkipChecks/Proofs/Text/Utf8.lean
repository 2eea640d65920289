import SkipChecks.Proofs.Text.ByteOrder

/-!
# The characters in the bytes of a text

Bytes are cut into the characters they hold and damaged stretches. The bytes of a text hold its
characters and nothing damaged: the first byte of a character tells how many are to come, and the
next one keeps within the bounds that it sets.
-/

namespace SkipChecks.Bytes

/-! ## Sequences of bytes -/

theorem toList_loop (bytes : ByteArray) (i : Nat) (read : List UInt8) :
    ByteArray.toList.loop bytes i read = read.reverse ++ bytes.data.toList.drop i := by
  fun_induction ByteArray.toList.loop bytes i read with
  | case1 i read hin ih =>
      have hdata : i < bytes.data.toList.length := hin
      have hget : bytes.get! i = bytes.data.toList[i] := by
        rw [Array.getElem_toList]
        exact getElem!_pos bytes.data i hin
      rw [ih, List.drop_eq_getElem_cons hdata, hget]
      simp
  | case2 i read hout =>
      have hdata : bytes.data.toList.length ≤ i := Nat.le_of_not_lt hout
      rw [List.drop_of_length_le hdata, List.append_nil]

theorem toList_eq (bytes : Bytes) : bytes.toList = bytes.data.toList := toList_loop bytes 0 []

theorem toList_ofText (s : Text) : (ofText s).toList = s.flatMap String.utf8EncodeChar := by
  rw [toList_eq]
  simp [ofText, List.utf8Encode]

section Sequences

variable {n missing bits : Nat} (least greatest : Nat) (bytes : List UInt8)

theorem ofNat_le_ofNat {m n : Nat} (hm : m < 256) (hn : n < 256) :
    UInt8.ofNat m ≤ UInt8.ofNat n ↔ m ≤ n := by
  rw [UInt8.le_iff_toNat_le, UInt8.toNat_ofNat_of_lt' hm, UInt8.toNat_ofNat_of_lt' hn]

theorem fits {least greatest : Nat} (hleast : least ≤ n) (hgreatest : n ≤ greatest)
    (hlt : greatest < 256) :
    (UInt8.ofNat least ≤ .ofNat n && UInt8.ofNat n ≤ .ofNat greatest) = true := by
  have hn : n < 256 := hgreatest.trans_lt hlt
  simp [ofNat_le_ofNat (hleast.trans_lt hn) hn, ofNat_le_ofNat hn hlt, hleast, hgreatest]

/-- A byte that goes on with a sequence. -/
theorem pieces_further (hleast : least ≤ n) (hgreatest : n ≤ greatest) (hlt : greatest < 256) :
    pieces (some ⟨missing + 2, .ofNat least, .ofNat greatest, bits⟩) (.ofNat n :: bytes) =
      pieces (some ⟨missing + 1, .ofNat 0x80, .ofNat 0xbf, bits * 64 + (n - 0x80)⟩) bytes := by
  rw [pieces, if_pos (fits hleast hgreatest hlt),
    UInt8.toNat_ofNat_of_lt' (hgreatest.trans_lt hlt)]
  rfl

/-- A byte that completes a sequence. -/
theorem pieces_last (hleast : least ≤ n) (hgreatest : n ≤ greatest) (hlt : greatest < 256) :
    pieces (some ⟨1, .ofNat least, .ofNat greatest, bits⟩) (.ofNat n :: bytes) =
      some (Char.ofNat (bits * 64 + (n - 0x80))) :: pieces none bytes := by
  rw [pieces, if_pos (fits hleast hgreatest hlt),
    UInt8.toNat_ofNat_of_lt' (hgreatest.trans_lt hlt)]
  rfl

theorem pieces_begin {length : Nat} {first last : UInt8} (hn : 128 ≤ n) (hlt : n < 256)
    (h : lead? (.ofNat n) = some (length, first, last, bits)) :
    pieces none (.ofNat n :: bytes) = pieces (some ⟨length - 1, first, last, bits⟩) bytes := by
  have hlarge : ¬ UInt8.ofNat n < 0x80 := by
    rw [UInt8.not_lt]
    exact (ofNat_le_ofNat (by decide) hlt).mpr hn
  rw [pieces, pieces.start, if_neg hlarge, h]

theorem lead?_two : ∀ k < 30,
    lead? (.ofNat (k + 194)) = some (2, .ofNat 0x80, .ofNat 0xbf, k + 2) := by
  decide

theorem lead?_three : ∀ k < 16, lead? (.ofNat (k + 224)) =
    some (3, .ofNat (if k = 0 then 0xa0 else 0x80), .ofNat (if k = 13 then 0x9f else 0xbf), k) := by
  decide

theorem lead?_four : ∀ k < 5, lead? (.ofNat (k + 240)) =
    some (4, .ofNat (if k = 0 then 0x90 else 0x80), .ofNat (if k = 4 then 0x8f else 0xbf), k) := by
  decide

end Sequences

/-- What encodes a character is cut off as that character, whatever follows. -/
theorem pieces_utf8EncodeChar (c : Char) (bytes : List UInt8) :
    pieces none (String.utf8EncodeChar c ++ bytes) = some c :: pieces none bytes := by
  have hvalid : c.toNat < 0xd800 ∨ 0xdfff < c.toNat ∧ c.toNat < 0x110000 := c.valid
  have hc (n : Nat) (h : n = c.toNat) : some (Char.ofNat n) = some c := by rw [h, Char.ofNat_toNat]
  have hv : c.val.toNat = c.toNat := rfl
  rw [String.utf8EncodeChar, hv]
  generalize c.toNat = v at *
  split_ifs with h1 h2 h3
  · have hlt : v < UInt8.size := Nat.lt_of_le_of_lt h1 (by decide)
    have hsmall : UInt8.ofNat v < 0x80 := by
      rw [UInt8.lt_iff_toNat_lt, UInt8.toNat_ofNat_of_lt' hlt]
      exact Nat.lt_of_le_pred (by decide) h1
    rw [List.singleton_append, pieces, pieces.start, if_pos hsmall, hc]
    exact UInt8.toNat_ofNat_of_lt' hlt
  · have hfirst : v / 64 % 32 + 192 = v / 64 - 2 + 194 := by omega
    have hlead := lead?_two (v / 64 - 2) (by omega)
    rw [hfirst, List.cons_append, List.singleton_append, pieces_begin _ (by omega) (by omega) hlead,
      pieces_last _ _ _ (by omega) (by omega) (by decide), hc _ (by omega)]
  · have hfirst : v / 4096 % 16 + 224 = v / 4096 + 224 := by omega
    have hlead := lead?_three (v / 4096) (by omega)
    rw [hfirst, List.cons_append, List.cons_append, List.singleton_append,
      pieces_begin _ (by omega) (by omega) hlead,
      pieces_further _ _ _ (by split <;> omega) (by split <;> omega) (by split <;> omega),
      pieces_last _ _ _ (by omega) (by omega) (by decide), hc _ (by omega)]
  · have hfirst : v / 262144 % 8 + 240 = v / 262144 + 240 := by omega
    have hlead := lead?_four (v / 262144) (by omega)
    rw [hfirst, List.cons_append, List.cons_append, List.cons_append, List.singleton_append,
      pieces_begin _ (by omega) (by omega) hlead,
      pieces_further _ _ _ (by split <;> omega) (by split <;> omega) (by split <;> omega),
      pieces_further _ _ _ (by omega) (by omega) (by decide),
      pieces_last _ _ _ (by omega) (by omega) (by decide), hc _ (by omega)]

theorem pieces_encoded_append (s : Text) (bytes : List UInt8) :
    pieces none (s.flatMap String.utf8EncodeChar ++ bytes) = s.map some ++ pieces none bytes := by
  induction s with
  | nil => rfl
  | cons c s ih =>
      rw [List.flatMap_cons, List.append_assoc, pieces_utf8EncodeChar, ih, List.map_cons,
        List.cons_append]

/-- The characters in the UTF-8 form of a text are its own, and nothing in it is damaged. -/
theorem pieces_ofText (s : Text) : pieces none (ofText s).toList = s.map some := by
  have h := pieces_encoded_append s []
  rwa [List.append_nil, pieces, List.append_nil, ← toList_ofText] at h

/-- A byte between two texts that begins no character is damage by itself. -/
theorem pieces_ofText_between {b : UInt8} (hlarge : ¬ b < 0x80) (hlead : lead? b = none)
    (front back : Text) :
    pieces none (ofText front ++ ⟨#[b]⟩ ++ ofText back).toList =
      front.map some ++ none :: back.map some := by
  have hbytes : (ofText front ++ ⟨#[b]⟩ ++ ofText back).toList =
      (ofText front).toList ++ b :: (ofText back).toList := by
    simp [toList_eq]
  rw [hbytes, toList_ofText front, pieces_encoded_append, pieces, pieces.start, if_neg hlarge,
    hlead, pieces_ofText]

end SkipChecks.Bytes
