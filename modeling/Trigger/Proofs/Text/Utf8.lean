import Trigger.Text.Utf8

/-!
# Texts as bytes

The bytes of a text in UTF-8 are well-formed and stand for the text: a character is read back from
its bytes whatever comes behind them, so both ways of reading bytes give the text back.
-/

namespace Trigger.Text

/-- The bytes of a text. -/
def encode (s : List Char) : List UInt8 := s.flatMap String.utf8EncodeChar

/-- A byte between two bounds, as a number. -/
theorem toNat_ofNat_of_lt {n : Nat} (hn : n < 256) : (UInt8.ofNat n).toNat = n := by
  rw [UInt8.toNat_ofNat']
  exact Nat.mod_eq_of_lt hn

/-- A byte that continues a character adds its bits to the code. -/
theorem continueCode_cons {more low high code n : Nat} (rest : List UInt8) (hn : n < 256)
    (hrange : low ≤ n ∧ n ≤ high) :
    continueCode (more + 1) low high code (UInt8.ofNat n :: rest) =
      ((continueCode more 0x80 0xBF (code * 64 + n % 64) rest).1,
        (continueCode more 0x80 0xBF (code * 64 + n % 64) rest).2 + 1) := by
  rw [continueCode, toNat_ofNat_of_lt hn, if_pos hrange]

/-- The first of three bytes, with the second in its range. -/
theorem exists_leadByte?_three {v : Nat} (hlow : 0x800 ≤ v) (hhigh : v < 0x10000)
    (hvalid : v < 0xD800 ∨ 0xDFFF < v) :
    ∃ low high, leadByte? (v / 4096 % 16 + 224) = some (2, low, high) ∧
      low ≤ v / 64 % 64 + 128 ∧ v / 64 % 64 + 128 ≤ high := by
  rw [leadByte?, if_neg (by omega), if_neg (by omega)]
  by_cases hfirst : v / 4096 % 16 + 224 = 0xE0
  · exact ⟨0xA0, 0xBF, by rw [if_pos hfirst], by omega, by omega⟩
  rw [if_neg hfirst]
  by_cases hlast : v / 4096 % 16 + 224 = 0xED
  · exact ⟨0x80, 0x9F, by rw [if_pos hlast], by omega, by omega⟩
  rw [if_neg hlast, if_pos (by omega)]
  exact ⟨0x80, 0xBF, rfl, by omega, by omega⟩

/-- The first of four bytes, with the second in its range. -/
theorem exists_leadByte?_four {v : Nat} (hlow : 0x10000 ≤ v) (hhigh : v < 0x110000) :
    ∃ low high, leadByte? (v / 262144 % 8 + 240) = some (3, low, high) ∧
      low ≤ v / 4096 % 64 + 128 ∧ v / 4096 % 64 + 128 ≤ high := by
  rw [leadByte?, if_neg (by omega), if_neg (by omega), if_neg (by omega), if_neg (by omega),
    if_neg (by omega)]
  by_cases hfirst : v / 262144 % 8 + 240 = 0xF0
  · exact ⟨0x90, 0xBF, by rw [if_pos hfirst], by omega, by omega⟩
  rw [if_neg hfirst]
  by_cases hmiddle : v / 262144 % 8 + 240 < 0xF4
  · exact ⟨0x80, 0xBF, by rw [if_pos hmiddle], by omega, by omega⟩
  rw [if_neg hmiddle, if_pos (by omega)]
  exact ⟨0x80, 0x8F, rfl, by omega, by omega⟩

/-- A code of two bytes is read back. -/
theorem readCode_two {v : Nat} (hlow : 0x80 ≤ v) (hhigh : v < 0x800) (rest : List UInt8) :
    readCode (UInt8.ofNat (v / 64 % 32 + 192)) (UInt8.ofNat (v % 64 + 128) :: rest) =
      (some (Char.ofNat v), 1) := by
  have hlead : leadByte? (v / 64 % 32 + 192) = some (1, 0x80, 0xBF) := by
    rw [leadByte?, if_neg (by omega), if_pos (by omega)]
  have hcode : (v / 64 % 32 + 192) % 32 * 64 + (v % 64 + 128) % 64 = v := by omega
  rw [readCode, toNat_ofNat_of_lt (by omega), if_neg (by omega), hlead]
  dsimp only
  rw [if_pos rfl, continueCode_cons _ (by omega) (by omega), hcode]
  rfl

/-- A code of three bytes is read back. -/
theorem readCode_three {v : Nat} (hlow : 0x800 ≤ v) (hhigh : v < 0x10000)
    (hvalid : v < 0xD800 ∨ 0xDFFF < v) (rest : List UInt8) :
    readCode (UInt8.ofNat (v / 4096 % 16 + 224))
        (UInt8.ofNat (v / 64 % 64 + 128) :: UInt8.ofNat (v % 64 + 128) :: rest) =
      (some (Char.ofNat v), 2) := by
  obtain ⟨low, high, hlead, hrange⟩ := exists_leadByte?_three hlow hhigh hvalid
  have hcode : ((v / 4096 % 16 + 224) % 16 * 64 + (v / 64 % 64 + 128) % 64) * 64 +
      (v % 64 + 128) % 64 = v := by omega
  rw [readCode, toNat_ofNat_of_lt (by omega), if_neg (by omega), hlead]
  dsimp only
  rw [if_neg (by decide), if_pos rfl, continueCode_cons _ (by omega) hrange,
    continueCode_cons _ (by omega) (by omega), hcode]
  rfl

/-- A code of four bytes is read back. -/
theorem readCode_four {v : Nat} (hlow : 0x10000 ≤ v) (hhigh : v < 0x110000) (rest : List UInt8) :
    readCode (UInt8.ofNat (v / 262144 % 8 + 240))
        (UInt8.ofNat (v / 4096 % 64 + 128) :: UInt8.ofNat (v / 64 % 64 + 128) ::
          UInt8.ofNat (v % 64 + 128) :: rest) =
      (some (Char.ofNat v), 3) := by
  obtain ⟨low, high, hlead, hrange⟩ := exists_leadByte?_four hlow hhigh
  have hcode : (((v / 262144 % 8 + 240) % 8 * 64 + (v / 4096 % 64 + 128) % 64) * 64 +
      (v / 64 % 64 + 128) % 64) * 64 + (v % 64 + 128) % 64 = v := by omega
  rw [readCode, toNat_ofNat_of_lt (by omega), if_neg (by omega), hlead]
  dsimp only
  rw [if_neg (by decide), if_neg (by decide), continueCode_cons _ (by omega) hrange,
    continueCode_cons _ (by omega) (by omega), continueCode_cons _ (by omega) (by omega), hcode]
  rfl

/-- A character is read back from its bytes. -/
theorem exists_readCode (c : Char) (rest : List UInt8) :
    ∃ b bs, String.utf8EncodeChar c = b :: bs ∧ readCode b (bs ++ rest) = (some c, bs.length) := by
  obtain ⟨v, hv⟩ : ∃ v, v = c.toNat := ⟨_, rfl⟩
  have hchar : Char.ofNat v = c := by rw [hv, Char.ofNat_toNat]
  have hvalid : v < 0xD800 ∨ 0xDFFF < v ∧ v < 0x110000 := hv ▸ c.valid
  have hval : c.val.toNat = v := hv.symm
  rw [String.utf8EncodeChar, hval, ← hchar]
  by_cases hone : v ≤ 127
  · refine ⟨UInt8.ofNat v, [], if_pos hone, ?_⟩
    rw [readCode, toNat_ofNat_of_lt (by omega), if_pos (by omega)]
    rfl
  rw [if_neg hone]
  by_cases htwo : v ≤ 2047
  · exact ⟨_, _, if_pos htwo, readCode_two (by omega) (by omega) rest⟩
  rw [if_neg htwo]
  by_cases hthree : v ≤ 65535
  · exact ⟨_, _, if_pos hthree, readCode_three (by omega) (by omega) (by omega) rest⟩
  · exact ⟨_, _, if_neg hthree, readCode_four (by omega) (by omega) rest⟩

/-- The bytes of a text stand for its characters. -/
theorem codes_encode (s : List Char) : codes (encode s) = s.map some := by
  induction s with
  | nil => rw [encode, List.flatMap_nil, codes, List.map_nil]
  | cons c s ih =>
    obtain ⟨b, bs, hbytes, hread⟩ := exists_readCode c (encode s)
    have hsplit : encode (c :: s) = b :: (bs ++ encode s) := by
      rw [encode, List.flatMap_cons, hbytes]
      rfl
    rw [hsplit, codes, hread]
    dsimp only
    rw [List.drop_left, ih, List.map_cons]

/-- The bytes of a text are well-formed. -/
theorem decode?_encode (s : List Char) : decode? (encode s) = some s := by
  rw [decode?, codes_encode]
  induction s with
  | nil => rfl
  | cons c s ih => simp [ih]

/-- Nothing in the bytes of a text is replaced. -/
theorem decodeLossy_encode (s : List Char) : decodeLossy (encode s) = s := by
  rw [decodeLossy, codes_encode, List.map_map]
  exact List.map_id s

end Trigger.Text
