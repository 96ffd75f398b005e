import Mathlib
import Trigger.Decimal.Exact

/-!
# The parts of a number

The bits of a number are those of its sign, of its exponent and of its mantissa. A finite number
other than zero is unpacked into the sign, mantissa and exponent of its magnitude, and packed again
it is the same number.
-/

namespace Trigger.Decimal

open Float.Model
open Float.Model.UnpackedFloat

variable {x : Float} {s : Sign} {m : Nat} {e : Int}

/-- The mantissa and the exponent of a finite number other than zero, if the exponent is not too
great. The mantissa has 53 digits, or fewer with the least exponent. -/
structure Canonical (m : Nat) (e : Int) : Prop where
  pos : 0 < m
  lt : m < 2 ^ 53
  least : -1074 ≤ e
  full : 2 ^ 52 ≤ m ∨ e = -1074

/-! ## Unpacking -/

/-- The bits of the mantissa. -/
theorem toNat_unpackMantissa (b : UInt64) :
    (@unpackMantissa Format.binary64 b.toBitVec).toNat = b.toNat % 2 ^ 52 := by
  rw [unpackMantissa_def, BitVec.extractLsb'_toNat, Nat.shiftRight_zero]
  rfl

/-- The bits of the exponent. -/
theorem toNat_unpackExponent (b : UInt64) :
    (@unpackExponent Format.binary64 b.toBitVec).toNat = b.toNat / 2 ^ 52 % 2 ^ 11 := by
  rw [unpackExponent_def, BitVec.extractLsb'_toNat, Nat.shiftRight_eq_div_pow]
  rfl

/-- The bit of the sign. -/
theorem toNat_unpackSign (b : UInt64) :
    (@unpackSign Format.binary64 b.toBitVec).toNat = b.toNat / 2 ^ 63 := by
  have hlt := b.toNat_lt
  have hbit : b.toNat / 2 ^ 63 < 2 := by omega
  rw [unpackSign_def, BitVec.extractLsb'_toNat, Nat.shiftRight_eq_div_pow]
  exact Nat.mod_eq_of_lt hbit

/-- The sign is that of the greatest bit. -/
theorem ofBitVec_unpackSign (b : UInt64) :
    Sign.ofBitVec (@unpackSign Format.binary64 b.toBitVec) =
      if 2 ^ 63 ≤ b.toNat then .negative else .positive := by
  have hbit : @unpackSign Format.binary64 b.toBitVec = 0#1 ↔ ¬2 ^ 63 ≤ b.toNat := by
    rw [← BitVec.toNat_inj, toNat_unpackSign, BitVec.toNat_zero]
    omega
  unfold Sign.ofBitVec
  split <;> simp_all

/-- A mantissa behind the bit that is left out. -/
theorem toNat_implicit_append (v : BitVec 52) : (1#1 ++ v).toNat = 2 ^ 52 + v.toNat := by
  rw [BitVec.toNat_append, ← Nat.shiftLeft_add_eq_or_of_lt v.isLt]
  rfl

/-- What bits are unpacked into, by their sign, their exponent and their mantissa. -/
theorem unpack_eq (b : UInt64) (sign : Sign) (biased fraction : Nat)
    (hsign : sign = if 2 ^ 63 ≤ b.toNat then .negative else .positive)
    (hbiased : biased = b.toNat / 2 ^ 52 % 2 ^ 11) (hfraction : fraction = b.toNat % 2 ^ 52) :
    UnpackedFloat.unpack Format.binary64 b.toBitVec =
      if biased = 2047 then if fraction = 0 then .infinity sign else .notANumber
      else if biased = 0 then
        if h : fraction = 0 then .zero sign
        else .finite sign fraction (-1074) (Nat.pos_of_ne_zero h)
      else .finite sign (2 ^ 52 + fraction) ((biased : Int) - 1075) (by omega) := by
  have hmantissa := toNat_unpackMantissa b
  have hexponent := toNat_unpackExponent b
  rw [← hfraction] at hmantissa
  rw [← hbiased] at hexponent
  have hfull : @unpackExponent Format.binary64 b.toBitVec = -1#11 ↔ biased = 2047 := by
    rw [← BitVec.toNat_inj, hexponent]
    rfl
  have hnone : @unpackExponent Format.binary64 b.toBitVec = 0#11 ↔ biased = 0 := by
    rw [← BitVec.toNat_inj, hexponent]
    rfl
  have hzero : @unpackMantissa Format.binary64 b.toBitVec = 0#52 ↔ fraction = 0 := by
    rw [← BitVec.toNat_inj, hmantissa]
    rfl
  have hbias : (Format.binary64.exponentBias : Int) = 1023 := rfl
  simp only [UnpackedFloat.unpack, ofBitVec_unpackSign, toNat_implicit_append, hfull, hnone, hzero,
    hmantissa, hexponent, ← hsign, hbias]
  by_cases hinfinite : biased = 2047
  · simp [hinfinite]
  by_cases hsmall : biased = 0
  · simp [hsmall]
  · simp [hinfinite, hsmall]

/-- The parts of a number that is finite and not zero are those of its magnitude. -/
theorem magnitude_of_unpack {hm : 0 < m} (h : x.toModel.unpack = .finite s m e hm) :
    ((magnitude x).mantissa = m ∧ (magnitude x).exponent = e) ∧
      (isNegative x = true ↔ s = .negative) ∧ Canonical m e ∧ e ≤ 971 := by
  obtain ⟨sign, hsign⟩ : ∃ a, a = if 2 ^ 63 ≤ x.toBits.toNat then Sign.negative else .positive :=
    ⟨_, rfl⟩
  obtain ⟨biased, hbiased⟩ : ∃ n, n = x.toBits.toNat / 2 ^ 52 % 2 ^ 11 := ⟨_, rfl⟩
  obtain ⟨fraction, hfraction⟩ : ∃ n, n = x.toBits.toNat % 2 ^ 52 := ⟨_, rfl⟩
  have hnegative : isNegative x = true ↔ sign = .negative := by
    rw [hsign, isNegative, Nat.pow_eq, decide_eq_true_eq]
    split <;> simp_all
  have hparts : magnitude x = if biased = 0 then ⟨fraction, -1074, false⟩
      else ⟨2 ^ 52 + fraction, (biased : Int) - 1075, fraction = 0 ∧ 1 < biased⟩ := by
    rw [hbiased, hfraction]
    rfl
  have hlt : fraction < 2 ^ 52 := hfraction ▸ Nat.mod_lt _ (by decide)
  have hwidth : biased < 2 ^ 11 := hbiased ▸ Nat.mod_lt _ (by decide)
  rw [Float.Model.unpack] at h
  rw [unpack_eq x.toModel.toBits sign biased fraction hsign hbiased hfraction] at h
  rw [hparts, hnegative]
  by_cases hinfinite : biased = 2047
  · simp only [hinfinite, if_true] at h
    split at h <;> cases h
  rw [if_neg hinfinite] at h
  by_cases hsmall : biased = 0
  · rw [if_pos hsmall] at h ⊢
    split at h
    · cases h
    · cases h
      exact ⟨⟨rfl, rfl⟩, Iff.rfl, ⟨hm, by omega, by omega, .inr rfl⟩, by omega⟩
  · rw [if_neg hsmall] at h ⊢
    cases h
    exact ⟨⟨rfl, rfl⟩, Iff.rfl, ⟨hm, by omega, by omega, .inl (by omega)⟩, by omega⟩

/-! ## Packing -/

/-- What parts that were put together are unpacked into. -/
theorem unpack_packComponents (s : Sign) (e : BitVec 11) (m : BitVec 52) :
    UnpackedFloat.unpack Format.binary64 (packComponents Format.binary64 s e m) =
      if e = -1#11 then if m = 0#52 then .infinity s else .notANumber
      else if e = 0#11 then
        if h : m = 0#52 then .zero s
        else .finite s m.toNat (-1074) (by simpa [BitVec.toNat_pos, BitVec.pos_iff_ne_zero])
      else .finite s (2 ^ 52 + m.toNat) ((e.toNat : Int) - 1075) (by omega) := by
  have hbias : (Format.binary64.exponentBias : Int) = 1023 := rfl
  simp only [UnpackedFloat.unpack, unpackExponent_packComponents, unpackMantissa_packComponents,
    unpackSign_packComponents, Sign.ofBitVec_toBitVec, toNat_implicit_append, hbias]
  by_cases hfull : e = -1#11
  · simp [hfull]
  by_cases hnone : e = 0#11
  · simp [hnone]
  · simp [hnone]

/-- Too great an exponent is packed into an infinity. -/
theorem unpack_pack_of_lt {hm : 0 < m} (he : 971 < e) :
    (pack (.finite s m e hm)).unpack = .infinity s := by
  have hbiased : 2 ^ 11 ≤ (e + 1023 + 52).toNat + 1 := by omega
  have hpack : UnpackedFloat.pack Format.binary64 (.finite s m e hm) =
      packedInfinity Format.binary64 s := if_pos hbiased
  change UnpackedFloat.unpack Format.binary64 (UnpackedFloat.pack Format.binary64 _) = _
  rw [hpack, packedInfinity, unpack_packComponents]
  rfl

/-- A mantissa of 53 digits is packed without the first one, and without loss. -/
theorem unpack_pack_of_full {hm : 0 < m} (hfull : 2 ^ 52 ≤ m) (hlt : m < 2 ^ 53)
    (hleast : -1074 ≤ e) (he : e ≤ 971) :
    (pack (.finite s m e hm)).unpack = .finite s m e hm := by
  have hbiased : ¬2 ^ 11 ≤ (e + 1023 + 52).toNat + 1 := by omega
  have hlog : m.log2 + 1 = 53 := by
    rw [(Nat.log2_eq_iff (Nat.ne_of_gt hm)).mpr ⟨hfull, hlt⟩]
  have hpack : UnpackedFloat.pack Format.binary64 (.finite s m e hm) =
      packComponents Format.binary64 s (BitVec.ofNat 11 (e + 1023 + 52).toNat)
        (BitVec.ofNat 52 m) := (if_neg hbiased).trans (if_pos hlog)
  have hexponent : (BitVec.ofNat 11 (e + 1023 + 52).toNat).toNat = (e + 1023 + 52).toNat := by
    rw [BitVec.toNat_ofNat, Nat.mod_eq_of_lt (by omega)]
  have hmantissa : 2 ^ 52 + (BitVec.ofNat 52 m).toNat = m := by
    rw [BitVec.toNat_ofNat, Nat.mod_eq_sub_mod hfull, Nat.mod_eq_of_lt (by omega)]
    omega
  change UnpackedFloat.unpack Format.binary64 (UnpackedFloat.pack Format.binary64 _) = _
  rw [hpack, unpack_packComponents, if_neg, if_neg]
  · simp only [hexponent, hmantissa]
    congr 1
    omega
  · rw [← BitVec.toNat_inj, hexponent, BitVec.toNat_zero]
    omega
  · rw [← BitVec.toNat_inj, hexponent]
    change (e + 1023 + 52).toNat ≠ 2047
    omega

/-- A shorter mantissa is packed as it is, with the least exponent. -/
theorem unpack_pack_of_short {hm : 0 < m} (hlt : m < 2 ^ 52) (he : e = -1074) :
    (pack (.finite s m e hm)).unpack = .finite s m e hm := by
  have hbiased : ¬2 ^ 11 ≤ (e + 1023 + 52).toNat + 1 := by omega
  have hlog : ¬m.log2 + 1 = 53 := by
    have hlog := (Nat.log2_lt (Nat.ne_of_gt hm)).mpr hlt
    omega
  have hpack : UnpackedFloat.pack Format.binary64 (.finite s m e hm) =
      packComponents Format.binary64 s 0#11 (BitVec.ofNat 52 m) :=
    (if_neg hbiased).trans (if_neg hlog)
  have hmantissa : (BitVec.ofNat 52 m).toNat = m := by
    rw [BitVec.toNat_ofNat, Nat.mod_eq_of_lt hlt]
  have hzero : BitVec.ofNat 52 m ≠ 0#52 := by
    rw [ne_eq, ← BitVec.toNat_inj, hmantissa, BitVec.toNat_zero]
    exact Nat.ne_of_gt hm
  subst he
  change UnpackedFloat.unpack Format.binary64 (UnpackedFloat.pack Format.binary64 _) = _
  rw [hpack, unpack_packComponents, if_neg (by decide), if_pos rfl, dif_neg hzero]
  simp only [hmantissa]

/-- A canonical number is packed without loss. -/
theorem unpack_pack {hm : 0 < m} (h : Canonical m e) (he : e ≤ 971) :
    (pack (.finite s m e hm)).unpack = .finite s m e hm := by
  by_cases hfull : 2 ^ 52 ≤ m
  · exact unpack_pack_of_full hfull h.lt h.least he
  · exact unpack_pack_of_short (Nat.lt_of_not_le hfull) (h.full.resolve_left hfull)

end Trigger.Decimal
