import BlockMachine.Proofs.Rounding

/-!
What a binary64 word stands for. Its three fields tell an infinity, no number at
all, a zero, or a number with its sign, bits and exponent. Words other than
those of no number are kept when they are unpacked and packed again, so a number
is known by its word.
-/

namespace BlockMachine.Number
open Float.Model Float.Model.UnpackedFloat

theorem isNegativeWord_iff (word : Nat) : isNegativeWord word = true ↔ word / 2 ^ 63 % 2 = 1 :=
  beq_iff_eq

def signOfWord (word : Nat) : UnpackedFloat.Sign :=
  if isNegativeWord word then .negative else .positive

/-- What a word stands for, by its three fields. -/
inductive Unpacks (word : Nat) : UnpackedFloat → Prop
  | infinity (last : word / 2 ^ 52 % 2 ^ 11 = 2047) (empty : word % 2 ^ 52 = 0) :
      Unpacks word (.infinity (signOfWord word))
  | notANumber (last : word / 2 ^ 52 % 2 ^ 11 = 2047) (nonempty : word % 2 ^ 52 ≠ 0) :
      Unpacks word .notANumber
  | zero (first : word / 2 ^ 52 % 2 ^ 11 = 0) (empty : word % 2 ^ 52 = 0) :
      Unpacks word (.zero (signOfWord word))
  | subnormal {m : Nat} {e : Int} {positive : 0 < m} (first : word / 2 ^ 52 % 2 ^ 11 = 0)
      (mantissa : m = word % 2 ^ 52) (exponent : e = -1074) :
      Unpacks word (.finite (signOfWord word) m e positive)
  | normal {m : Nat} {e : Int} {positive : 0 < m} (first : word / 2 ^ 52 % 2 ^ 11 ≠ 0)
      (last : word / 2 ^ 52 % 2 ^ 11 ≠ 2047) (mantissa : m = 2 ^ 52 + word % 2 ^ 52)
      (exponent : e = (word / 2 ^ 52 % 2 ^ 11 : Nat) - 1075) :
      Unpacks word (.finite (signOfWord word) m e positive)

theorem toNat_unpackMantissa (b : BitVec 64) :
    (@unpackMantissa .binary64 b).toNat = b.toNat % 2 ^ 52 := by
  simp [unpackMantissa, BitVec.extractLsb]

theorem toNat_unpackExponent (b : BitVec 64) :
    (@unpackExponent .binary64 b).toNat = b.toNat / 2 ^ 52 % 2 ^ 11 := by
  simp [unpackExponent, BitVec.extractLsb, Nat.shiftRight_eq_div_pow]

theorem toNat_unpackSign (b : BitVec 64) :
    (@unpackSign .binary64 b).toNat = b.toNat / 2 ^ 63 % 2 := by
  change (b.extractLsb 63 63).toNat = _
  simp [BitVec.extractLsb, Nat.shiftRight_eq_div_pow]

theorem ofBitVec_unpackSign (b : BitVec 64) :
    UnpackedFloat.Sign.ofBitVec (@unpackSign .binary64 b) = signOfWord b.toNat := by
  have field := toNat_unpackSign b
  unfold signOfWord UnpackedFloat.Sign.ofBitVec
  by_cases set : isNegativeWord b.toNat = true
  · rw [if_pos set, if_neg]
    intro clear
    rw [isNegativeWord_iff, ← field, clear] at set
    cases set
  · rw [if_neg set, if_pos]
    rw [isNegativeWord_iff, ← field] at set
    exact (BitVec.eq_zero_or_eq_one _).resolve_right fun one => set (by rw [one]; rfl)

theorem unpacks (b : BitVec 64) : Unpacks b.toNat (UnpackedFloat.unpack .binary64 b) := by
  have mantissa := toNat_unpackMantissa b
  have exponent := toNat_unpackExponent b
  have implicit : (1#1 ++ @unpackMantissa .binary64 b).toNat = 2 ^ 52 + b.toNat % 2 ^ 52 := by
    rw [BitVec.toNat_append, ← Nat.shiftLeft_add_eq_or_of_lt (BitVec.isLt _), mantissa]
    rfl
  have bias : Format.binary64.exponentBias = 1023 := rfl
  unfold UnpackedFloat.unpack
  dsimp only
  rw [ofBitVec_unpackSign]
  by_cases full : @unpackExponent .binary64 b = -1#11
  · have last : b.toNat / 2 ^ 52 % 2 ^ 11 = 2047 := by rw [← exponent, full]; rfl
    rw [if_pos full]
    by_cases none : @unpackMantissa .binary64 b = 0#52
    · rw [if_pos none]
      exact .infinity last (by rw [← mantissa, none]; rfl)
    · rw [if_neg none]
      exact .notANumber last fun zero => none (BitVec.toNat_inj.1 (by rw [mantissa, zero]; rfl))
  · have last : b.toNat / 2 ^ 52 % 2 ^ 11 ≠ 2047 := fun ones =>
      full (BitVec.toNat_inj.1 (by rw [exponent, ones]; rfl))
    rw [if_neg full]
    by_cases zero : @unpackExponent .binary64 b = 0#11
    · have first : b.toNat / 2 ^ 52 % 2 ^ 11 = 0 := by rw [← exponent, zero]; rfl
      rw [if_pos zero]
      by_cases none : @unpackMantissa .binary64 b = 0#52
      · rw [dif_pos none]
        exact .zero first (by rw [← mantissa, none]; rfl)
      · rw [dif_neg none]
        exact .subnormal first mantissa (by rw [exponent, first, bias]; rfl)
    · have first : b.toNat / 2 ^ 52 % 2 ^ 11 ≠ 0 := fun none =>
        zero (BitVec.toNat_inj.1 (by rw [exponent, none]; rfl))
      rw [if_neg zero]
      exact .normal first last implicit (by rw [exponent, bias]; rfl)

theorem unpacks_toBits (x : Float) : Unpacks x.toBits.toNat x.toModel.unpack :=
  unpacks x.toBits.toBitVec

theorem toNat_signOfWord (word : Nat) :
    (signOfWord word).toBitVec.toNat = word / 2 ^ 63 % 2 := by
  unfold signOfWord
  split
  · next set => exact ((isNegativeWord_iff word).1 set).symm
  · next clear =>
    rw [isNegativeWord_iff] at clear
    exact ((Nat.mod_two_eq_zero_or_one _).resolve_right clear).symm

theorem toNat_packComponents (sign : UnpackedFloat.Sign) (exponent : BitVec 11)
    (mantissa : BitVec 52) :
    (packComponents .binary64 sign exponent mantissa).toNat =
      sign.toBitVec.toNat * 2 ^ 63 + exponent.toNat * 2 ^ 52 + mantissa.toNat := by
  have mantissaBits : Format.binary64.mantissaBitsWithoutImplicit = 52 := rfl
  have exponentBits : Format.binary64.exponentBits = 11 := rfl
  unfold packComponents
  rw [BitVec.toNat_append, BitVec.toNat_append, ← Nat.shiftLeft_add_eq_or_of_lt mantissa.isLt,
    ← Nat.shiftLeft_add_eq_or_of_lt exponent.isLt, Nat.shiftLeft_eq, Nat.shiftLeft_eq]
  omega

theorem pack_finite (sign : UnpackedFloat.Sign) (m : Nat) (e : Int) (positive : 0 < m) :
    UnpackedFloat.pack .binary64 (.finite sign m e positive) =
      if 2 ^ 11 ≤ (e + (1023 : Nat) + (52 : Nat)).toNat + 1 then packedInfinity .binary64 sign
      else if m.log2 + 1 = 53 then
        packComponents .binary64 sign (BitVec.ofNat 11 (e + (1023 : Nat) + (52 : Nat)).toNat)
          (BitVec.ofNat 52 m)
      else packComponents .binary64 sign 0#11 (BitVec.ofNat 52 m) := rfl

/-- A word is packed again from what it stands for, unless that is no number. -/
theorem Unpacks.toNat_pack {word : Nat} {x : UnpackedFloat} (unpacks : Unpacks word x)
    (short : word < 2 ^ 64) (number : x ≠ .notANumber) :
    (UnpackedFloat.pack .binary64 x).toNat = word := by
  have sign := toNat_signOfWord word
  cases unpacks with
  | infinity last empty =>
    have full : (-1#11).toNat = 2047 := rfl
    change (packComponents .binary64 (signOfWord word) (-1#11) 0#52).toNat = word
    rw [toNat_packComponents, sign, full, BitVec.toNat_zero]
    omega
  | notANumber last nonempty => exact absurd rfl number
  | zero first empty =>
    change (packComponents .binary64 (signOfWord word) 0#11 0#52).toNat = word
    rw [toNat_packComponents, sign, BitVec.toNat_zero, BitVec.toNat_zero]
    omega
  | @subnormal m e positive first mantissa exponent =>
    have biased : (e + (1023 : Nat) + (52 : Nat)).toNat = 1 := by omega
    have few : m.log2 < 52 := (Nat.log2_lt (by omega)).2 (by omega)
    rw [pack_finite, biased, if_neg (by decide), if_neg (by omega), toNat_packComponents, sign,
      BitVec.toNat_ofNat, BitVec.toNat_ofNat]
    omega
  | @normal m e positive first last mantissa exponent =>
    have biased : (e + (1023 : Nat) + (52 : Nat)).toNat = word / 2 ^ 52 % 2 ^ 11 := by omega
    have many : 52 ≤ m.log2 := (Nat.le_log2 (by omega)).2 (by omega)
    have few : m.log2 < 53 := (Nat.log2_lt (by omega)).2 (by omega)
    rw [pack_finite, biased, if_neg (by omega), if_pos (by omega), toNat_packComponents, sign,
      BitVec.toNat_ofNat, BitVec.toNat_ofNat]
    omega

theorem toNat_toBits_ofWord {word : Nat} (bounded : word ≤ infinityWord) :
    (ofWord word).toBits.toNat = word := by
  have top := infinityWord_eq
  have kept : (UInt64.ofNat word).toBitVec.toNat = word := by
    rw [UInt64.toBitVec_ofNat', BitVec.toNat_ofNat]
    omega
  have stands := unpacks (UInt64.ofNat word).toBitVec
  rw [kept] at stands
  apply stands.toNat_pack (by omega)
  intro none
  rw [none] at stands
  cases stands with
  | notANumber last nonempty => omega

theorem eq_of_toNat_toBits {x y : Float} (same : x.toBits.toNat = y.toBits.toNat) : x = y := by
  obtain ⟨⟨word, valid⟩⟩ := x
  obtain ⟨⟨other, otherValid⟩⟩ := y
  have equal : word = other := UInt64.toNat_inj.1 same
  subst equal
  rfl

theorem isNegativeWord_eq_false_iff {word : Nat} (short : word < 2 ^ 64) :
    isNegativeWord word = false ↔ word < 2 ^ 63 := by
  rw [← Bool.not_eq_true, isNegativeWord_iff]
  omega

theorem signOfWord_eq_positive_iff {word : Nat} (short : word < 2 ^ 64) :
    signOfWord word = .positive ↔ word < 2 ^ 63 := by
  rw [← isNegativeWord_eq_false_iff short, signOfWord]
  cases isNegativeWord word with
  | false => simp
  | true => simp

theorem unpack_eq_infinity_iff (x : Float) :
    x.toModel.unpack = .infinity .positive ↔ x.toBits.toNat = infinityWord := by
  have top := infinityWord_eq
  have stands := unpacks_toBits x
  constructor
  · intro infinite
    rw [infinite] at stands
    generalize unsigned : UnpackedFloat.Sign.positive = sign at stands
    cases stands with
    | infinity last empty =>
      have clear := (signOfWord_eq_positive_iff x.toBits.toNat_lt).1 unsigned.symm
      omega
  · intro last
    rw [last] at stands
    generalize x.toModel.unpack = y at stands
    cases stands with
    | infinity last empty => rfl
    | notANumber last nonempty => omega
    | zero first empty => omega
    | subnormal first mantissa exponent => omega
    | normal first last mantissa exponent => omega

end BlockMachine.Number
