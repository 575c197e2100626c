import Mathlib.Algebra.GroupWithZero.Nat
import BuildBench.Decimal.Binary

/-!
# The bits of a float

A float is read off its bits here, and the operations on floats go through a reading of their own,
which keeps zero apart. The two readings agree, and what is written as bits is read again as it was.
-/

namespace BuildBench.Decimal

open Float.Model Float.Model.UnpackedFloat

/-- What the reading behind the operations says, said as it is here. -/
def Binary.ofUnpacked : UnpackedFloat → Binary
  | .finite sign mantissa exponent _ => .finite (sign == .negative) mantissa exponent
  | .zero sign => .finite (sign == .negative) 0 (-1074)
  | .infinity sign => .infinite (sign == .negative)
  | .notANumber => .notANumber

/-! ## The three fields -/

section Fields

variable (v : BitVec 64)

/-- The mantissa is the lowest 52 bits. -/
theorem unpackMantissa_toNat :
    (@unpackMantissa Format.binary64 v).toNat = v.toNat % 2 ^ 52 := by
  simp [unpackMantissa, BitVec.extractLsb]

/-- The exponent is the next eleven bits. -/
theorem unpackExponent_toNat :
    (@unpackExponent Format.binary64 v).toNat = v.toNat / 2 ^ 52 % 2 ^ 11 := by
  simp [unpackExponent, BitVec.extractLsb, Nat.shiftRight_eq_div_pow]

/-- The sign is the highest bit. -/
theorem unpackSign_negative :
    (Sign.ofBitVec (@unpackSign Format.binary64 v) == .negative) = decide (2 ^ 63 ≤ v.toNat) := by
  have bound := v.isLt
  have field : (@unpackSign Format.binary64 v).toNat = v.toNat / 2 ^ 63 := by
    change (BitVec.extractLsb 63 63 v).toNat = _
    simp [BitVec.extractLsb, Nat.shiftRight_eq_div_pow]
    omega
  by_cases high : 2 ^ 63 ≤ v.toNat
  · have one : @unpackSign Format.binary64 v = 1#1 := by
      apply BitVec.eq_of_toNat_eq
      rw [field]
      simp
      omega
    rw [one, decide_eq_true high]
    rfl
  · have zero : @unpackSign Format.binary64 v = 0#1 := by
      apply BitVec.eq_of_toNat_eq
      rw [field]
      simp
      omega
    rw [zero, decide_eq_false high]
    rfl

end Fields

/-- Bits in front count for more. -/
theorem append_toNat {width more : Nat} (v : BitVec width) (w : BitVec more) :
    (v ++ w).toNat = v.toNat * 2 ^ more + w.toNat := by
  rw [BitVec.toNat_append, ← Nat.shiftLeft_add_eq_or_of_lt w.isLt, Nat.shiftLeft_eq]

/-! ## Reading -/

/-- What can be written in sixty-four bits: mantissas of fifty-three bits, and smaller ones with the
least exponent. -/
inductive Fits : UnpackedFloat → Prop
  | notANumber : Fits .notANumber
  | infinity (sign : Sign) : Fits (.infinity sign)
  | zero (sign : Sign) : Fits (.zero sign)
  | subnormal (sign : Sign) {mantissa : Nat} (positive : 0 < mantissa)
      (short : mantissa < 2 ^ 52) : Fits (.finite sign mantissa (-1074) positive)
  | normal (sign : Sign) {mantissa : Nat} {exponent : Int} (positive : 0 < mantissa)
      (long : 2 ^ 52 ≤ mantissa) (short : mantissa < 2 ^ 53) (least : -1074 ≤ exponent)
      (greatest : exponent ≤ 971) : Fits (.finite sign mantissa exponent positive)

/-- By cases on the exponent and the mantissa. -/
theorem Binary.ofBits_eq (bits : Nat) :
    Binary.ofBits bits =
      if bits / 2 ^ 52 % 2 ^ 11 = 2047 then
        if bits % 2 ^ 52 = 0 then .infinite (decide (2 ^ 63 ≤ bits)) else .notANumber
      else if bits / 2 ^ 52 % 2 ^ 11 = 0 then
        .finite (decide (2 ^ 63 ≤ bits)) (bits % 2 ^ 52) (-1074)
      else .finite (decide (2 ^ 63 ≤ bits)) (2 ^ 52 + bits % 2 ^ 52)
        ((bits / 2 ^ 52 % 2 ^ 11 : Nat) - 1075) := rfl

/-- The bits are all set exactly if their number is the greatest. -/
theorem unpackExponent_eq_last (v : BitVec 64) :
    @unpackExponent Format.binary64 v = -1#11 ↔ v.toNat / 2 ^ 52 % 2 ^ 11 = 2047 := by
  rw [← unpackExponent_toNat v, ← BitVec.toNat_inj]
  rfl

/-- Bits are zero exactly if their number is. -/
theorem unpackExponent_eq_zero (v : BitVec 64) :
    @unpackExponent Format.binary64 v = 0#11 ↔ v.toNat / 2 ^ 52 % 2 ^ 11 = 0 := by
  rw [← unpackExponent_toNat v, ← BitVec.toNat_inj]
  rfl

/-- Bits are zero exactly if their number is. -/
theorem unpackMantissa_eq_zero (v : BitVec 64) :
    @unpackMantissa Format.binary64 v = 0#52 ↔ v.toNat % 2 ^ 52 = 0 := by
  rw [← unpackMantissa_toNat v, ← BitVec.toNat_inj]
  rfl

/-- A finite number whose parts are known fits, and reads as they say, if they fit. -/
theorem finite_fits {sign : Sign} {mantissa m : Nat} {exponent e : Int} {negative : Bool}
    (positive : 0 < mantissa) (whole : mantissa = m) (scale : exponent = e)
    (minus : (sign == .negative) = negative)
    (fits : ∀ positive, Fits (.finite sign m e positive)) :
    Fits (.finite sign mantissa exponent positive) ∧
      Binary.ofUnpacked (.finite sign mantissa exponent positive) = .finite negative m e := by
  subst whole scale minus
  exact ⟨fits positive, rfl⟩

/-- The two readings of some bits agree, and what they say fits. -/
theorem unpack_fits (v : BitVec 64) :
    Fits (UnpackedFloat.unpack Format.binary64 v) ∧
      Binary.ofUnpacked (UnpackedFloat.unpack Format.binary64 v) = Binary.ofBits v.toNat := by
  have bias : (Format.binary64.exponentBias : Int) = 1023 := rfl
  have field := unpackExponent_toNat v
  have fraction := unpackMantissa_toNat v
  have sign := unpackSign_negative v
  have short := Nat.mod_lt v.toNat (Nat.two_pow_pos 52)
  have full := unpackExponent_eq_last v
  have empty := unpackExponent_eq_zero v
  have zero := unpackMantissa_eq_zero v
  rw [Binary.ofBits_eq]
  unfold UnpackedFloat.unpack
  dsimp only
  by_cases last : @unpackExponent Format.binary64 v = -1#11
  · rw [if_pos last, if_pos (full.mp last)]
    by_cases none : @unpackMantissa Format.binary64 v = 0#52
    · rw [if_pos none, if_pos (zero.mp none), ← sign]
      exact ⟨.infinity _, rfl⟩
    · rw [if_neg none, if_neg (mt zero.mpr none)]
      exact ⟨.notANumber, rfl⟩
  rw [if_neg last, if_neg (mt full.mpr last)]
  by_cases subnormal : @unpackExponent Format.binary64 v = 0#11
  · rw [if_pos subnormal, if_pos (empty.mp subnormal)]
    have least : ((@unpackExponent Format.binary64 v).toNat : Int) -
        (Format.binary64.exponentBias + (52 : Nat)) + 1 = -1074 := by
      rw [field, empty.mp subnormal, bias]
      rfl
    by_cases none : @unpackMantissa Format.binary64 v = 0#52
    · rw [dif_pos none, zero.mp none, ← sign]
      exact ⟨.zero _, rfl⟩
    · rw [dif_neg none]
      exact finite_fits _ fraction least sign fun positive => .subnormal _ positive short
  · rw [if_neg subnormal, if_neg (mt empty.mpr subnormal)]
    have whole : (1#1 ++ @unpackMantissa Format.binary64 v).toNat = 2 ^ 52 + v.toNat % 2 ^ 52 := by
      rw [append_toNat, fraction]
      rfl
    have scale : ((@unpackExponent Format.binary64 v).toNat : Int) -
        (Format.binary64.exponentBias + (52 : Nat)) =
          ((v.toNat / 2 ^ 52 % 2 ^ 11 : Nat) : Int) - 1075 := by
      rw [field, bias]
      rfl
    have notFull : v.toNat / 2 ^ 52 % 2 ^ 11 ≠ 2047 := mt full.mpr last
    have notEmpty : v.toNat / 2 ^ 52 % 2 ^ 11 ≠ 0 := mt empty.mpr subnormal
    exact finite_fits _ whole scale sign fun positive =>
      .normal _ positive (by omega) (by omega) (by omega) (by omega)

/-- A float is its bits. -/
theorem Binary.ofFloat_eq (x : Float) : Binary.ofFloat x = Binary.ofUnpacked x.toModel.unpack :=
  (unpack_fits x.toModel.toBits.toBitVec).2.symm

/-- What a finite float reads as has a mantissa of at most fifty-three bits, and an exponent that
such mantissas can have. -/
theorem Binary.ofFloat_finite {x : Float} {negative : Bool} {mantissa : Nat} {exponent : Int}
    (read : Binary.ofFloat x = .finite negative mantissa exponent) :
    mantissa < 2 ^ 53 ∧ exponent ≤ 971 := by
  have ⟨fits, agrees⟩ := unpack_fits x.toModel.toBits.toBitVec
  change _ = Binary.ofFloat x at agrees
  rw [read] at agrees
  generalize UnpackedFloat.unpack Format.binary64 x.toModel.toBits.toBitVec = u at fits agrees
  cases fits <;> cases agrees <;> omega

/-! ## Writing -/

/-- The bit that tells the sign. -/
def signBit (negative : Bool) : Nat := if negative then 2 ^ 63 else 0

variable {negative : Bool} {field fraction : Nat}

/-- By the sign. -/
theorem signBit_eq (negative : Bool) : signBit negative = 0 ∧ negative = false ∨
    signBit negative = 2 ^ 63 ∧ negative = true := by
  cases negative <;> simp [signBit]

/-- The exponent is zero, so the mantissa is the fraction. -/
theorem Binary.ofBits_subnormal (short : fraction < 2 ^ 52) :
    Binary.ofBits (signBit negative + fraction) = .finite negative fraction (-1074) := by
  unfold Binary.ofBits
  simp only [Nat.pow_eq]
  obtain ⟨bit, rfl⟩ | ⟨bit, rfl⟩ := signBit_eq negative
  all_goals
    rw [bit, if_neg (by omega), if_pos (by omega)]
    congr 1 <;> simp <;> omega

/-- The exponent is neither zero nor the greatest, so a bit comes in front of the fraction. -/
theorem Binary.ofBits_normal (short : fraction < 2 ^ 52) (positive : 0 < field)
    (bounded : field < 2047) :
    Binary.ofBits (signBit negative + field * 2 ^ 52 + fraction) =
      .finite negative (2 ^ 52 + fraction) (field - 1075) := by
  unfold Binary.ofBits
  simp only [Nat.pow_eq]
  obtain ⟨bit, rfl⟩ | ⟨bit, rfl⟩ := signBit_eq negative
  all_goals
    rw [bit, if_neg (by omega), if_neg (by omega)]
    congr 1
    · simp
      omega
    · omega
    · omega

/-- The parts are put one behind the other. -/
theorem packComponents_toNat (sign : Sign) (exponent : BitVec 11) (mantissa : BitVec 52) :
    (packComponents Format.binary64 sign exponent mantissa).toNat =
      signBit (sign == .negative) + exponent.toNat * 2 ^ 52 + mantissa.toNat := by
  have bit : signBit (sign == .negative) = sign.toBitVec.toNat * 2 ^ 63 := by cases sign <;> rfl
  rw [packComponents, append_toNat, append_toNat, bit, Nat.add_mul, Nat.mul_assoc, ← Nat.pow_add]

/-- What fits is written as bits that say it. -/
theorem read_pack {u : UnpackedFloat} (fits : Fits u) :
    Binary.ofBits (UnpackedFloat.pack Format.binary64 u).toNat = Binary.ofUnpacked u := by
  have bias : (Format.binary64.exponentBias : Int) = 1023 := rfl
  have bits : Format.binary64.mantissaBits = 53 := rfl
  cases fits with
  | notANumber => decide
  | infinity sign => cases sign <;> decide
  | zero sign => cases sign <;> decide
  | @subnormal sign mantissa positive short =>
    have small : mantissa.log2 < 52 := (Nat.log2_lt (by omega)).mpr short
    change Binary.ofBits _ = .finite (sign == .negative) mantissa (-1074)
    unfold UnpackedFloat.pack
    dsimp only
    simp only [bias, bits]
    have fraction : (BitVec.ofNat 52 mantissa).toNat = mantissa := Nat.mod_eq_of_lt short
    rw [if_neg (by decide), if_neg (by omega), packComponents_toNat, fraction]
    simpa using @Binary.ofBits_subnormal (sign == .negative) mantissa short
  | @normal sign mantissa exponent positive long short least greatest =>
    have wide : mantissa.log2 = 52 := (Nat.log2_eq_iff (by omega)).mpr ⟨long, short⟩
    change Binary.ofBits _ = .finite (sign == .negative) mantissa exponent
    unfold UnpackedFloat.pack
    dsimp only
    simp only [bias, bits, wide]
    rw [if_neg (by simp; omega), if_pos trivial, packComponents_toNat]
    have fraction : (BitVec.ofNat 52 mantissa).toNat = mantissa - 2 ^ 52 := by
      rw [BitVec.toNat_ofNat]
      omega
    have field : (BitVec.ofNat 11 (exponent + 1023 + (52 : Nat)).toNat).toNat =
        (exponent + 1075).toNat := by
      rw [BitVec.toNat_ofNat]
      omega
    have shifted : ((exponent + 1075).toNat : Int) - 1075 = exponent := by omega
    rw [field, fraction, Binary.ofBits_normal (by omega) (by omega) (by omega), shifted,
      Nat.add_sub_cancel' long]

/-- A float made of bits reads as they do. -/
theorem Binary.ofFloat_ofBits (bits : UInt64) :
    Binary.ofFloat (Float.ofBits bits) = Binary.ofBits bits.toNat := by
  have ⟨fits, read⟩ := unpack_fits bits.toBitVec
  exact (read_pack fits).trans read

/-- The product of two floats reads as what the operation makes of them, if that fits. -/
theorem Binary.ofFloat_mul {x y : Float}
    (fits : Fits (UnpackedFloat.mul Format.binary64 x.toModel.unpack y.toModel.unpack)) :
    Binary.ofFloat (x * y) =
      Binary.ofUnpacked (UnpackedFloat.mul Format.binary64 x.toModel.unpack y.toModel.unpack) :=
  read_pack fits

/-- By the kind of the float. -/
theorem isNaN_eq (x : Float) : x.isNaN = decide (Binary.ofFloat x = .notANumber) := by
  rw [Binary.ofFloat_eq]
  change x.toModel.unpack.isNaN = _
  cases x.toModel.unpack <;> rfl

/-! ## Signs -/

/-- What is less than zero. Zero itself is not, whatever its sign. -/
def Binary.IsNegative : Binary → Prop
  | .finite negative mantissa _ => negative = true ∧ mantissa ≠ 0
  | .infinite negative => negative = true
  | .notANumber => False

/-- By the kind of the float: zero of either sign is below nothing. -/
theorem lt_zero_iff (x : Float) : x < 0.0 ↔ (Binary.ofFloat x).IsNegative := by
  have zero : (0.0 : Float).toModel.unpack = .zero .positive := by rfl
  have operation : x < 0.0 ↔ x.toModel.unpack.lt (0.0 : Float).toModel.unpack = true := by
    change decide (x.toModel < (0.0 : Float).toModel) = true ↔ _
    rw [decide_eq_true_iff]
    rfl
  rw [operation, zero, Binary.ofFloat_eq]
  cases x.toModel.unpack with
  | notANumber => exact iff_of_false Bool.false_ne_true id
  | infinity sign =>
    cases sign with
    | positive => exact iff_of_false Bool.false_ne_true Bool.false_ne_true
    | negative => exact iff_of_true rfl rfl
  | zero sign => cases sign <;> exact iff_of_false Bool.false_ne_true fun less => less.2 rfl
  | finite sign mantissa exponent positive =>
    cases sign with
    | positive => exact iff_of_false Bool.false_ne_true fun less => Bool.false_ne_true less.1
    | negative => exact iff_of_true rfl ⟨rfl, Nat.ne_of_gt positive⟩

end BuildBench.Decimal
