import BuildBench.Proofs.Decimal.NearestFloat

/-!
# Products of floats

The product of two floats whose mantissas have all their bits differs from the exact product by at
most a unit of the last place, as long as it is neither too small nor too large to have such a
mantissa itself.
-/

namespace BuildBench.Decimal

open Float.Model Float.Model.UnpackedFloat

/-! ## Cutting a mantissa -/

/-- By induction on the count: each shift halves. -/
theorem shiftRight_mantissa (m : ExtendedMantissa) (count : Nat) :
    (m >>> count).mantissa = m.mantissa / 2 ^ count := by
  induction count with
  | zero => exact (Nat.div_one _).symm
  | succ count ih =>
    change (m >>> count).mantissa / 2 = _
    rw [ih, Nat.div_div_eq_div_mul, Nat.pow_succ]

/-- By the bits that are cut off: the mantissa is kept, or one is added. -/
theorem roundedMantissa_bounds (m : ExtendedMantissa) :
    m.mantissa ≤ m.roundedMantissa ∧ m.roundedMantissa ≤ m.mantissa + 1 := by
  obtain ⟨mantissa, half, rest⟩ := m
  cases half <;> cases rest <;>
    simp only [ExtendedMantissa.roundedMantissa, ExtendedMantissa.accuracy,
      Accuracy.roundToNearestEven] <;> omega

/-- An exact mantissa is cut to fifty-three bits, if that does not lead below the least exponent. -/
theorem shiftToTarget_normal {mantissa : Nat} {exponent : Int} (wide : 52 ≤ mantissa.log2)
    (least : -1074 ≤ (mantissa.log2 : Int) - 52 + exponent) :
    shiftToTargetExponent Format.binary64 mantissa exponent .exact =
      (ExtendedMantissa.ofMantissaAndAccuracy mantissa .exact >>> (mantissa.log2 - 52),
        exponent + (mantissa.log2 - 52 : Nat)) := by
  have target : (Format.binary64.targetExponent (totalExponent mantissa exponent) - exponent).toNat =
      mantissa.log2 - 52 := by
    have bits : Format.binary64.mantissaBits = 53 := rfl
    have bottom : Format.binary64.minExponent = -1074 := rfl
    rw [Format.targetExponent, totalExponent, bits, bottom]
    omega
  unfold shiftToTargetExponent shiftToExponent
  dsimp only
  rw [target]

/-- After rounding, a mantissa that has become too long by one bit loses it. The value stays. -/
theorem shiftToTarget_rounded {rounded : Nat} {exponent : Int} (low : 2 ^ 52 ≤ rounded)
    (high : rounded ≤ 2 ^ 53) (least : -1074 ≤ exponent) :
    ∃ cut e, shiftToTargetExponent Format.binary64 rounded exponent .exact = (cut, e) ∧
      2 ^ 52 ≤ cut.mantissa ∧ cut.mantissa < 2 ^ 53 ∧ -1074 ≤ e ∧
      (cut.mantissa : Rat) * 2 ^ e = rounded * 2 ^ exponent := by
  rcases Nat.lt_or_eq_of_le high with short | rfl
  · have wide : rounded.log2 = 52 := (Nat.log2_eq_iff (by omega)).mpr ⟨low, short⟩
    refine ⟨_, _, shiftToTarget_normal (by omega) (by omega), ?_⟩
    rw [wide, shiftRight_mantissa, Nat.sub_self, pow_zero, Nat.div_one, Nat.cast_zero, add_zero]
    exact ⟨low, short, least, rfl⟩
  · have wide : (2 ^ 53 : Nat).log2 = 53 := Nat.log2_two_pow
    have half : (ExtendedMantissa.ofMantissaAndAccuracy (2 ^ 53) .exact).mantissa / 2 ^ (53 - 52) =
        2 ^ 52 := rfl
    refine ⟨_, _, shiftToTarget_normal (by omega) (by omega), ?_⟩
    rw [wide, shiftRight_mantissa, half]
    refine ⟨le_rfl, by norm_num, by omega, ?_⟩
    rw [show exponent + (53 - 52 : Nat) = exponent + 1 from rfl, zpow_add_one₀ two_ne_zero,
      mul_comm ((2 : Rat) ^ exponent), ← mul_assoc]
    norm_num

/-- Rounding a mantissa that is wide enough keeps fifty-three bits of it, and the value changes by
at most a unit of the last place. -/
theorem round_normal (sign : Sign) {mantissa : Nat} {exponent : Int} (wide : 52 ≤ mantissa.log2)
    (least : -1074 ≤ (mantissa.log2 : Int) - 52 + exponent) :
    ∃ m e positive, roundWithAccuracy Format.binary64 sign mantissa exponent .exact =
        .finite sign m e positive ∧ 2 ^ 52 ≤ m ∧ m < 2 ^ 53 ∧ -1074 ≤ e ∧
      (m : Rat) * 2 ^ e ≤ mantissa * 2 ^ exponent + 2 ^ ((mantissa.log2 : Int) - 52 + exponent) := by
  have some : mantissa ≠ 0 := by
    rintro rfl
    exact absurd wide (by decide)
  obtain ⟨cut, exact⟩ : ∃ cut, cut = mantissa.log2 - 52 := ⟨_, rfl⟩
  have last : (mantissa.log2 : Int) - 52 + exponent = exponent + cut := by omega
  have low : 2 ^ 52 ≤ mantissa / 2 ^ cut := by
    rw [Nat.le_div_iff_mul_le (Nat.two_pow_pos _), ← Nat.pow_add]
    exact (Nat.le_log2 some).mp (by omega)
  have high : mantissa / 2 ^ cut < 2 ^ 53 := by
    rw [Nat.div_lt_iff_lt_mul (Nat.two_pow_pos _), ← Nat.pow_add]
    exact (Nat.log2_lt some).mp (by omega)
  have bounds := roundedMantissa_bounds (ExtendedMantissa.ofMantissaAndAccuracy mantissa .exact >>> cut)
  rw [shiftRight_mantissa] at bounds
  change mantissa / 2 ^ cut ≤ _ ∧ _ ≤ mantissa / 2 ^ cut + 1 at bounds
  unfold roundWithAccuracy
  rw [shiftToTarget_normal wide least, ← exact]
  dsimp only
  generalize (ExtendedMantissa.ofMantissaAndAccuracy mantissa .exact >>> cut).roundedMantissa =
    rounded at bounds
  obtain ⟨final, e, second, long, short, above, value⟩ :=
    @shiftToTarget_rounded rounded (exponent + cut) (by omega) (by omega) (by omega)
  rw [second, dif_neg (by dsimp only; omega)]
  refine ⟨final.mantissa, e, by omega, rfl, long, short, above, ?_⟩
  have unit : (0 : Rat) < 2 ^ exponent := zpow_pos two_pos _
  have whole : (rounded : Rat) * 2 ^ cut ≤ mantissa + 2 ^ cut := by
    have cutOff := Nat.div_mul_le_self mantissa (2 ^ cut)
    have scaled : rounded * 2 ^ cut ≤ (mantissa / 2 ^ cut + 1) * 2 ^ cut :=
      Nat.mul_le_mul_right _ bounds.2
    rw [add_one_mul] at scaled
    exact_mod_cast scaled.trans (Nat.add_le_add_right cutOff _)
  rw [value, last, zpow_add₀ two_ne_zero, zpow_natCast]
  calc (rounded : Rat) * (2 ^ exponent * 2 ^ cut) = rounded * 2 ^ cut * 2 ^ exponent := by
        rw [mul_comm ((2 : Rat) ^ exponent), mul_assoc]
    _ ≤ (mantissa + 2 ^ cut) * 2 ^ exponent := mul_le_mul_of_nonneg_right whole unit.le
    _ = mantissa * 2 ^ exponent + 2 ^ exponent * 2 ^ cut := by
        rw [add_mul, mul_comm ((2 : Rat) ^ cut)]

/-- The reading behind the operations of a float that is not zero. -/
theorem unpack_of_ofFloat {x : Float} {negative : Bool} {mantissa : Nat} {exponent : Int}
    (read : Binary.ofFloat x = .finite negative mantissa exponent) (positive : 0 < mantissa) :
    ∃ sign, x.toModel.unpack = .finite sign mantissa exponent positive ∧
      (sign == .negative) = negative := by
  rw [Binary.ofFloat_eq] at read
  rcases unpacked : x.toModel.unpack with sign | _ | sign | ⟨sign, m, e, _⟩ <;>
    rw [unpacked] at read <;> cases read
  · exact absurd positive (lt_irrefl 0)
  · exact ⟨sign, rfl, rfl⟩

/-- The unit of the last place is small beside the number. -/
theorem lastPlace_le {mantissa : Nat} (some : mantissa ≠ 0) (exponent : Int) :
    (2 : Rat) ^ ((mantissa.log2 : Int) - 52 + exponent) ≤
      mantissa * 2 ^ exponent * 2 ^ (-52 : Int) := by
  have low : (2 : Rat) ^ mantissa.log2 ≤ mantissa := by exact_mod_cast Nat.log2_self_le some
  calc (2 : Rat) ^ ((mantissa.log2 : Int) - 52 + exponent)
      = 2 ^ mantissa.log2 * 2 ^ exponent * 2 ^ (-52 : Int) := by
        rw [← zpow_natCast, ← zpow_add₀ two_ne_zero, ← zpow_add₀ two_ne_zero]
        congr 1
        omega
    _ ≤ mantissa * 2 ^ exponent * 2 ^ (-52 : Int) :=
        mul_le_mul_of_nonneg_right (mul_le_mul_of_nonneg_right low (zpow_pos two_pos _).le)
          (zpow_pos two_pos _).le

/-- A number that is not too small has its last place above the least exponent. -/
theorem le_lastPlace {mantissa : Nat} {exponent : Int}
    (least : (2 : Rat) ^ (-1022 : Int) ≤ mantissa * 2 ^ exponent) :
    -1074 ≤ (mantissa.log2 : Int) - 52 + exponent := by
  have high : (mantissa : Rat) < 2 ^ (mantissa.log2 + 1) := by
    exact_mod_cast @Nat.lt_log2_self mantissa
  have below : (2 : Rat) ^ (-1022 : Int) < 2 ^ ((mantissa.log2 + 1 : Nat) + exponent) := by
    rw [zpow_add₀ two_ne_zero, zpow_natCast]
    exact least.trans_lt (mul_lt_mul_of_pos_right high (zpow_pos two_pos _))
  have := (zpow_lt_zpow_iff_right₀ one_lt_two).mp below
  omega

/-- Two positive floats of which one has all bits of its mantissa have a product that is at most a
unit of the last place too large, if there is room for it. -/
theorem ofFloat_mul_positive {x y : Float} {m n : Nat} {e f : Int} {product : Rat}
    (left : Binary.ofFloat x = .finite false m e) (right : Binary.ofFloat y = .finite false n f)
    (long : 2 ^ 52 ≤ m) (positive : 0 < n) (exact : product = m * 2 ^ e * (n * 2 ^ f))
    (least : 2 ^ (-1022 : Int) ≤ product)
    (room : product * (1 + 2 ^ (-52 : Int)) < 2 ^ (1024 : Int)) :
    ∃ p g, Binary.ofFloat (x * y) = .finite false p g ∧
      (p : Rat) * 2 ^ g ≤ product * (1 + 2 ^ (-52 : Int)) := by
  obtain ⟨sign, first, plus⟩ := unpack_of_ofFloat left (by omega)
  obtain ⟨other, second, plus'⟩ := unpack_of_ofFloat right positive
  obtain rfl : sign = .positive := by cases sign <;> first | rfl | cases plus
  obtain rfl : other = .positive := by cases other <;> first | rfl | cases plus'
  have value : product = (m * n : Nat) * 2 ^ (e + f) := by
    rw [exact, zpow_add₀ two_ne_zero, Nat.cast_mul, mul_mul_mul_comm]
  have some : m * n ≠ 0 := by positivity
  have wide : 52 ≤ (m * n).log2 :=
    (Nat.le_log2 some).mpr (long.trans (Nat.le_mul_of_pos_right m positive))
  obtain ⟨p, g, some', rounded, whole, short, least', bound⟩ :=
    round_normal .positive wide (le_lastPlace (value ▸ least))
  have near : (p : Rat) * 2 ^ g ≤ product * (1 + 2 ^ (-52 : Int)) := by
    rw [mul_add, mul_one, value]
    exact bound.trans (add_le_add_right (lastPlace_le some (e + f)) _)
  have small : g ≤ 971 := by
    have scaled : 2 ^ 52 * (2 : Rat) ^ g ≤ p * 2 ^ g :=
      mul_le_mul_of_nonneg_right (by exact_mod_cast whole) (zpow_pos two_pos _).le
    have := exponent_lt (scaled.trans_lt (near.trans_lt room))
    omega
  have multiplied : UnpackedFloat.mul Format.binary64 x.toModel.unpack y.toModel.unpack =
      .finite .positive p g some' := by
    rw [first, second]
    exact rounded
  refine ⟨p, g, ?_, near⟩
  rw [Binary.ofFloat_mul (multiplied ▸ .normal _ _ whole short least' small), multiplied]
  rfl

end BuildBench.Decimal
