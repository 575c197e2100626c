import Mathlib.Algebra.Order.Field.Power
import Mathlib.Data.Rat.Cast.Order
import Mathlib.Tactic.FieldSimp
import Mathlib.Tactic.Linarith
import BuildBench.Proofs.Decimal.FloatBits

/-!
# The nearest float

What `nearestBits` writes is a mantissa and an exponent whose value differs from the quotient by at
most half a unit of the last place. A quotient that is not beyond the largest float has a nearest
float, and what is read from that float is the value that was written.
-/

namespace BuildBench.Decimal

/-! ## Values -/

/-- One of the two powers is one. -/
theorem two_zpow_eq (e : Int) : (2 : Rat) ^ e = 2 ^ e.toNat / 2 ^ (-e).toNat := by
  rw [← zpow_natCast, ← zpow_natCast, ← zpow_sub₀ two_ne_zero]
  congr 1
  omega

/-- A power of two that is less than another has the lesser exponent. -/
theorem exponent_lt {bits : Nat} {e bound : Int} (less : 2 ^ bits * (2 : Rat) ^ e < 2 ^ bound) :
    bits + e < bound := by
  rw [← zpow_natCast, ← zpow_add₀ two_ne_zero] at less
  exact (zpow_lt_zpow_iff_right₀ one_lt_two).mp less

/-- A magnitude with its sign. -/
def withSign (negative : Bool) (q : Rat) : Rat := if negative then -q else q

/-- The value that is read from a finite float. -/
theorem toRat?_finite {x : Float} {negative : Bool} {mantissa : Nat} {exponent : Int}
    (read : Binary.ofFloat x = .finite negative mantissa exponent) :
    toRat? x = some (withSign negative (mantissa * 2 ^ exponent)) := by
  unfold toRat?
  rw [read, two_zpow_eq]
  cases negative <;> simp [scaled, withSign, Rat.mkRat_eq_div, mul_div_assoc, neg_div]

/-- Only a finite float has a value. -/
theorem exists_of_toRat? {x : Float} {q : Rat} (value : toRat? x = some q) :
    ∃ negative mantissa exponent, Binary.ofFloat x = .finite negative mantissa exponent ∧
      q = withSign negative (mantissa * 2 ^ exponent) := by
  rcases read : Binary.ofFloat x with ⟨negative, mantissa, exponent⟩ | _ | _
  · rw [toRat?_finite read] at value
    exact ⟨negative, mantissa, exponent, rfl, (Option.some.inj value).symm⟩
  all_goals
    rw [toRat?, read] at value
    cases value

/-! ## Rounding a quotient -/

/-- The remainder decides between the whole number below and the one above, and the nearer one is
taken. -/
theorem roundDiv_near (num : Nat) {den : Nat} (positive : 0 < den) :
    |(roundDiv num den : Rat) - num / den| ≤ 1 / 2 := by
  have near : 2 * (roundDiv num den * den) ≤ 2 * num + den ∧
      2 * num ≤ 2 * (roundDiv num den * den) + den := by
    have parts := Nat.div_add_mod' num den
    have rest := Nat.mod_lt num positive
    have next := add_one_mul (num / den) den
    unfold roundDiv
    dsimp only
    split
    · omega
    · split
      · rcases Nat.mod_two_eq_zero_or_one (num / den) with even | odd
        · rw [even, add_zero]
          omega
        · rw [odd]
          omega
      · omega
  obtain ⟨above, below⟩ : 2 * ((roundDiv num den : Rat) * den) ≤ 2 * num + den ∧
      2 * (num : Rat) ≤ 2 * (roundDiv num den * den) + den := by exact_mod_cast near
  have den' : (0 : Rat) < den := by exact_mod_cast positive
  have exact : (num : Rat) = num / den * den := (div_mul_cancel₀ _ den'.ne').symm
  rw [exact] at above below
  have low : (num : Rat) / den * den ≤ (roundDiv num den + 1 / 2) * den := by linarith
  have high : (roundDiv num den : Rat) * den ≤ (num / den + 1 / 2) * den := by linarith
  rw [abs_le]
  constructor
  · linarith [le_of_mul_le_mul_right low den']
  · linarith [le_of_mul_le_mul_right high den']

/-- A mantissa and an exponent that a float can have, with a value nearest to some number. -/
structure Nearest (q : Rat) (mantissa : Nat) (exponent : Int) : Prop where
  least : -1074 ≤ exponent
  normal : -1074 < exponent → 2 ^ 52 * (2 : Rat) ^ exponent ≤ q
  short : q < 2 ^ 53 * (2 : Rat) ^ exponent
  near : |(mantissa : Rat) * 2 ^ exponent - q| ≤ 2 ^ exponent / 2

namespace Nearest

variable {q : Rat} {mantissa : Nat} {exponent : Int}

/-- A mantissa is whole, so if it were beyond the bound it would be so by more than a half. -/
theorem le (nearest : Nearest q mantissa exponent) {bound : Nat}
    (bounded : q ≤ bound * (2 : Rat) ^ exponent) : mantissa ≤ bound := by
  have unit : (0 : Rat) < 2 ^ exponent := zpow_pos two_pos _
  have above := (abs_le.mp nearest.near).2
  have scaled : (mantissa : Rat) * 2 ^ exponent < (bound + 1 : Nat) * 2 ^ exponent := by
    push_cast
    linarith
  have : (mantissa : Rat) < (bound + 1 : Nat) := lt_of_mul_lt_mul_right scaled unit.le
  exact Nat.lt_succ_iff.mp (Nat.cast_lt.mp this)

/-- A mantissa is whole, so if it were below the bound it would be so by more than a half. -/
theorem ge (nearest : Nearest q mantissa exponent) {bound : Nat}
    (bounded : bound * (2 : Rat) ^ exponent ≤ q) : bound ≤ mantissa := by
  have unit : (0 : Rat) < 2 ^ exponent := zpow_pos two_pos _
  have below := (abs_le.mp nearest.near).1
  have scaled : (bound : Rat) * 2 ^ exponent < (mantissa + 1 : Nat) * 2 ^ exponent := by
    push_cast
    linarith
  have : (bound : Rat) < (mantissa + 1 : Nat) := lt_of_mul_lt_mul_right scaled unit.le
  exact Nat.lt_succ_iff.mp (Nat.cast_lt.mp this)

end Nearest

/-- The quotient in units of a power of two. -/
theorem scaled_quotient {num den : Nat} (positive : 0 < den) (e : Int) :
    ((num * 2 ^ (-e).toNat : Nat) : Rat) / ((den * 2 ^ e.toNat : Nat) : Rat) =
      (num : Rat) / den / 2 ^ e := by
  have : (den : Rat) ≠ 0 := by positivity
  rw [two_zpow_eq]
  push_cast
  field_simp

/-- The first guess at the exponent is at most one too small. -/
theorem guess_bounds {num den : Nat} (some : 0 < num) (positive : 0 < den) :
    2 ^ 52 * (2 : Rat) ^ ((num.log2 : Int) - den.log2 - 53) ≤ num / den ∧
      (num : Rat) / den < 2 ^ 54 * 2 ^ ((num.log2 : Int) - den.log2 - 53) := by
  have least : (2 : Rat) ^ num.log2 ≤ num := by exact_mod_cast Nat.log2_self_le some.ne'
  have most : (num : Rat) < 2 ^ num.log2 * 2 := by exact_mod_cast @Nat.lt_log2_self num
  have leastDen : (2 : Rat) ^ den.log2 ≤ den := by exact_mod_cast Nat.log2_self_le positive.ne'
  have mostDen : (den : Rat) < 2 ^ den.log2 * 2 := by exact_mod_cast @Nat.lt_log2_self den
  have above : (0 : Rat) < den := by positivity
  have unit : (2 : Rat) ^ ((num.log2 : Int) - den.log2 - 53) =
      2 ^ num.log2 / 2 ^ den.log2 / 2 ^ 53 := by
    rw [zpow_sub₀ two_ne_zero, zpow_sub₀ two_ne_zero]
    rfl
  have power : (0 : Rat) < 2 ^ den.log2 := by positivity
  rw [unit]
  constructor
  · calc 2 ^ 52 * ((2 : Rat) ^ num.log2 / 2 ^ den.log2 / 2 ^ 53)
        = 2 ^ num.log2 / (2 ^ den.log2 * 2) := by field_simp
      _ ≤ num / den := div_le_div₀ (by positivity) least above mostDen.le
  · calc (num : Rat) / den < 2 ^ num.log2 * 2 / 2 ^ den.log2 :=
          div_lt_div₀ most leastDen (by positivity) power
      _ = 2 ^ 54 * (2 ^ num.log2 / 2 ^ den.log2 / 2 ^ 53) := by field_simp

/-- Both sides are scaled by the unit. -/
theorem near_scaled {r q unit : Rat} (positive : 0 < unit) (near : |r - q / unit| ≤ 1 / 2) :
    |r * unit - q| ≤ unit / 2 := by
  have parts : r * unit - q = (r - q / unit) * unit := by rw [sub_mul, div_mul_cancel₀ _ positive.ne']
  have scaled := mul_le_mul_of_nonneg_right near positive.le
  rw [parts, abs_mul, abs_of_pos positive]
  linarith

/-- What `nearestBits` writes is nearest to the quotient. -/
theorem nearestBits_nearest {num den : Nat} (some : 0 < num) (positive : 0 < den) :
    ∃ mantissa exponent, Nearest ((num : Rat) / den) mantissa exponent ∧
      nearestBits num den = (exponent + 1074).toNat * 2 ^ 52 + mantissa := by
  obtain ⟨low, high⟩ := guess_bounds some positive
  unfold nearestBits
  rw [if_neg some.ne']
  simp only [Nat.pow_eq]
  generalize (num.log2 : Int) - den.log2 - 53 = guess at low high
  have unit : (0 : Rat) < 2 ^ guess := zpow_pos two_pos _
  have fits : num * 2 ^ (-guess).toNat / (den * 2 ^ guess.toNat) < 2 ^ 53 ↔
      (num : Rat) / den < 2 ^ 53 * 2 ^ guess := by
    rw [Nat.div_lt_iff_lt_mul (by positivity), ← div_lt_iff₀ unit, ← scaled_quotient positive,
      div_lt_iff₀ (by positivity)]
    exact_mod_cast Iff.rfl
  have next : (2 : Rat) ^ (guess + 1) = 2 ^ guess * 2 := zpow_add_one₀ two_ne_zero _
  obtain ⟨chosen, exact, below, above⟩ : ∃ chosen,
      (if num * 2 ^ (-guess).toNat / (den * 2 ^ guess.toNat) < 2 ^ 53 then guess else guess + 1) =
        chosen ∧ 2 ^ 52 * (2 : Rat) ^ chosen ≤ num / den ∧
      (num : Rat) / den < 2 ^ 53 * 2 ^ chosen := by
    refine ⟨_, rfl, ?_⟩
    split
    · next short => exact ⟨low, fits.mp short⟩
    · next long =>
      rw [fits, not_lt] at long
      rw [next]
      constructor <;> linarith
  rw [exact]
  have wider : (2 : Rat) ^ chosen ≤ 2 ^ max chosen (-1074) :=
    zpow_le_zpow_right₀ one_le_two (le_max_left _ _)
  refine ⟨_, max chosen (-1074), ⟨le_max_right _ _, fun above => ?_, ?_, ?_⟩, rfl⟩
  · rw [max_eq_left (by omega)]
    exact below
  · linarith
  · have near := roundDiv_near (num * 2 ^ (-(max chosen (-1074))).toNat)
      (show 0 < den * 2 ^ (max chosen (-1074)).toNat by positivity)
    rw [scaled_quotient positive] at near
    exact near_scaled (zpow_pos two_pos _) near

/-! ## Reading it back -/

/-- The largest value that a float has. -/
def largest : Rat := (2 ^ 53 - 1) * 2 ^ (971 : Int)

/-- Both factors are positive. -/
theorem largest_pos : 0 < largest :=
  mul_pos (by norm_num) (zpow_pos two_pos _)

/-- The mantissa is less than the power of two that is next. -/
theorem largest_lt : largest < 2 ^ (1024 : Int) := by
  have unit : (0 : Rat) < 2 ^ (971 : Int) := zpow_pos two_pos _
  rw [largest, show (1024 : Int) = (53 : Nat) + 971 from rfl, zpow_add₀ two_ne_zero, zpow_natCast]
  exact mul_lt_mul_of_pos_right (by norm_num) unit

/-- Both mantissa and exponent are bounded. -/
theorem magnitude_le_largest {x : Float} {negative : Bool} {mantissa : Nat} {exponent : Int}
    (read : Binary.ofFloat x = .finite negative mantissa exponent) :
    (mantissa : Rat) * 2 ^ exponent ≤ largest := by
  obtain ⟨short, small⟩ := Binary.ofFloat_finite read
  have whole : (mantissa : Rat) ≤ 2 ^ 53 - 1 := by
    have : ((mantissa + 1 : Nat) : Rat) ≤ (2 ^ 53 : Nat) := by exact_mod_cast short
    push_cast at this
    linarith
  exact mul_le_mul whole (zpow_le_zpow_right₀ one_le_two small) (zpow_pos two_pos _).le (by norm_num)

/-- A negative value is below it, and the others are magnitudes. -/
theorem le_largest {x : Float} {q : Rat} (value : toRat? x = some q) : q ≤ largest := by
  obtain ⟨negative, mantissa, exponent, read, rfl⟩ := exists_of_toRat? value
  have small := magnitude_le_largest read
  have positive : 0 ≤ (mantissa : Rat) * 2 ^ exponent :=
    mul_nonneg (Nat.cast_nonneg _) (zpow_pos two_pos _).le
  cases negative
  · exact small
  · exact (neg_nonpos.mpr positive).trans largest_pos.le

namespace Nearest

variable {q : Rat} {mantissa : Nat} {exponent : Int}

/-- The quotient is less than the bound times the unit. -/
theorem mantissa_le (nearest : Nearest q mantissa exponent) : mantissa ≤ 2 ^ 53 :=
  nearest.le (by exact_mod_cast nearest.short.le)

/-- Above the lowest exponent the quotient is at least the bound times the unit. -/
theorem le_mantissa (nearest : Nearest q mantissa exponent) (above : -1074 < exponent) :
    2 ^ 52 ≤ mantissa :=
  nearest.ge (by exact_mod_cast nearest.normal above)

/-- What is not beyond the largest float is written as the bits of a finite one. -/
theorem bits_lt (nearest : Nearest q mantissa exponent) (small : q ≤ largest) :
    (exponent + 1074).toNat * 2 ^ 52 + mantissa < infinityBits := by
  have top : infinityBits = 2047 * 2 ^ 52 := rfl
  have most := nearest.mantissa_le
  have least := nearest.least
  rcases lt_or_ge exponent 971 with lower | upper
  · omega
  have last : exponent ≤ 971 := by
    have := exponent_lt ((nearest.normal (by omega)).trans_lt (small.trans_lt largest_lt))
    omega
  obtain rfl : exponent = 971 := by omega
  have whole : ((2 ^ 53 - 1 : Nat) : Rat) = 2 ^ 53 - 1 := by norm_num
  have short : mantissa ≤ 2 ^ 53 - 1 := nearest.le (by rw [whole]; exact small)
  omega

/-- Bits of a finite float are read as what was written. A mantissa that was rounded up to the next
power of two is read with the next exponent. -/
theorem read (nearest : Nearest q mantissa exponent) (negative : Bool)
    (finite : (exponent + 1074).toNat * 2 ^ 52 + mantissa < infinityBits) :
    ∃ m e, Binary.ofBits (signBit negative + ((exponent + 1074).toNat * 2 ^ 52 + mantissa)) =
        .finite negative m e ∧ (m : Rat) * 2 ^ e = mantissa * 2 ^ exponent ∧
      m < 2 ^ 53 ∧ (2 ^ 52 ≤ m ∨ e = -1074) := by
  have top : infinityBits = 2047 * 2 ^ 52 := rfl
  have most := nearest.mantissa_le
  have least := nearest.least
  have normal := nearest.le_mantissa
  rcases Nat.lt_or_ge mantissa (2 ^ 52) with subnormal | whole
  · obtain rfl : exponent = -1074 := by omega
    refine ⟨mantissa, -1074, ?_, rfl, by omega, .inr rfl⟩
    rw [← Binary.ofBits_subnormal subnormal]
    simp
  rcases Nat.lt_or_eq_of_le most with short | rfl
  · have written : signBit negative + ((exponent + 1074).toNat * 2 ^ 52 + mantissa) =
        signBit negative + (exponent + 1075).toNat * 2 ^ 52 + (mantissa - 2 ^ 52) := by omega
    have unit : ((exponent + 1075).toNat : Int) - 1075 = exponent := by omega
    refine ⟨mantissa, exponent, ?_, rfl, short, .inl whole⟩
    rw [written, Binary.ofBits_normal (by omega) (by omega) (by omega), unit,
      Nat.add_sub_cancel' whole]
  · have written : signBit negative + ((exponent + 1074).toNat * 2 ^ 52 + 2 ^ 53) =
        signBit negative + (exponent + 1076).toNat * 2 ^ 52 + 0 := by omega
    have unit : ((exponent + 1076).toNat : Int) - 1075 = exponent + 1 := by omega
    refine ⟨2 ^ 52, exponent + 1, ?_, ?_, by norm_num, .inl le_rfl⟩
    · rw [written, Binary.ofBits_normal (by omega) (by omega) (by omega), unit, add_zero]
    · rw [zpow_add_one₀ two_ne_zero]
      push_cast
      rw [mul_comm ((2 : Rat) ^ exponent) 2, ← mul_assoc]
      norm_num

end Nearest

/-- The float that is found for a quotient has a value nearest to it. -/
theorem nearest?_read {negative : Bool} {num den : Nat} {x : Float} (some : 0 < num)
    (positive : 0 < den) (found : nearest? negative num den = .some x) :
    ∃ mantissa exponent m e, Nearest ((num : Rat) / den) mantissa exponent ∧
      Binary.ofFloat x = .finite negative m e ∧ (m : Rat) * 2 ^ e = mantissa * 2 ^ exponent ∧
      m < 2 ^ 53 ∧ (2 ^ 52 ≤ m ∨ e = -1074) := by
  obtain ⟨mantissa, exponent, nearest, written⟩ := nearestBits_nearest some positive
  unfold nearest? at found
  dsimp only at found
  split at found
  · cases found
  next finite =>
  rw [written, not_le] at finite
  obtain ⟨m, e, read, value, short, long⟩ := nearest.read negative finite
  have top : infinityBits = 2047 * 2 ^ 52 := rfl
  have bits : (UInt64.ofNat (if negative then Nat.pow 2 63 + nearestBits num den
      else nearestBits num den)).toNat = signBit negative + nearestBits num den := by
    rw [UInt64.toNat_ofNat']
    cases negative <;> simp [signBit] <;> omega
  cases found
  refine ⟨mantissa, exponent, m, e, nearest, ?_, value, short, long⟩
  rw [Binary.ofFloat_ofBits, bits, written, read]

/-- Whatever float is found for a quotient is finite and has the sign that it should have. -/
theorem nearest?_finite {negative : Bool} {num den : Nat} {x : Float} (positive : 0 < den)
    (found : nearest? negative num den = .some x) :
    ∃ m e, Binary.ofFloat x = .finite negative m e ∧ (num = 0 → m = 0) := by
  rcases Nat.eq_zero_or_pos num with rfl | some
  · have zero : nearestBits 0 den = 0 := rfl
    rw [nearest?, zero] at found
    refine ⟨0, -1074, ?_, fun _ => rfl⟩
    cases negative <;> cases found <;> decide
  · obtain ⟨-, -, m, e, -, read, -⟩ := nearest?_read some positive found
    exact ⟨m, e, read, fun none => absurd none some.ne'⟩

/-- A quotient that is not beyond the largest float has a nearest float. -/
theorem nearest?_isSome {negative : Bool} {num den : Nat} (positive : 0 < den)
    (small : (num : Rat) / den ≤ largest) : (nearest? negative num den).isSome := by
  unfold nearest?
  dsimp only
  rcases Nat.eq_zero_or_pos num with rfl | some
  · rfl
  obtain ⟨mantissa, exponent, nearest, written⟩ := nearestBits_nearest some positive
  rw [written, if_neg (not_le.mpr (nearest.bits_lt small))]
  rfl

end BuildBench.Decimal
