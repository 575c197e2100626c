import Mathlib.Data.Nat.Sqrt
import Mathlib.Algebra.Order.Ring.Unbundled.Basic
import Mathlib.Data.Nat.Cast.Order.Field
import BuildBench.Proofs.Decimal.NearestFloat

/-!
# Square roots

Newton's iteration from above halves the distance to the root at least, so one step for each bit of
the number and a few more reach it. The root of a quotient has a nearest float unless it is itself
beyond the largest one.
-/

namespace BuildBench.Decimal

/-! ## Whole numbers -/

/-- A step from above the root stays above it and goes at least half of the way. -/
theorem newton_step {n r : Nat} (above : n.sqrt < r) :
    n.sqrt ≤ (r + n / r) / 2 ∧ n / r ≤ n.sqrt := by
  have root := Nat.sqrt_le n
  have next := Nat.lt_succ_sqrt n
  generalize n.sqrt = s at above root next
  have below : n / r ≤ s := by
    have : n < r * (s + 1) := next.trans_le (Nat.mul_le_mul_right _ above)
    exact Nat.lt_succ_iff.mp (Nat.div_lt_of_lt_mul this)
  refine ⟨?_, below⟩
  by_contra far
  have least : r * (n / r + 1 + r) ≤ r * (2 * s) := Nat.mul_le_mul_left _ (by omega)
  have beyond := Nat.lt_mul_div_succ n (show 0 < r by omega)
  have squares := two_mul_le_add_sq s r
  nlinarith

/-- By induction on the steps: above the root a step halves the distance at least, and at the root
no step leads further down. -/
theorem improve_eq {n : Nat} (steps : Nat) {r : Nat} (above : n.sqrt ≤ r)
    (near : r - n.sqrt < 2 ^ steps) : sqrtFloor.improve n steps r = n.sqrt := by
  induction steps generalizing r with
  | zero =>
    unfold sqrtFloor.improve
    omega
  | succ steps ih =>
    unfold sqrtFloor.improve
    dsimp only
    rcases Nat.lt_or_eq_of_le above with farther | rfl
    · obtain ⟨still, half⟩ := newton_step farther
      rw [if_pos (by omega)]
      exact ih still (by omega)
    · have : n.sqrt ≤ n / n.sqrt := by
        rcases Nat.eq_zero_or_pos n.sqrt with zero | positive
        · exact zero ▸ Nat.zero_le _
        · exact (Nat.le_div_iff_mul_le positive).mpr (Nat.sqrt_le n)
      rw [if_neg (by omega)]

/-- The first guess is above the root, and there are steps enough. -/
theorem sqrtFloor_eq (n : Nat) : sqrtFloor n = n.sqrt := by
  unfold sqrtFloor
  split
  · next zero =>
    subst zero
    rfl
  · next some =>
    have root : n.sqrt < 2 ^ (n.log2 / 2 + 1) := by
      rw [Nat.sqrt_lt', ← Nat.pow_mul]
      exact (Nat.log2_lt some).mp (by omega)
    have enough : 2 ^ (n.log2 / 2 + 1) < 2 ^ (n.log2 + 8) :=
      Nat.pow_lt_pow_right one_lt_two (by omega)
    rw [Nat.pow_eq]
    exact improve_eq _ root.le (by omega)

/-! ## Quotients -/

/-- If it were greater, so would its square be, and half of a square is less than nine sixteenths of
it. -/
theorem le_of_square_le {r bound : Rat} (positive : 0 ≤ bound) (square : r * r ≤ bound * bound / 2) :
    r ≤ 3 / 4 * bound := by
  by_contra above
  rw [not_le] at above
  have squares := mul_self_lt_mul_self (mul_nonneg (by norm_num) positive) above
  linarith [mul_self_nonneg bound]

/-- The unit in which the root is taken is small beside the largest float. -/
theorem half_le {num den : Nat} (some : 0 < num) (positive : 0 < den)
    (small : (num : Rat) / den ≤ largest * largest / 2) :
    ((num.log2 : Int) - den.log2 - 109) / 2 ≤ 969 := by
  have least := (guess_bounds some positive).1
  have half : largest * largest / 2 < 2 ^ (2047 : Int) := by
    have twice : (2 : Rat) ^ (2047 : Int) * 2 = 2 ^ (1024 : Int) * 2 ^ (1024 : Int) := by
      rw [← zpow_add₀ two_ne_zero, ← zpow_add_one₀ two_ne_zero]
      rfl
    rw [div_lt_iff₀ two_pos, twice]
    exact mul_self_lt_mul_self largest_pos.le largest_lt
  have := exponent_lt ((least.trans small).trans_lt half)
  omega

/-- The root of a quotient, taken of the whole units in it, is well below the largest float. -/
theorem root_le {num den : Nat} (positive : 0 < den)
    (small : (num : Rat) / den ≤ largest * largest / 2) (half : Int) :
    ((num * 2 ^ (-(2 * half)).toNat / (den * 2 ^ (2 * half).toNat)).sqrt : Rat) * 2 ^ half ≤
      3 / 4 * largest := by
  have unit : (0 : Rat) < 2 ^ half := zpow_pos two_pos _
  have squared := @scaled_quotient num den positive (2 * half)
  generalize den * 2 ^ (2 * half).toNat = units at squared ⊢
  generalize num * 2 ^ (-(2 * half)).toNat = parts at squared ⊢
  have floor : ((parts / units).sqrt * (parts / units).sqrt : Rat) ≤ num / den / 2 ^ (2 * half) := by
    rw [← squared]
    exact le_trans (by exact_mod_cast Nat.sqrt_le (parts / units)) Nat.cast_div_le
  rw [two_mul, zpow_add₀ two_ne_zero, le_div_iff₀ (mul_pos unit unit)] at floor
  apply le_of_square_le largest_pos.le
  rw [mul_mul_mul_comm]
  exact floor.trans small

/-- The root of a quotient has a nearest float, if the quotient is at most half of the square of the
largest one. -/
theorem sqrtNearest?_isSome {num den : Nat} (positive : 0 < den)
    (small : (num : Rat) / den ≤ largest * largest / 2) : (sqrtNearest? num den).isSome := by
  unfold sqrtNearest?
  split
  · rfl
  next some =>
  have units := half_le (Nat.pos_of_ne_zero some) positive small
  dsimp only
  simp only [Nat.pow_eq, sqrtFloor_eq]
  generalize ((num.log2 : Int) - den.log2 - 109) / 2 = half at units
  have unit : (0 : Rat) < 2 ^ half := zpow_pos two_pos _
  have root := root_le positive small half
  generalize (num * 2 ^ (-(2 * half)).toNat / (den * 2 ^ (2 * half).toNat)).sqrt = floor at root
  have last : (2 : Rat) ^ half ≤ 1 / 4 * largest :=
    calc (2 : Rat) ^ half ≤ 2 ^ (971 : Int) := zpow_le_zpow_right₀ one_le_two (by omega)
      _ ≤ 1 / 4 * largest := by
        rw [largest, ← mul_assoc]
        exact le_mul_of_one_le_left (zpow_pos two_pos _).le (by norm_num)
  -- Whether the root is exact changes its last bit only.
  obtain ⟨rounded, sticky, same⟩ : ∃ rounded, rounded ≤ floor + 1 ∧
      rounded = if floor * floor * (den * 2 ^ (2 * half).toNat) = num * 2 ^ (-(2 * half)).toNat
        then floor else floor / 2 * 2 + 1 := ⟨_, by split <;> omega, rfl⟩
  rw [← same]
  apply nearest?_isSome (Nat.pow_pos two_pos)
  have value : ((rounded * 2 ^ half.toNat : Nat) : Rat) / (2 ^ (-half).toNat : Nat) =
      rounded * 2 ^ half := by
    rw [two_zpow_eq]
    push_cast
    rw [mul_div_assoc]
  have near : (rounded : Rat) * 2 ^ half ≤ (floor + 1) * 2 ^ half :=
    mul_le_mul_of_nonneg_right (by exact_mod_cast sticky) unit.le
  rw [value]
  linarith

end BuildBench.Decimal
