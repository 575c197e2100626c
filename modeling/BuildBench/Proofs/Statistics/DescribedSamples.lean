import BuildBench.Proofs.Decimal.FloatProducts
import BuildBench.Proofs.Decimal.SquareRoots
import BuildBench.Timing.Layout

/-!
# Samples that can be described

A percentile is looked for at a position that is computed with floats, and rounding must not lead
outside the list. The deviation must not be beyond the largest float. Neither happens to finite
values that are not negative, as long as there are not too many of them to be counted by a float.
-/

namespace BuildBench

open Decimal

namespace Statistics

/-! ## Positions -/

/-- Mantissas with the least exponent stand for values below a half. -/
theorem tiny : 2 ^ 53 * (2 : Rat) ^ (-1074 : Int) ≤ 1 / 2 :=
  calc 2 ^ 53 * (2 : Rat) ^ (-1074 : Int) = 2 ^ (-1021 : Int) := by
        rw [← zpow_natCast, ← zpow_add₀ two_ne_zero]
        rfl
    _ ≤ 2 ^ (-1 : Int) := zpow_le_zpow_right₀ one_le_two (by norm_num)
    _ = 1 / 2 := by norm_num

/-- The float nearest to a positive whole number has all bits of its mantissa, and differs from the
number by far less than a sixteenth of it. -/
theorem ofInt?_read {n : Nat} (some : 0 < n) {x : Float} (counted : ofInt? n = .some x) :
    ∃ m e, Binary.ofFloat x = .finite false m e ∧ 2 ^ 52 ≤ m ∧
      (n : Rat) / 2 ≤ m * 2 ^ e ∧ (m : Rat) * 2 ^ e ≤ 17 / 16 * n := by
  have plus : decide ((n : Int) < 0) = false := by simp
  rw [ofInt?, plus, Int.natAbs_natCast] at counted
  obtain ⟨mantissa, exponent, m, e, nearest, read, value, short, long⟩ :=
    nearest?_read some one_pos counted
  rw [Nat.cast_one, div_one] at nearest
  have one : (1 : Rat) ≤ n := by exact_mod_cast some
  have above : -1074 < exponent := by
    refine lt_of_le_of_ne nearest.least fun least => ?_
    have := nearest.short
    rw [← least] at this
    linarith [tiny]
  have unit := nearest.normal above
  have near := abs_le.mp nearest.near
  have low : (n : Rat) / 2 ≤ m * 2 ^ e := by linarith
  refine ⟨m, e, read, long.resolve_right ?_, low, by linarith⟩
  rintro rfl
  have : (m : Rat) * 2 ^ (-1074 : Int) < 2 ^ 53 * 2 ^ (-1074 : Int) :=
    mul_lt_mul_of_pos_right (by exact_mod_cast short) (zpow_pos two_pos _)
  linarith [tiny]

/-- A fraction of the way, as a float: neither less than a quarter nor more than three. -/
def IsMiddle (p : Float) : Prop :=
  ∃ m e, Binary.ofFloat p = .finite false m e ∧ 0 < m ∧ 1 / 4 ≤ (m : Rat) * 2 ^ e ∧
    (m : Rat) * 2 ^ e ≤ 3 / 4

/-- With its mantissa and exponent written out. -/
theorem quarter_isMiddle : IsMiddle quarter :=
  ⟨2 ^ 52, -54, by decide +kernel, by norm_num, by norm_num, by norm_num⟩

/-- With its mantissa and exponent written out. -/
theorem threeQuarters_isMiddle : IsMiddle threeQuarters :=
  ⟨3 * 2 ^ 51, -53, by decide +kernel, by norm_num, by norm_num, by norm_num⟩

/-- The position of a percentile is not outside the list, in spite of the rounding. -/
theorem position_between {n : Nat} (some : 0 < n) {x p : Float} (counted : ofInt? n = .some x)
    (middle : IsMiddle p) : ∃ q, toRat? (x * p) = .some q ∧ 0 ≤ q ∧ q ≤ n := by
  obtain ⟨m, e, left, long, low, high⟩ := ofInt?_read some counted
  obtain ⟨k, f, right, positive, least, most⟩ := middle
  have one : (1 : Rat) ≤ n := by exact_mod_cast some
  have size := magnitude_le_largest left
  generalize exact : (m : Rat) * 2 ^ e * (k * 2 ^ f) = product
  have below : 1 / 2 * (1 / 4) ≤ product :=
    exact ▸ mul_le_mul (by linarith) least (by norm_num) (by linarith)
  have above : product ≤ m * 2 ^ e * (3 / 4) :=
    exact ▸ mul_le_mul_of_nonneg_left most (by linarith)
  have slack : product * (1 + 2 ^ (-52 : Int)) ≤ product * (17 / 16) :=
    mul_le_mul_of_nonneg_left (by norm_num) (by linarith)
  have normal : (2 : Rat) ^ (-1022 : Int) ≤ product :=
    calc (2 : Rat) ^ (-1022 : Int) ≤ 2 ^ (-3 : Int) := zpow_le_zpow_right₀ one_le_two (by norm_num)
      _ = 1 / 2 * (1 / 4) := by norm_num
      _ ≤ product := below
  obtain ⟨r, g, read, bound⟩ := ofFloat_mul_positive left right long positive exact.symm normal
    ((slack.trans (by linarith)).trans_lt largest_lt)
  refine ⟨_, toRat?_finite read, ?_, ?_⟩
  · exact mul_nonneg (Nat.cast_nonneg _) (zpow_pos two_pos _).le
  · exact bound.trans (slack.trans (by linarith))

/-! ## Percentiles -/

/-- Two computations one after the other come to a value if both do. -/
theorem ok_bind {α β : Type} {r : Except Fault α} {next : α → Except Fault β}
    (first : ∃ x, r = .ok x) (second : ∀ x, ∃ y, next x = .ok y) : ∃ y, (r >>= next) = .ok y := by
  obtain ⟨x, rfl⟩ := first
  exact second x

/-- There is a value at every position of a list. -/
theorem valueAt_ok {xs : List Float} {i : Int} (low : 0 ≤ i) (high : i < xs.length) :
    ∃ x, valueAt xs i = .ok x := by
  unfold valueAt
  have inside : i.toNat < xs.length := by omega
  simp only [not_lt.mpr low, if_false, List.getElem?_eq_getElem inside]
  exact ⟨_, rfl⟩

/-- The positions of a sample can be counted by a float. -/
def Countable (xs : List Float) : Prop := (ofInt? ((xs.length : Int) - 1)).isSome

/-- The position is a finite number inside the list, so its floor and its ceiling are indices. -/
theorem percentile_ok (empty : Float) {xs : List Float} (countable : Countable xs) {p : Float}
    (middle : IsMiddle p) : ∃ x, percentile empty xs p = .ok x := by
  unfold percentile
  split
  · exact ⟨_, rfl⟩
  · exact ⟨_, rfl⟩
  next several single =>
  have several : 2 ≤ xs.length := by
    rcases xs with _ | ⟨x, _ | _⟩
    · exact absurd rfl several
    · exact absurd rfl (single x)
    · simp
  have last : (xs.length : Int) - 1 = (xs.length - 1 : Nat) := by omega
  obtain ⟨x, counted⟩ := Option.isSome_iff_exists.mp countable
  have position : Arithmetic.ofInt ((xs.length : Int) - 1) * p = x * p := by
    change (ofInt? _).getD infinity * p = x * p
    rw [counted]
    rfl
  rw [last] at counted
  obtain ⟨q, value, low, high⟩ := position_between (by omega) counted middle
  have floor : Arithmetic.floor (x * p) = .ok q.floor := by
    change wholeNext Rat.floor (x * p) = _
    rw [wholeNext, value]
  have ceiling : Arithmetic.ceiling (x * p) = .ok q.ceil := by
    change wholeNext Rat.ceil (x * p) = _
    rw [wholeNext, value]
  have least : 0 ≤ q.floor := Rat.le_floor_iff.mpr (by exact_mod_cast low)
  have most : q.ceil ≤ (xs.length - 1 : Nat) := Rat.ceil_le_iff.mpr (by exact_mod_cast high)
  have order : q.floor ≤ q.ceil := by
    exact_mod_cast (Rat.floor_le q).trans Rat.le_ceil
  have first := @valueAt_ok xs q.floor least (by omega)
  have second := @valueAt_ok xs q.ceil (by omega) (by omega)
  rw [position]
  dsimp only
  rw [floor, ceiling]
  change ∃ y, (if q.floor = q.ceil then valueAt xs q.floor else _) = Except.ok y
  split
  · exact first
  · exact ok_bind first fun a => ok_bind second fun b => ⟨_, rfl⟩

/-! ## Samples -/

/-- A finite value that is not negative, like the time between two readings of a clock. -/
def IsDuration (x : Float) : Prop := ∃ q, toRat? x = some q ∧ 0 ≤ q

/-- A fraction rounded to decimal places is not beyond the largest float. -/
theorem unitsOf_le (places : Nat) {mantissa : Nat} {exponent : Int} (short : mantissa < 2 ^ 53)
    (fraction : exponent < 0) :
    (unitsOf places mantissa exponent : Rat) / (Nat.pow 10 places : Nat) ≤ largest := by
  have units : (1 : Rat) ≤ (Nat.pow 10 places : Nat) := by
    exact_mod_cast Nat.pow_pos (show 0 < 10 by norm_num)
  have halves : 1 ≤ Nat.pow 2 (-exponent).toNat := Nat.pow_pos two_pos
  have near := (abs_le.mp (roundDiv_near (mantissa * Nat.pow 10 places) halves)).2
  have whole : ((mantissa * Nat.pow 10 places : Nat) : Rat) / (Nat.pow 2 (-exponent).toNat : Nat) ≤
      mantissa * (Nat.pow 10 places : Nat) := by
    rw [← Nat.cast_mul]
    exact div_le_self (Nat.cast_nonneg _) (by exact_mod_cast halves)
  have next : (mantissa : Rat) + 1 ≤ 2 ^ 53 := by exact_mod_cast short
  have enough : (2 : Rat) ^ 53 ≤ largest :=
    calc (2 : Rat) ^ 53 ≤ (2 ^ 53 - 1) * 2 ^ (1 : Int) := by norm_num
      _ ≤ largest := mul_le_mul_of_nonneg_left (zpow_le_zpow_right₀ one_le_two (by norm_num))
        (by norm_num)
  unfold unitsOf scaled
  dsimp only
  rw [show Nat.pow 2 exponent.toNat = 1 by rw [Int.toNat_of_nonpos fraction.le], mul_one,
    div_le_iff₀ (by linarith)]
  calc (roundDiv (mantissa * Nat.pow 10 places) (Nat.pow 2 (-exponent).toNat) : Rat)
      ≤ (mantissa + 1) * (Nat.pow 10 places : Nat) := by linarith
    _ ≤ largest * (Nat.pow 10 places : Nat) :=
      mul_le_mul_of_nonneg_right (next.trans enough) (by linarith)

/-- Rounding to decimal places keeps durations. -/
theorem IsDuration.roundPlaces {x : Float} (duration : IsDuration x) (places : Nat) :
    IsDuration (roundPlaces places x) := by
  obtain ⟨q, value, positive⟩ := duration
  obtain ⟨negative, mantissa, exponent, read, rfl⟩ := exists_of_toRat? value
  unfold Decimal.roundPlaces
  rw [read]
  dsimp only
  split
  · exact ⟨_, value, positive⟩
  next fraction =>
  have some : 0 < Nat.pow 10 places := Nat.pow_pos (by norm_num)
  have small := unitsOf_le places (Binary.ofFloat_finite read).1 (not_le.mp fraction)
  obtain ⟨y, found⟩ := Option.isSome_iff_exists.mp (@nearest?_isSome negative _ _ some small)
  obtain ⟨m, e, rounded, zero⟩ := nearest?_finite some found
  rw [nearest, found]
  refine ⟨_, toRat?_finite rounded, ?_⟩
  cases negative with
  | false => exact mul_nonneg (Nat.cast_nonneg _) (zpow_pos two_pos _).le
  | true =>
    -- A value that is not negative in spite of its sign is zero, and stays zero.
    have none : mantissa = 0 := by
      by_contra nonzero
      have : (0 : Rat) < mantissa * 2 ^ exponent :=
        mul_pos (by exact_mod_cast Nat.pos_of_ne_zero nonzero) (zpow_pos two_pos _)
      exact absurd positive (not_le.mpr (neg_lt_zero.mpr this))
    subst none
    rw [zero (by simp [unitsOf, scaled, roundDiv])]
    simp [withSign]

/-- What has a rational value is a number. -/
theorem IsDuration.isNaN {x : Float} (duration : IsDuration x) : x.isNaN = false := by
  obtain ⟨q, value, -⟩ := duration
  obtain ⟨negative, mantissa, exponent, read, -⟩ := exists_of_toRat? value
  rw [isNaN_eq, read]
  exact decide_eq_false nofun

/-- Durations are comparable, so the list is sorted and not refused. -/
theorem ascending_perm {xs : List Float} (durations : ∀ x ∈ xs, IsDuration x) :
    (Arithmetic.ascending xs).Perm xs := by
  have comparable : xs.any Float.isNaN = false := by
    rw [List.any_eq_false]
    intro x inside
    rw [(durations x inside).isNaN]
    exact Bool.false_ne_true
  change (floatAscending xs).Perm xs
  rw [floatAscending, comparable]
  exact List.mergeSort_perm _ _

/-- By induction on the durations: each has a rational value within the bounds. -/
theorem exactValues?_ok {xs : List Float} (durations : ∀ x ∈ xs, IsDuration x) :
    ∃ qs, exactValues? xs = some qs ∧ qs.length = xs.length ∧ ∀ q ∈ qs, 0 ≤ q ∧ q ≤ largest := by
  unfold exactValues?
  induction xs with
  | nil => exact ⟨[], rfl, rfl, by simp⟩
  | cons x rest ih =>
    obtain ⟨q, value, positive⟩ := durations x List.mem_cons_self
    obtain ⟨qs, exact, long, bounded⟩ := ih fun y inside => durations y (List.mem_cons_of_mem _ inside)
    refine ⟨q :: qs, by simp [value, exact], by simp [long], ?_⟩
    rintro r (- | ⟨_, inside⟩)
    · exact ⟨positive, le_largest value⟩
    · exact bounded r inside

/-- By induction on the values: the square of a value between 0 and the bound is at most the bound
times the value. -/
theorem total_squares_le (m : Rat) {bound : Rat} {qs : List Rat}
    (bounded : ∀ q ∈ qs, 0 ≤ q ∧ q ≤ bound) :
    total (qs.map fun q => (q - m) * (q - m)) ≤ (bound - 2 * m) * total qs + qs.length * (m * m) := by
  induction qs with
  | nil => simp [total]
  | cons q rest ih =>
    obtain ⟨low, high⟩ := bounded q List.mem_cons_self
    have others := ih fun r inside => bounded r (List.mem_cons_of_mem _ inside)
    have here : q * q ≤ bound * q := mul_le_mul_of_nonneg_right high low
    change (q - m) * (q - m) + total (rest.map _) ≤
      (bound - 2 * m) * (q + total rest) + (rest.length + 1 : Nat) * (m * m)
    push_cast
    linarith

/-- Values between zero and some bound have at most half of its square as their variance. -/
theorem variance_le {qs : List Rat} {bound : Rat} (several : 2 ≤ qs.length)
    (bounded : ∀ q ∈ qs, 0 ≤ q ∧ q ≤ bound) : variance qs ≤ bound * bound / 2 := by
  have many : (2 : Rat) ≤ qs.length := by exact_mod_cast several
  have squares := total_squares_le (ratMean qs) bounded
  have whole : total qs = qs.length * ratMean qs := by
    rw [ratMean, mul_div_cancel₀]
    positivity
  rw [whole] at squares
  unfold variance
  dsimp only
  generalize ratMean qs = m at squares
  rw [div_le_iff₀ (by linarith)]
  have middle := mul_nonneg (show (0 : Rat) ≤ qs.length by linarith) (mul_self_nonneg (bound - 2 * m))
  have slack := mul_nonneg (show (0 : Rat) ≤ qs.length - 2 by linarith) (mul_self_nonneg bound)
  linarith

/-- The variance of the exact values is small enough for its square root to be a finite number. -/
theorem deviation_ok {xs : List Float} (several : 2 ≤ xs.length)
    (durations : ∀ x ∈ xs, IsDuration x) : ∃ y, deviation xs = .ok y := by
  obtain ⟨qs, exact, long, bounded⟩ := exactValues?_ok durations
  have small := variance_le (long ▸ several) bounded
  unfold deviation
  rw [exact]
  dsimp only
  generalize variance qs = v at small
  have root : (sqrtNearest? v.num.toNat v.den).isSome := by
    apply sqrtNearest?_isSome v.den_pos
    rcases le_or_gt 0 v.num with positive | negative
    · have whole : ((v.num.toNat : Nat) : Rat) = v.num := by
        exact_mod_cast Int.toNat_of_nonneg positive
      rwa [whole, Rat.num_div_den]
    · rw [Int.toNat_of_nonpos negative.le, Nat.cast_zero, zero_div]
      exact div_nonneg (mul_self_nonneg _) two_pos.le
  obtain ⟨y, found⟩ := Option.isSome_iff_exists.mp root
  rw [found]
  exact ⟨y, rfl⟩

/-- Each figure of the summary is one that was shown to be computed. -/
theorem summarise_ok (empty : Float) {xs : List Float} (durations : ∀ x ∈ xs, IsDuration x)
    (countable : Countable xs) : ∃ s, summarise empty xs = .ok s := by
  have perm := ascending_perm durations
  have countable' : Countable (Arithmetic.ascending xs) := by
    rwa [Countable, perm.length_eq]
  unfold summarise
  dsimp only
  split
  · exact ⟨_, rfl⟩
  · exact ok_bind (percentile_ok empty countable' quarter_isMiddle) fun q1 =>
      ok_bind (percentile_ok empty countable' threeQuarters_isMiddle) fun q3 => ⟨_, rfl⟩

/-- Finite values that are not negative can be described. -/
theorem describe_ok {xs : List Float} (durations : ∀ x ∈ xs, IsDuration x)
    (countable : Countable xs) : ∃ d, describe xs = .ok d := by
  have perm := ascending_perm durations
  have summarised := summarise_ok notANumber durations countable
  unfold describe
  split
  · exact ok_bind summarised fun s => ⟨_, rfl⟩
  · dsimp only
    split
    · next several =>
      have deviated := deviation_ok (perm.length_eq ▸ several) fun x inside =>
        durations x (perm.mem_iff.mp inside)
      exact ok_bind deviated fun dev => ok_bind summarised fun s => ⟨_, rfl⟩
    · exact ok_bind ⟨0.0, rfl⟩ fun dev => ok_bind summarised fun s => ⟨_, rfl⟩

/-- Both quartiles are computed, and the rest is comparing. -/
theorem outliers_ok (empty factor : Float) {xs : List Float}
    (durations : ∀ x ∈ xs, IsDuration x) (countable : Countable xs) :
    ∃ flags, outliers empty factor xs = .ok flags := by
  have perm := ascending_perm durations
  have countable' : Countable (Arithmetic.ascending xs) := by
    rwa [Countable, perm.length_eq]
  unfold outliers
  split
  · exact ⟨_, rfl⟩
  · exact ok_bind (percentile_ok empty countable' quarter_isMiddle) fun q1 =>
      ok_bind (percentile_ok empty countable' threeQuarters_isMiddle) fun q3 => ⟨_, rfl⟩

end Statistics

namespace Timing

open Statistics

/-- The summary of times that can be described can be laid out. -/
theorem layOut_ok {s : TimingSummary} (index : Int) (durations : ∀ x ∈ s.times, IsDuration x)
    (countable : Countable s.times) : ∃ text, layOut s index = .ok text :=
  ok_bind (ok_bind (outliers_ok _ _ durations countable) fun _ => ⟨_, rfl⟩) fun _ => ⟨_, rfl⟩

end Timing

end BuildBench
