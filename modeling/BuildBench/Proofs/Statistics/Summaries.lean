import BuildBench.Proofs.Decimal.NearestFloat
import BuildBench.Proofs.Statistics.Percentiles
import BuildBench.Statistics.Description

/-!
# Summaries in exact numbers

The numbers of a summary follow each other as their names say, before and after they are rounded for
a report: all but the mean are values of one ascending line at positions that ascend, and the mean
lies between the ends of the line. The order of the sample does not matter, and a change of unit
changes the summary alike and the variance by its square.
-/

namespace BuildBench.Statistics

open Decimal

variable {xs : List Rat} {q r : Rat}

/-! ## Rounding -/

/-- The whole number nearest to some number, the even one of two that are. -/
def nearestWhole (q : Rat) : Int :=
  let part := q - q.floor
  if part < 1 / 2 then q.floor
  else if part = 1 / 2 then q.floor + q.floor % 2
  else q.floor + 1

/-- A number with some decimal places. -/
def roundedTo (places : Nat) (q : Rat) : Rat :=
  nearestWhole (q * (Nat.pow 10 places : Nat)) / (Nat.pow 10 places : Nat)

/-- Each way of rounding takes the floor or the number after it. -/
theorem nearestWhole_between (q : Rat) : q.floor ≤ nearestWhole q ∧ nearestWhole q ≤ q.floor + 1 := by
  unfold nearestWhole
  dsimp only
  split
  · omega
  · split <;> omega

/-- For one floor the larger fraction does not round to the smaller number; for two floors the
larger one is already at least the smaller one plus 1. -/
theorem nearestWhole_mono (order : q ≤ r) : nearestWhole q ≤ nearestWhole r := by
  rcases (Rat.floor_monotone order).eq_or_lt with same | before
  · have parts : q - q.floor ≤ r - r.floor := by
      rw [same]
      linarith
    unfold nearestWhole
    rw [same] at parts ⊢
    dsimp only
    split_ifs <;> first | omega | (exfalso; grind)
  · exact (nearestWhole_between q).2.trans ((Int.add_one_le_of_lt before).trans
      (nearestWhole_between r).1)

/-- Scaling up, rounding to a whole number and scaling down each keep the order. -/
theorem roundedTo_mono (places : Nat) (order : q ≤ r) : roundedTo places q ≤ roundedTo places r := by
  have units : (0 : Rat) ≤ (Nat.pow 10 places : Nat) := Nat.cast_nonneg _
  exact div_le_div_of_nonneg_right
    (by exact_mod_cast nearestWhole_mono (mul_le_mul_of_nonneg_right order units)) units

/-- The floor is the quotient and the fraction the remainder over the divisor, so the two compare
with a half in the same way. -/
theorem nearestWhole_quotient (num : Nat) {den : Nat} (positive : 0 < den) :
    nearestWhole (num / den) = roundDiv num den := by
  have floor : ((num : Rat) / den).floor = (num / den : Nat) := Rat.floor_natCast_div_natCast num den
  have above : (0 : Rat) < den := by exact_mod_cast positive
  have part : (num : Rat) / den - (num / den : Nat) = (num % den : Nat) / den := by
    rw [eq_div_iff above.ne', sub_mul, div_mul_cancel₀ _ above.ne', sub_eq_iff_eq_add]
    exact_mod_cast (Nat.mod_add_div' num den).symm
  have below : ((num % den : Nat) : Rat) / den < 1 / 2 ↔ 2 * (num % den) < den := by
    rw [div_lt_div_iff₀ above two_pos]
    constructor <;> intro less
    · have : ((num % den * 2 : Nat) : Rat) < (1 * den : Nat) := by exact_mod_cast less
      have := Nat.cast_lt.mp this
      omega
    · have : num % den * 2 < 1 * den := by omega
      exact_mod_cast this
  have half : ((num % den : Nat) : Rat) / den = 1 / 2 ↔ 2 * (num % den) = den := by
    rw [div_eq_div_iff above.ne' two_ne_zero]
    constructor <;> intro same
    · have : ((num % den * 2 : Nat) : Rat) = (1 * den : Nat) := by exact_mod_cast same
      have := Nat.cast_injective this
      omega
    · have : num % den * 2 = 1 * den := by omega
      exact_mod_cast this
  unfold nearestWhole roundDiv
  dsimp only
  rw [floor, Int.cast_natCast, part]
  simp only [below, half]
  split_ifs <;> omega

/-- A negated fraction is measured from the other side, and a half goes to the even number on both.
-/
theorem nearestWhole_neg (q : Rat) : nearestWhole (-q) = -nearestWhole q := by
  have low := Rat.floor_le q
  have high := Rat.lt_floor_add_one q
  push_cast at high
  rcases low.eq_or_lt with whole | fraction
  · have floor : (-q).floor = -q.floor := by
      rw [← whole, Rat.floor_intCast, ← Int.cast_neg, Rat.floor_intCast]
    unfold nearestWhole
    dsimp only
    rw [floor]
    push_cast
    rw [if_pos (by linarith), if_pos (by linarith)]
  · have floor : (-q).floor = -q.floor - 1 := by
      have least : -q.floor - 1 ≤ (-q).floor := Rat.le_floor_iff.mpr (by push_cast; linarith)
      have most : (-q).floor < -q.floor := Rat.floor_lt_iff.mpr (by push_cast; linarith)
      omega
    unfold nearestWhole
    dsimp only
    rw [floor]
    push_cast
    split_ifs <;> first | omega | (exfalso; linarith) | (exfalso; grind)

/-- A whole number has no fraction. -/
theorem nearestWhole_intCast (z : Int) : nearestWhole z = z := by
  unfold nearestWhole
  dsimp only
  rw [Rat.floor_intCast, sub_self, if_pos (by norm_num)]

/-- Rounding a float is rounding its exact value, up to the last step to a float. -/
theorem roundPlaces_reads {x : Float} (value : toRat? x = some q) (places : Nat) :
    roundPlaces places x = x ∧ roundedTo places q = q ∨
      ∃ negative n, roundPlaces places x = nearest negative n (Nat.pow 10 places) ∧
        roundedTo places q = withSign negative (n / (Nat.pow 10 places : Nat)) := by
  obtain ⟨negative, mantissa, exponent, read, rfl⟩ := exists_of_toRat? value
  have sign (y : Rat) : nearestWhole (withSign negative y) = if negative then -nearestWhole y
      else nearestWhole y := by
    cases negative
    · rfl
    · exact nearestWhole_neg y
  have units : (0 : Rat) < (Nat.pow 10 places : Nat) := by
    exact_mod_cast Nat.pow_pos (show 0 < 10 by norm_num)
  unfold roundPlaces
  rw [read]
  dsimp only
  split
  · next whole =>
    -- The value is a whole number, so nothing is left behind any of its places.
    refine .inl ⟨rfl, ?_⟩
    obtain ⟨n, rfl⟩ := Int.eq_ofNat_of_zero_le whole
    obtain ⟨z, exact⟩ : ∃ z : Int, withSign negative (mantissa * 2 ^ (n : Int)) = z := by
      cases negative
      · exact ⟨mantissa * 2 ^ n, by simp [withSign]⟩
      · exact ⟨-(mantissa * 2 ^ n), by simp [withSign]⟩
    rw [roundedTo, exact, ← Int.cast_natCast (Nat.pow 10 places), ← Int.cast_mul,
      nearestWhole_intCast, Int.cast_mul, Int.cast_natCast, mul_div_cancel_right₀ _ units.ne']
  · next fraction =>
    refine .inr ⟨negative, unitsOf places mantissa exponent, rfl, ?_⟩
    have magnitude : nearestWhole (mantissa * 2 ^ exponent * (Nat.pow 10 places : Nat)) =
        unitsOf places mantissa exponent := by
      have den : 0 < Nat.pow 2 (-exponent).toNat := Nat.pow_pos two_pos
      rw [unitsOf, scaled, ← nearestWhole_quotient _ den, two_zpow_eq]
      congr 1
      push_cast [Nat.pow_eq]
      ring
    have outside : withSign negative (mantissa * 2 ^ exponent) * (Nat.pow 10 places : Nat) =
        withSign negative (mantissa * 2 ^ exponent * (Nat.pow 10 places : Nat)) := by
      cases negative
      · rfl
      · exact neg_mul _ _
    rw [roundedTo, outside, sign, magnitude]
    cases negative
    · simp [withSign]
    · simp [withSign, neg_div]

/-! ## The numbers of a summary -/

/-- The numbers of a summary stand in the order that their names promise. -/
structure Summary.Ordered (s : Summary Rat) : Prop where
  least_le_q1 : s.least ≤ s.q1
  q1_le_median : s.q1 ≤ s.median
  median_le_q3 : s.median ≤ s.q3
  q3_le_greatest : s.q3 ≤ s.greatest
  least_le_mean : s.least ≤ s.mean
  mean_le_greatest : s.mean ≤ s.greatest

/-- A summary with all of its numbers changed. -/
def Summary.map {α β : Type} (change : α → β) (s : Summary α) : Summary β where
  mean := change s.mean
  median := change s.median
  least := change s.least
  greatest := change s.greatest
  q1 := change s.q1
  q3 := change s.q3

/-- Each inequality is kept by a change that keeps the order. -/
theorem Summary.Ordered.map {s : Summary Rat} {change : Rat → Rat} (ordered : s.Ordered)
    (mono : ∀ q r, q ≤ r → change q ≤ change r) : (s.map change).Ordered where
  least_le_q1 := mono _ _ ordered.least_le_q1
  q1_le_median := mono _ _ ordered.q1_le_median
  median_le_q3 := mono _ _ ordered.median_le_q3
  q3_le_greatest := mono _ _ ordered.q3_le_greatest
  least_le_mean := mono _ _ ordered.least_le_mean
  mean_le_greatest := mono _ _ ordered.mean_le_greatest

/-- The value of the line through a list at a fraction of the way. -/
def partWay (sorted : List Rat) (p : Rat) : Rat := interpolated sorted ((sorted.length - 1) * p)

/-- A larger part of the way is a later position, and the values along an ascending list do not
fall. -/
theorem partWay_mono {sorted : List Rat} (ascending : sorted.Pairwise (· ≤ ·)) (some : sorted ≠ [])
    {p p' : Rat} (low : 0 ≤ p) (order : p ≤ p') (high : p' ≤ 1) :
    partWay sorted p ≤ partWay sorted p' :=
  interpolated_mono ascending (position_inside some low (order.trans high)).1
    (mul_le_mul_of_nonneg_left order (last_nonneg some))
    (position_inside some (low.trans order) high).2

/-- No part of the way is the first index. -/
theorem partWay_start (sorted : List Rat) : partWay sorted 0 = sorted.getD 0 0 := by
  rw [partWay, mul_zero]
  exact interpolated_whole sorted 0

/-- The whole way is the last index. -/
theorem partWay_end {sorted : List Rat} (some : sorted ≠ []) :
    partWay sorted 1 = sorted.getD (sorted.length - 1) 0 := by
  have last : (sorted.length : Rat) - 1 = (sorted.length - 1 : Nat) := by
    rw [Nat.cast_sub (List.length_pos_of_ne_nil some), Nat.cast_one]
  rw [partWay, mul_one, last, interpolated_whole]

/-- Every position along the list lies inside it, where a change along a line commutes with reading
the value. -/
theorem partWay_map {sorted : List Rat} (some : sorted ≠ []) (a b : Rat) {p : Rat} (low : 0 ≤ p)
    (high : p ≤ 1) : partWay (sorted.map (a * · + b)) p = a * partWay sorted p + b := by
  obtain ⟨start, finish⟩ := position_inside some low high
  rw [partWay, List.length_map]
  exact interpolated_map b start finish

/-- The median is what lies half of the way. -/
theorem median_eq (empty : Rat) {sorted : List Rat} (some : sorted ≠ []) :
    median empty sorted = partWay sorted (1 / 2) := by
  have positive := List.length_pos_of_ne_nil some
  unfold median partWay
  dsimp only
  obtain ⟨k, even | odd⟩ := Nat.even_or_odd' sorted.length
  · obtain ⟨j, rfl⟩ : ∃ j, k = j + 1 := ⟨k - 1, by omega⟩
    have here : sorted.length / 2 - 1 = j := by omega
    have next : sorted.length / 2 = j + 1 := by omega
    have position : ((sorted.length : Rat) - 1) * (1 / 2) = j + 1 / 2 := by
      rw [even]
      push_cast
      ring
    rw [if_neg (by omega), here, next, position, interpolated_eq sorted (i := j) (by linarith)
      (by linarith), List.getD_eq_getElem _ _ (by omega), List.getD_eq_getElem _ _ (by omega),
      List.getD_eq_getElem _ _ (by omega), List.getD_eq_getElem _ _ (by omega)]
    change (_ + _) / 2 = _
    ring
  · have middle : sorted.length / 2 = k := by omega
    have position : ((sorted.length : Rat) - 1) * (1 / 2) = k := by
      rw [odd]
      push_cast
      ring
    rw [if_pos (by omega), middle, position, interpolated_whole,
      List.getD_eq_getElem _ _ (by omega), List.getD_eq_getElem _ _ (by omega)]

/-! ## The mean -/

/-- By induction on the values: each adds at least the bound. -/
theorem le_total {low : Rat} (bounded : ∀ x ∈ xs, low ≤ x) : xs.length * low ≤ total xs := by
  induction xs with
  | nil => simp [total]
  | cons x rest ih =>
    obtain ⟨here, others⟩ := List.forall_mem_cons.mp bounded
    change ((rest.length + 1 : Nat) : Rat) * low ≤ x + total rest
    push_cast
    linarith [ih others]

/-- By induction on the values: each adds at most the bound. -/
theorem total_le {high : Rat} (bounded : ∀ x ∈ xs, x ≤ high) : total xs ≤ xs.length * high := by
  induction xs with
  | nil => simp [total]
  | cons x rest ih =>
    obtain ⟨here, others⟩ := List.forall_mem_cons.mp bounded
    change x + total rest ≤ ((rest.length + 1 : Nat) : Rat) * high
    push_cast
    linarith [ih others]

/-- By induction on the values: each is multiplied once and given the shift once. -/
theorem total_map (a b : Rat) (xs : List Rat) :
    total (xs.map (a * · + b)) = a * total xs + xs.length * b := by
  induction xs with
  | nil => simp [total]
  | cons x rest ih =>
    change a * x + b + total (rest.map _) = a * (x + total rest) + (rest.length + 1 : Nat) * b
    rw [ih]
    push_cast
    ring

/-- The sum is multiplied and shifted once for each value, and the count divides the shifts out
again. -/
theorem ratMean_map (a b : Rat) (some : xs ≠ []) :
    ratMean (xs.map (a * · + b)) = a * ratMean xs + b := by
  have count : (xs.length : Rat) ≠ 0 := by
    exact_mod_cast (List.length_pos_of_ne_nil some).ne'
  rw [ratMean, ratMean, List.length_map, total_map]
  field_simp

/-- The sum lies between the count times the one bound and the count times the other. -/
theorem ratMean_between {low high : Rat} (some : xs ≠ [])
    (bounded : ∀ x ∈ xs, low ≤ x ∧ x ≤ high) : low ≤ ratMean xs ∧ ratMean xs ≤ high := by
  have count : (0 : Rat) < xs.length := by exact_mod_cast List.length_pos_of_ne_nil some
  rw [ratMean, le_div_iff₀ count, div_le_iff₀ count, mul_comm low, mul_comm high]
  exact ⟨le_total fun x inside => (bounded x inside).1, total_le fun x inside => (bounded x inside).2⟩

/-- The mean moves with the values, so each distance from it is only multiplied. -/
theorem variance_map (a b : Rat) (xs : List Rat) :
    variance (xs.map (a * · + b)) = a * a * variance xs := by
  rcases xs with _ | ⟨x, rest⟩
  · simp [variance, total]
  have some : x :: rest ≠ [] := List.cons_ne_nil x rest
  generalize x :: rest = xs at some
  have squares : (xs.map (a * · + b)).map
      (fun y => (y - (a * ratMean xs + b)) * (y - (a * ratMean xs + b))) =
      (xs.map fun y => (y - ratMean xs) * (y - ratMean xs)).map (a * a * · + 0) := by
    rw [List.map_map, List.map_map]
    refine List.map_congr_left fun y _ => ?_
    dsimp only [Function.comp]
    ring
  unfold variance
  dsimp only
  rw [ratMean_map a b some, squares, total_map, List.length_map, List.length_map, mul_zero, add_zero,
    mul_div_assoc]

/-! ## The whole summary -/

/-- The summary of ascending values, told by the line through them. -/
def lineSummary (sorted : List Rat) : Summary Rat where
  mean := ratMean sorted
  median := partWay sorted (1 / 2)
  least := partWay sorted 0
  greatest := partWay sorted 1
  q1 := partWay sorted (1 / 4)
  q3 := partWay sorted (3 / 4)

/-- Half of a half, computed exactly. -/
theorem quarter_eq : (quarter : Rat) = 1 / 4 := by
  norm_num [quarter, Arithmetic.halve, Arithmetic.ofInt]

/-- A half and a quarter, computed exactly. -/
theorem threeQuarters_eq : (threeQuarters : Rat) = 3 / 4 := by
  norm_num [threeQuarters, quarter, Arithmetic.halve, Arithmetic.ofInt]

/-- Every sample with a value has a summary, the one of the line through its ascending values. -/
theorem summarise_eq (empty : Rat) (some : xs ≠ []) :
    summarise empty xs = .ok (lineSummary (Arithmetic.ascending xs)) := by
  have filled := ascending_ne_nil some
  have settled := ascending_of_pairwise (ascending_pairwise xs)
  unfold summarise
  dsimp only
  generalize (Arithmetic.ascending xs : List Rat) = sorted at filled settled
  rcases sorted with _ | ⟨first, rest⟩
  · exact absurd rfl filled
  dsimp only
  rw [settled, quarter_eq, threeQuarters_eq, percentile_eq empty filled (by norm_num) (by norm_num),
    percentile_eq empty filled (by norm_num) (by norm_num)]
  change Except.ok _ = _
  rw [lineSummary, median_eq empty filled, partWay_start, partWay_end filled]
  congr 2
  rw [List.getLastD_eq_getLast?, List.getLast?_eq_getElem?, List.getD_eq_getElem?_getD]
  simp

section Line

variable {sorted : List Rat} (some : sorted ≠ [])

include some

/-- The five places are in order along the list, and the mean lies between the two ends because
every value does. -/
theorem lineSummary_ordered (ascending : sorted.Pairwise (· ≤ ·)) :
    (lineSummary sorted).Ordered := by
  have along {p p' : Rat} (low : 0 ≤ p) (order : p ≤ p') (high : p' ≤ 1) :=
    partWay_mono ascending some low order high
  have between : ∀ x ∈ sorted, partWay sorted 0 ≤ x ∧ x ≤ partWay sorted 1 := by
    intro x inside
    obtain ⟨i, below, rfl⟩ := List.mem_iff_getElem.mp inside
    rw [partWay_start, partWay_end some, ← List.getD_eq_getElem _ 0 below]
    exact ⟨getD_mono ascending (Nat.zero_le i) below, getD_mono ascending (by omega) (by omega)⟩
  obtain ⟨least, greatest⟩ := ratMean_between some between
  exact {
    least_le_q1 := along le_rfl (by norm_num) (by norm_num)
    q1_le_median := along (by norm_num) (by norm_num) (by norm_num)
    median_le_q3 := along (by norm_num) (by norm_num) (by norm_num)
    q3_le_greatest := along (by norm_num) (by norm_num) le_rfl
    least_le_mean := least
    mean_le_greatest := greatest }

/-- Each of the figures is a mean or a part of the way, and both move with the values. -/
theorem lineSummary_map (a b : Rat) :
    lineSummary (sorted.map (a * · + b)) = (lineSummary sorted).map (a * · + b) := by
  have along {p : Rat} (low : 0 ≤ p) (high : p ≤ 1) := partWay_map some a b low high
  simp only [lineSummary, Summary.map]
  rw [ratMean_map a b some, along (by norm_num) (by norm_num), along le_rfl (by norm_num),
    along (by norm_num) le_rfl, along (by norm_num) (by norm_num),
    along (by norm_num) (by norm_num)]

end Line

/-- The laws of the summary of a sample. -/
structure SummaryLaws (empty : Rat) (xs : List Rat) (s : Summary Rat) : Prop where
  summarised : summarise empty xs = .ok s
  ordered : s.Ordered
  /-- The order survives rounding to six decimal places. -/
  roundedOrdered : (s.map (roundedTo 6)).Ordered
  /-- The median is the percentile of the half. -/
  middle : percentile empty (Arithmetic.ascending xs) (1 / 2) = .ok s.median
  /-- The order of the sample is of no matter. -/
  permuted : ∀ ys, ys.Perm xs → summarise empty ys = .ok s ∧ ys.length = xs.length ∧
    variance (Arithmetic.ascending ys) = variance (Arithmetic.ascending xs)
  /-- A change of unit changes the numbers alike, and the variance by its square. -/
  rescaled : ∀ a b, 0 < a → summarise empty (xs.map (a * · + b)) = .ok (s.map (a * · + b)) ∧
    variance (Arithmetic.ascending (xs.map (a * · + b))) =
      a * a * variance (Arithmetic.ascending xs)

/-- A sample with a value has a summary in order, also of rounded numbers, with the percentile of
the half as its median. The order of the sample is of no matter to it, nor to the variance, and a
change of unit changes the numbers alike and the variance by its square.

Proof: all of a summary is read off the sample in ascending order. Its numbers are values part of the
way along a line that rises, and rounding and a change of unit are monotone. -/
theorem summarise_ordered (empty : Rat) (some : xs ≠ []) : ∃ s, SummaryLaws empty xs s := by
  have filled := ascending_ne_nil some
  have ordered := lineSummary_ordered filled (ascending_pairwise xs)
  refine ⟨_, summarise_eq empty some, ordered, ordered.map fun q r => roundedTo_mono 6,
    percentile_eq empty filled (by norm_num) (by norm_num), fun ys same => ?_,
    fun a b positive => ?_⟩
  · have others : ys ≠ [] := fun none => some (List.nil_perm.mp (none ▸ same))
    exact ⟨by rw [summarise_eq empty others, ascending_congr same], same.length_eq,
      by rw [ascending_congr same]⟩
  · have others : xs.map (a * · + b) ≠ [] := List.map_eq_nil_iff.not.mpr some
    rw [summarise_eq empty others, ascending_map positive, lineSummary_map filled,
      variance_map]
    exact ⟨rfl, rfl⟩

/-- Five times in seconds: half a second more each, counted in milliseconds. -/
theorem summarise_ordered_five :
    summarise 0 [3, 1, 4, 1, (5 : Rat)] = .ok ⟨14 / 5, 3, 1, 5, 1, 4⟩ ∧
      summarise 0 [3500, 1500, 4500, 1500, (5500 : Rat)] =
        .ok ⟨3300, 3500, 1500, 5500, 1500, 4500⟩ := by
  have sorted : Arithmetic.ascending [3, 1, 4, 1, (5 : Rat)] = [1, 1, 3, 4, 5] := by
    have same : List.Perm [3, 1, 4, 1, (5 : Rat)] [1, 1, 3, 4, 5] := by decide +kernel
    rw [ascending_congr same]
    exact ascending_of_pairwise (by decide +kernel)
  have line : lineSummary [1, 1, 3, 4, 5] = ⟨14 / 5, 3, 1, 5, 1, 4⟩ := by
    simp only [lineSummary, Summary.mk.injEq]
    decide +kernel
  have some : [3, 1, 4, 1, (5 : Rat)] ≠ [] := List.cons_ne_nil _ _
  have summary : summarise 0 [3, 1, 4, 1, (5 : Rat)] = .ok ⟨14 / 5, 3, 1, 5, 1, 4⟩ := by
    rw [summarise_eq 0 some, sorted, line]
  obtain ⟨s, laws⟩ := summarise_ordered 0 some
  have same := (laws.rescaled 1000 500 (by norm_num)).1
  rw [Except.ok.inj (laws.summarised.symm.trans summary)] at same
  norm_num [Summary.map] at same
  exact ⟨summary, same⟩

end BuildBench.Statistics
