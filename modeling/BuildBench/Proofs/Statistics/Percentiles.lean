import Mathlib.Data.List.GetD
import Mathlib.Data.List.Sort
import Mathlib.Data.Rat.Floor
import Mathlib.Tactic.Linarith
import Mathlib.Tactic.Ring
import BuildBench.Statistics.Percentile

/-!
# Percentiles in exact numbers

Read over rational numbers, a percentile is the value of a broken line: the line goes through the
values of the sample at whole positions, and is straight from each position to the next. Over
ascending values the line ascends, so positions that follow each other have values that do.

The order of a sample does not matter to the line of its ascending values, and a change of unit
changes every value of the line alike.
-/

namespace BuildBench.Statistics

variable {xs : List Rat} {p q r : Rat} {i j : Nat}

/-! ## The line through the values -/

/-- The value of the line through the values of a list, at some position. -/
def interpolated (xs : List Rat) (q : Rat) : Rat :=
  let part := q - q.floor
  xs.getD q.floor.toNat 0 * (1 - part) + xs.getD (q.floor.toNat + 1) 0 * part

/-- The floor is the only whole number with the position between it and the next. -/
theorem floor_eq (low : i ≤ q) (high : q < i + 1) : q.floor = i := by
  have least : (i : Int) ≤ q.floor := Rat.le_floor_iff.mpr (by exact_mod_cast low)
  have most : q.floor < i + 1 := Rat.floor_lt_iff.mpr (by exact_mod_cast high)
  omega

/-- The ceiling is the only whole number with the position between the one before and it. -/
theorem ceil_eq (low : i < q) (high : q ≤ i + 1) : q.ceil = i + 1 := by
  have most : q.ceil ≤ (i + 1 : Nat) := Rat.ceil_le_iff.mpr (by exact_mod_cast high)
  have least : ¬ q.ceil ≤ i := fun least => low.not_ge (Rat.ceil_le_iff.mp least)
  omega

/-- Between two indices the value is read off the line through the two elements there. -/
theorem interpolated_eq (xs : List Rat) (low : i ≤ q) (high : q < i + 1) :
    interpolated xs q = xs.getD i 0 + (xs.getD (i + 1) 0 - xs.getD i 0) * (q - i) := by
  rw [interpolated, floor_eq low high, Int.toNat_natCast, Int.cast_natCast]
  ring

/-- A position of a list is a whole one, or lies between two of them. -/
theorem segment (low : 0 ≤ q) (high : q ≤ xs.length - 1) :
    ∃ i : Nat, i ≤ q ∧ q < i + 1 ∧ i < xs.length ∧ (q = i ∨ i + 1 < xs.length) := by
  obtain ⟨i, whole⟩ := Int.eq_ofNat_of_zero_le (Rat.le_floor_iff.mpr (by exact_mod_cast low))
  have least : (i : Rat) ≤ q := by
    have := Rat.floor_le q
    rwa [whole] at this
  have most : q < i + 1 := by
    have := Rat.lt_floor_add_one q
    rw [whole] at this
    exact_mod_cast this
  have below : i < xs.length := by
    have : (i : Rat) < xs.length := by linarith
    exact_mod_cast this
  refine ⟨i, least, most, below, ?_⟩
  rcases least.eq_or_lt with here | before
  · exact .inl here.symm
  · have : ((i + 1 : Nat) : Rat) < xs.length := by
      push_cast
      linarith
    exact .inr (by exact_mod_cast this)

/-- At an index no part of the way to the next element is left. -/
theorem interpolated_whole (xs : List Rat) (i : Nat) : interpolated xs i = xs.getD i 0 := by
  rw [interpolated_eq xs le_rfl (by linarith), sub_self, mul_zero, add_zero]

/-! ## Percentiles -/

/-- An index inside is not counted from the end. -/
theorem valueAt_eq (inside : i < xs.length) : valueAt xs (i : Int) = .ok (xs.getD i 0) := by
  have forward : ¬ (i : Int) < 0 := by omega
  simp only [valueAt, forward, if_false, Int.toNat_natCast, List.getElem?_eq_getElem inside,
    List.getD_eq_getElem _ _ inside]

/-- A list that is not empty has an element at its first index. -/
theorem last_nonneg (some : xs ≠ []) : (0 : Rat) ≤ xs.length - 1 := by
  have : (1 : Rat) ≤ xs.length := by exact_mod_cast List.length_pos_of_ne_nil some
  linarith

/-- A fraction of the way is a position between the first value and the last one. -/
theorem position_inside (some : xs ≠ []) (low : 0 ≤ p) (high : p ≤ 1) :
    0 ≤ ((xs.length : Rat) - 1) * p ∧ ((xs.length : Rat) - 1) * p ≤ xs.length - 1 :=
  ⟨mul_nonneg (last_nonneg some) low, mul_le_of_le_one_right (last_nonneg some) high⟩

/-- A percentile of a sample is a value of its line, and there always is one. -/
theorem percentile_eq (empty : Rat) (some : xs ≠ []) (low : 0 ≤ p) (high : p ≤ 1) :
    percentile empty xs p = .ok (interpolated xs ((xs.length - 1) * p)) := by
  unfold percentile
  split
  · exact absurd rfl some
  · next x => simpa using (interpolated_whole [x] 0).symm
  next several single =>
  have position : Arithmetic.ofInt ((xs.length : Int) - 1) * p = (xs.length - 1) * p := by
    change (((xs.length : Int) - 1 : Int) : Rat) * p = _
    push_cast
    rfl
  obtain ⟨start, finish⟩ := position_inside some low high
  rw [position]
  generalize ((xs.length : Rat) - 1) * p = k at start finish
  obtain ⟨i, least, most, inside, whole⟩ := segment start finish
  have floor : (Arithmetic.floor k : Except Fault Int) = .ok i := by
    change Except.ok k.floor = _
    rw [floor_eq least most]
  rw [interpolated_eq xs least most]
  rcases least.eq_or_lt with here | before
  · have ceiling : (Arithmetic.ceiling k : Except Fault Int) = .ok i := by
      change Except.ok k.ceil = _
      rw [← here, ← Int.cast_natCast, Rat.ceil_intCast]
    dsimp only
    rw [floor, ceiling, ← here, sub_self, mul_zero, add_zero]
    change (if (i : Int) = i then valueAt xs i else _) = _
    rw [if_pos rfl, valueAt_eq inside]
  · have next : i + 1 < xs.length := whole.resolve_left before.ne'
    have ceiling : (Arithmetic.ceiling k : Except Fault Int) = .ok (i + 1 : Nat) := by
      change Except.ok k.ceil = _
      rw [ceil_eq before most.le]
      rfl
    dsimp only
    rw [floor, ceiling]
    change (if (i : Int) = (i + 1 : Nat) then valueAt xs i else do
      let a ← valueAt xs i
      let b ← valueAt xs (i + 1 : Nat)
      return a * (((1 : Int) : Rat) - (k - (i : Int))) + b * (k - (i : Int))) = _
    rw [if_neg (by omega), valueAt_eq inside, valueAt_eq next]
    change Except.ok (_ * (((1 : Int) : Rat) - (k - ((i : Int) : Rat))) + _ * (k - ((i : Int) : Rat))) = _
    congr 1
    push_cast
    ring

/-! ## Ascending values -/

section Ascending

variable (ascending : xs.Pairwise (· ≤ ·))

include ascending

/-- In an ascending list what stands later is no less. -/
theorem getD_mono (order : i ≤ j) (inside : j < xs.length) : xs.getD i 0 ≤ xs.getD j 0 := by
  rcases order.eq_or_lt with rfl | before
  · exact le_rfl
  · rw [List.getD_eq_getElem _ _ (before.trans inside), List.getD_eq_getElem _ _ inside]
    exact List.pairwise_iff_getElem.mp ascending i j _ _ before

/-- The line is not below the values that come before. -/
theorem le_interpolated (before : i ≤ q) (high : q ≤ xs.length - 1) :
    xs.getD i 0 ≤ interpolated xs q := by
  obtain ⟨j, least, most, inside, whole⟩ := segment ((Nat.cast_nonneg i).trans before) high
  have order : i ≤ j := by
    have : (i : Rat) < (j + 1 : Nat) := by
      push_cast
      linarith
    exact Nat.lt_succ_iff.mp (by exact_mod_cast this)
  rw [interpolated_eq xs least most]
  have earlier := getD_mono ascending order inside
  rcases whole with here | next
  · simpa [here] using earlier
  · have rise := getD_mono ascending (Nat.le_succ j) next
    have := mul_nonneg (sub_nonneg.mpr rise) (sub_nonneg.mpr least)
    linarith

/-- The line is not above the values that come behind. -/
theorem interpolated_le (low : 0 ≤ q) (behind : q ≤ i) (inside : i < xs.length) :
    interpolated xs q ≤ xs.getD i 0 := by
  have last : (i : Rat) + 1 ≤ xs.length := by exact_mod_cast inside
  obtain ⟨j, least, most, -, whole⟩ := segment low (by linarith : q ≤ xs.length - 1)
  rw [interpolated_eq xs least most]
  rcases least.eq_or_lt with here | before
  · have order : j ≤ i := by exact_mod_cast here ▸ behind
    simpa [← here] using getD_mono ascending order inside
  · have next : j + 1 < xs.length := whole.resolve_left before.ne'
    have order : j + 1 ≤ i := by
      have : (j : Rat) < i := before.trans_le behind
      exact_mod_cast this
    have rise := getD_mono ascending (Nat.le_succ j) next
    have part := mul_le_of_le_one_right (sub_nonneg.mpr rise) (by linarith : q - j ≤ 1)
    have later := getD_mono ascending order inside
    linarith

/-- Positions between the same two indices lie on one line, which does not fall; for others the
element between them separates the two values. -/
theorem interpolated_mono (low : 0 ≤ q) (order : q ≤ r) (high : r ≤ xs.length - 1) :
    interpolated xs q ≤ interpolated xs r := by
  obtain ⟨i, least, most, -, whole⟩ := segment low (order.trans high)
  rcases lt_or_ge r (i + 1) with same | beyond
  · rcases whole with here | next
    · rw [here, interpolated_whole]
      exact le_interpolated ascending (here ▸ order) high
    · rw [interpolated_eq xs least most, interpolated_eq xs (least.trans order) same]
      have rise := sub_nonneg.mpr (getD_mono ascending (Nat.le_succ i) next)
      linarith [mul_le_mul_of_nonneg_left (sub_le_sub_right order (i : Rat)) rise]
  · have next : ((i + 1 : Nat) : Rat) ≤ r := by exact_mod_cast beyond
    have inside : i + 1 < xs.length := by
      have : ((i + 1 : Nat) : Rat) < xs.length := by linarith
      exact_mod_cast this
    calc interpolated xs q
        ≤ xs.getD (i + 1) 0 := interpolated_le ascending low (by exact_mod_cast most.le) inside
      _ ≤ interpolated xs r := le_interpolated ascending next high

end Ascending

/-! ## Order and unit of a sample -/

/-- Merge sort puts a list in order. -/
theorem ascending_pairwise (xs : List Rat) : (Arithmetic.ascending xs).Pairwise (· ≤ ·) :=
  List.pairwise_mergeSort' (· ≤ ·) xs

/-- Merge sort moves elements about and does nothing else. -/
theorem ascending_perm_self (xs : List Rat) : (Arithmetic.ascending xs).Perm xs :=
  List.mergeSort_perm _ _

/-- Merge sort leaves what is in order. -/
theorem ascending_of_pairwise (ascending : xs.Pairwise (· ≤ ·)) :
    Arithmetic.ascending xs = xs :=
  List.mergeSort_eq_self (· ≤ ·) ascending

/-- A sample in another order has the same ascending values. -/
theorem ascending_congr {ys : List Rat} (same : ys.Perm xs) :
    Arithmetic.ascending ys = Arithmetic.ascending xs :=
  List.Perm.eq_of_pairwise' (ascending_pairwise ys) (ascending_pairwise xs)
    ((ascending_perm_self ys).trans (same.trans (ascending_perm_self xs).symm))

/-- Only the empty list is put in order as the empty list. -/
theorem ascending_ne_nil (some : xs ≠ []) : (Arithmetic.ascending xs : List Rat) ≠ [] := by
  rintro none
  exact some (List.nil_perm.mp (none ▸ ascending_perm_self xs))

section Rescaled

variable {a : Rat} (positive : 0 < a) (b : Rat)

include positive

/-- A change of unit keeps the order of values. -/
theorem ascending_map (xs : List Rat) :
    Arithmetic.ascending (xs.map (a * · + b)) = (Arithmetic.ascending xs).map (a * · + b) := by
  have mono {x y : Rat} (order : x ≤ y) : a * x + b ≤ a * y + b := by
    linarith [mul_le_mul_of_nonneg_left order positive.le]
  exact List.Perm.eq_of_pairwise' (ascending_pairwise _)
    ((ascending_pairwise xs).map _ fun _ _ => mono)
    ((ascending_perm_self _).trans ((ascending_perm_self xs).symm.map _))

omit positive in
/-- A change along a line takes the line between two elements to the line between the changed ones.
-/
theorem interpolated_map (low : 0 ≤ q) (high : q ≤ xs.length - 1) :
    interpolated (xs.map (a * · + b)) q = a * interpolated xs q + b := by
  obtain ⟨i, least, most, inside, whole⟩ := segment low high
  have here : (xs.map (a * · + b)).getD i 0 = a * xs.getD i 0 + b := by
    simp [List.getD_eq_getElem?_getD, inside]
  rw [interpolated_eq _ least most, interpolated_eq _ least most, here]
  rcases whole with none | next
  · simp [none]
  · have after : (xs.map (a * · + b)).getD (i + 1) 0 = a * xs.getD (i + 1) 0 + b := by
      simp [List.getD_eq_getElem?_getD, next]
    rw [after]
    ring

end Rescaled

end BuildBench.Statistics
