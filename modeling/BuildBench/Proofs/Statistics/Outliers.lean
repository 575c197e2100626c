import BuildBench.Proofs.Statistics.Summaries

/-!
# Outliers in exact numbers

Whether a value is an outlier is decided by the ascending values of its sample alone. So the flags
go with the values when the sample is put in another order, and stay when all values are given in
another unit. A larger factor flags less, and from the factor zero on nothing inside the middle half
is flagged, where every sample has a value.
-/

namespace BuildBench.Statistics

variable {xs sorted : List Rat} {factor : Rat}

/-- How wide the middle half of some ascending values is. -/
def spread (sorted : List Rat) : Rat := partWay sorted (3 / 4) - partWay sorted (1 / 4)

/-- Whether a value lies outside the middle half of some ascending values by more than `factor`
times its width. -/
def farOut (factor : Rat) (sorted : List Rat) (x : Rat) : Bool :=
  4 ≤ sorted.length && (x < partWay sorted (1 / 4) - factor * spread sorted ||
    partWay sorted (3 / 4) + factor * spread sorted < x)

/-- Fewer than four values have no outlier. -/
theorem farOut_few (few : sorted.length < 4) (x : Rat) : farOut factor sorted x = false := by
  rw [farOut, decide_eq_false few.not_ge, Bool.false_and]

/-- Every sample has its flags, and they are those of its ascending values. -/
theorem outliers_eq (empty factor : Rat) (xs : List Rat) :
    outliers empty factor xs = .ok (xs.map (farOut factor (Arithmetic.ascending xs))) := by
  have count := (ascending_perm_self xs).length_eq
  unfold outliers
  split
  · next few =>
    exact congrArg Except.ok (List.map_congr_left fun x _ => (farOut_few (count ▸ few) x).symm)
  · next many =>
    have filled : (Arithmetic.ascending xs : List Rat) ≠ [] :=
      List.ne_nil_of_length_pos (by omega)
    have here (x : Rat) : farOut factor (Arithmetic.ascending xs) x =
        (decide (x < partWay (Arithmetic.ascending xs) (1 / 4) -
            factor * spread (Arithmetic.ascending xs)) ||
          decide (partWay (Arithmetic.ascending xs) (3 / 4) +
            factor * spread (Arithmetic.ascending xs) < x)) := by
      rw [farOut, count, decide_eq_true (by omega), Bool.true_and]
    rw [List.map_congr_left fun x _ => here x]
    dsimp only
    rw [quarter_eq, threeQuarters_eq, percentile_eq empty filled (by norm_num) (by norm_num),
      percentile_eq empty filled (by norm_num) (by norm_num)]
    rfl

/-- A change of unit moves a value and the limits alike. -/
theorem farOut_map {a : Rat} (positive : 0 < a) (b : Rat) (x : Rat) :
    farOut factor (sorted.map (a * · + b)) (a * x + b) = farOut factor sorted x := by
  unfold farOut
  rw [List.length_map]
  rcases lt_or_ge sorted.length 4 with few | many
  · rw [decide_eq_false few.not_ge, Bool.false_and, Bool.false_and]
  · have some : sorted ≠ [] := List.ne_nil_of_length_pos (by omega)
    have along {p : Rat} (low : 0 ≤ p) (high : p ≤ 1) := partWay_map some a b low high
    have wide : spread (sorted.map (a * · + b)) = a * spread sorted := by
      rw [spread, spread, along (by norm_num) (by norm_num), along (by norm_num) (by norm_num)]
      ring
    rw [wide, along (by norm_num) (by norm_num), along (by norm_num) (by norm_num)]
    have below (y : Rat) : a * x + b < a * y + b - factor * (a * spread sorted) ↔
        x < y - factor * spread sorted := by
      rw [show a * y + b - factor * (a * spread sorted) =
        a * (y - factor * spread sorted) + b by ring, add_lt_add_iff_right,
        mul_lt_mul_iff_right₀ positive]
    have above (y : Rat) : a * y + b + factor * (a * spread sorted) < a * x + b ↔
        y + factor * spread sorted < x := by
      rw [show a * y + b + factor * (a * spread sorted) =
        a * (y + factor * spread sorted) + b by ring, add_lt_add_iff_right,
        mul_lt_mul_iff_right₀ positive]
    simp only [below, above]

section Ascending

variable (ascending : sorted.Pairwise (· ≤ ·)) (some : sorted ≠ [])

include ascending some

/-- The third quartile stands at no earlier part of the way than the first. -/
theorem spread_nonneg : 0 ≤ spread sorted :=
  sub_nonneg.mpr (partWay_mono ascending some (by norm_num) (by norm_num) (by norm_num))

/-- A larger factor does not flag what a smaller one leaves. -/
theorem farOut_anti {larger x : Rat} (order : factor ≤ larger)
    (left : farOut factor sorted x = false) : farOut larger sorted x = false := by
  have grows := mul_le_mul_of_nonneg_right order (spread_nonneg ascending some)
  simp only [farOut, Bool.and_eq_false_iff, Bool.or_eq_false_iff, decide_eq_false_iff_not,
    not_lt] at left ⊢
  exact left.imp_right fun ⟨low, high⟩ => ⟨by linarith, by linarith⟩

/-- Both fences lie outside the quartiles, since the spread is not negative. -/
theorem farOut_inside {x : Rat} (counts : 0 ≤ factor) (low : partWay sorted (1 / 4) ≤ x)
    (high : x ≤ partWay sorted (3 / 4)) : farOut factor sorted x = false := by
  have room := mul_nonneg counts (spread_nonneg ascending some)
  simp only [farOut, Bool.and_eq_false_iff, Bool.or_eq_false_iff, decide_eq_false_iff_not, not_lt]
  exact .inr ⟨by linarith, by linarith⟩

omit some in
/-- The first value that is not before a quarter of the way is not behind three of them. -/
theorem exists_inside (many : 4 ≤ sorted.length) :
    ∃ x ∈ sorted, partWay sorted (1 / 4) ≤ x ∧ x ≤ partWay sorted (3 / 4) := by
  obtain ⟨i, least, most⟩ : ∃ i, sorted.length - 1 ≤ 4 * i ∧ 4 * i ≤ 3 * (sorted.length - 1) :=
    ⟨(sorted.length + 2) / 4, by omega, by omega⟩
  have inside : i < sorted.length := by omega
  have last : (sorted.length : Rat) - 1 = (sorted.length - 1 : Nat) := by
    rw [Nat.cast_sub (by omega), Nat.cast_one]
  have start : ((sorted.length - 1 : Nat) : Rat) ≤ 4 * i := by exact_mod_cast least
  have finish : 4 * (i : Rat) ≤ 3 * (sorted.length - 1 : Nat) := by exact_mod_cast most
  have positive : (0 : Rat) ≤ (sorted.length - 1 : Nat) := Nat.cast_nonneg _
  refine ⟨sorted[i], List.getElem_mem inside, ?_⟩
  rw [← List.getD_eq_getElem _ 0 inside, partWay, partWay, last]
  exact ⟨interpolated_le ascending (by linarith) (by linarith) inside,
    le_interpolated ascending (by linarith) (by linarith)⟩

end Ascending

/-! ## Flags -/

/-- The values in order are the same. -/
theorem outliers_perm (empty factor : Rat) {ys : List Rat} (same : ys.Perm xs) :
    outliers empty factor ys = .ok (ys.map (farOut factor (Arithmetic.ascending xs))) := by
  rw [outliers_eq, ascending_congr same]

/-- The values in order move with the values, and a value is as far out as before. -/
theorem outliers_map (empty factor : Rat) {a : Rat} (positive : 0 < a) (b : Rat) (xs : List Rat) :
    outliers empty factor (xs.map (a * · + b)) =
      .ok (xs.map (farOut factor (Arithmetic.ascending xs))) := by
  rw [outliers_eq, ascending_map positive, List.map_map]
  exact congrArg Except.ok (List.map_congr_left fun x _ => farOut_map positive b x)

/-- Of every sample some value lies inside the middle half. -/
theorem exists_kept (counts : 0 ≤ factor) (some : xs ≠ []) :
    ∃ x ∈ xs, farOut factor (Arithmetic.ascending xs) x = false := by
  have same := ascending_perm_self xs
  rcases lt_or_ge (Arithmetic.ascending xs : List Rat).length 4 with few | many
  · obtain ⟨x, inside⟩ := List.exists_mem_of_ne_nil xs some
    exact ⟨x, inside, farOut_few few x⟩
  · obtain ⟨x, inside, low, high⟩ := exists_inside (ascending_pairwise xs) many
    exact ⟨x, same.mem_iff.mp inside,
      farOut_inside (ascending_pairwise xs) (ascending_ne_nil some) counts low high⟩

/-- The flags are searched for one that is set. -/
theorem hasOutlier_eq {empty : Rat} {flags : List Bool}
    (known : outliers empty defaultFactor xs = .ok flags) :
    hasOutlier empty xs = .ok (flags.contains true) := by
  rw [hasOutlier, known]
  rfl

/-- The laws of the flags that the values of a sample get. -/
structure OutlierLaws (empty factor : Rat) (xs : List Rat) (flag : Rat → Bool) : Prop where
  flagged : outliers empty factor xs = .ok (xs.map flag)
  /-- The flag of a value is the same wherever it stands. -/
  permuted : ∀ ys, ys.Perm xs → outliers empty factor ys = .ok (ys.map flag)
  /-- It is the same in whatever unit the sample is given. -/
  rescaled : ∀ a b, 0 < a → outliers empty factor (xs.map (a * · + b)) = .ok (xs.map flag)
  /-- A larger factor leaves what a smaller one leaves. -/
  fewer : ∀ larger, factor ≤ larger → ∃ flag', outliers empty larger xs = .ok (xs.map flag') ∧
    ∀ x ∈ xs, flag x = false → flag' x = false
  /-- What lies between the quartiles is left. -/
  between : 0 ≤ factor → ∀ q1 q3, percentile empty (Arithmetic.ascending xs) quarter = .ok q1 →
    percentile empty (Arithmetic.ascending xs) threeQuarters = .ok q3 →
      ∀ x ∈ xs, q1 ≤ x → x ≤ q3 → flag x = false
  equal : 0 ≤ factor → (∀ x ∈ xs, ∀ y ∈ xs, x = y) → ∀ x ∈ xs, flag x = false
  /-- No sample has nothing but outliers. -/
  kept : 0 ≤ factor → xs ≠ [] → ∃ x ∈ xs, flag x = false

/-- The laws of the question whether a sample has outliers at all. -/
structure AnyOutlierLaws (empty : Rat) (xs : List Rat) (any : Bool) : Prop where
  told : hasOutlier empty xs = .ok any
  permuted : ∀ ys, ys.Perm xs → hasOutlier empty ys = .ok any
  rescaled : ∀ a b, 0 < a → hasOutlier empty (xs.map (a * · + b)) = .ok any

/-- Every sample has a flag for each of its values. The flag of a value is the same wherever it
stands and in whatever unit the sample is given, and so is whether there are outliers at all. A
larger factor leaves what a smaller one leaves. From the factor zero on, what lies between the
quartiles is left, so equal values are, and of every sample some value is.

Proof: the flag of a value asks whether it lies outside two fences, which are read off the sample in
ascending order and move along with it when the unit changes. -/
theorem outliers_invariant (empty factor : Rat) (xs : List Rat) :
    (∃ flag, OutlierLaws empty factor xs flag) ∧ ∃ any, AnyOutlierLaws empty xs any := by
  have ordered := ascending_pairwise xs
  refine ⟨⟨farOut factor (Arithmetic.ascending xs), outliers_eq empty factor xs,
    fun ys same => outliers_perm empty factor same,
    fun a b positive => outliers_map empty factor positive b xs,
    fun larger order => ⟨_, outliers_eq empty larger xs, fun x inside left =>
      farOut_anti ordered (ascending_ne_nil (List.ne_nil_of_mem inside)) order left⟩,
    ?between, ?equal, exists_kept⟩, ?any⟩
  case between =>
    intro counts q1 q3 first third x inside low high
    have filled := ascending_ne_nil (List.ne_nil_of_mem inside)
    rw [quarter_eq, percentile_eq empty filled (by norm_num) (by norm_num)] at first
    rw [threeQuarters_eq, percentile_eq empty filled (by norm_num) (by norm_num)] at third
    exact farOut_inside ordered filled counts ((Except.ok.inj first).trans_le low)
      (high.trans_eq (Except.ok.inj third).symm)
  case equal =>
    intro counts equal x inside
    obtain ⟨y, there, left⟩ := exists_kept counts (List.ne_nil_of_mem inside)
    rw [equal x inside y there, left]
  case any =>
    refine ⟨_, hasOutlier_eq (outliers_eq empty _ xs), fun ys same => ?_, fun a b positive =>
      hasOutlier_eq (outliers_map empty _ positive b xs)⟩
    rw [hasOutlier_eq (outliers_perm empty _ same), (same.map _).contains_eq]

/-- Four quick runs and a slow one, in seconds and in milliseconds. -/
theorem outliers_invariant_slow :
    outliers 0 (3 / 2) [1, 9, 1, 2, (1 : Rat)] = .ok [false, true, false, false, false] ∧
      outliers 0 (3 / 2) [1000, 9000, 1000, 2000, (1000 : Rat)] =
        .ok [false, true, false, false, false] := by
  have sorted : Arithmetic.ascending [1, 9, 1, 2, (1 : Rat)] = [1, 1, 1, 2, 9] := by
    have same : List.Perm [1, 9, 1, 2, (1 : Rat)] [1, 1, 1, 2, 9] := by decide +kernel
    rw [ascending_congr same]
    exact ascending_of_pairwise (by decide +kernel)
  have flags : outliers 0 (3 / 2) [1, 9, 1, 2, (1 : Rat)] =
      .ok [false, true, false, false, false] := by
    rw [outliers_eq, sorted]
    exact congrArg Except.ok (by decide +kernel)
  obtain ⟨⟨flag, laws⟩, -⟩ := outliers_invariant 0 (3 / 2) [1, 9, 1, 2, 1]
  have same := laws.rescaled 1000 0 (by norm_num)
  rw [Except.ok.inj (laws.flagged.symm.trans flags)] at same
  norm_num at same
  exact ⟨flags, same⟩

end BuildBench.Statistics
