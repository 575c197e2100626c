import BuildBench.Proofs.Statistics.Summaries

/-!
# Percentiles along a line

The percentiles of an ascending sample, from the one of nothing to the one of all, go along the line
through its values. The line meets the values at whole positions and lies between its neighbours
elsewhere, it ascends with the values, and larger values lift it. Seen from the other end it is the
line through the values in reverse.
-/

namespace BuildBench.Statistics

variable {xs ys : List Rat} {p q : Rat} {i : Nat}

/-! ## Between two positions -/

/-- From one whole position to the next, both included, the line is a mean of two values that are
weighed by how near they are. -/
theorem interpolated_segment (xs : List Rat) (low : i ≤ q) (high : q ≤ i + 1) :
    interpolated xs q = xs.getD i 0 * (i + 1 - q) + xs.getD (i + 1) 0 * (q - i) := by
  rcases high.lt_or_eq with before | rfl
  · rw [interpolated_eq xs low before]
    ring
  · have whole := interpolated_whole xs (i + 1)
    push_cast at whole
    rw [whole]
    ring

/-- The two positions next to a place on the line are positions of the list, and the line lies
between the values there. -/
theorem interpolated_between (ascending : xs.Pairwise (· ≤ ·)) (low : 0 ≤ q)
    (high : q ≤ xs.length - 1) :
    ∃ i j : Fin xs.length, (i : Int) = q.floor ∧ (j : Int) = q.ceil ∧
      xs[i] ≤ interpolated xs q ∧ interpolated xs q ≤ xs[j] := by
  have value (i : Fin xs.length) : xs[i] = xs.getD i 0 := (List.getD_eq_getElem _ _ i.isLt).symm
  obtain ⟨i, least, most, inside, whole⟩ := segment low high
  have floor := floor_eq least most
  rcases least.eq_or_lt with here | before
  · have ceil : q.ceil = i := by rw [← here, ← Int.cast_natCast, Rat.ceil_intCast]
    refine ⟨⟨i, inside⟩, ⟨i, inside⟩, floor.symm, ceil.symm, ?_⟩
    rw [value, ← here, interpolated_whole]
    exact ⟨le_rfl, le_rfl⟩
  · have next : i + 1 < xs.length := whole.resolve_left before.ne'
    refine ⟨⟨i, inside⟩, ⟨i + 1, next⟩, floor.symm, (ceil_eq before most.le).symm, ?_⟩
    rw [value, value]
    exact ⟨le_interpolated ascending least high,
      interpolated_le ascending low (by exact_mod_cast most.le) next⟩

/-! ## Larger values -/

/-- By induction on the two lists: an index is the first one or one in the rest, and behind the end
both give 0. -/
theorem getD_le_of_forall₂ (above : List.Forall₂ (· ≤ ·) xs ys) (i : Nat) :
    xs.getD i 0 ≤ ys.getD i 0 := by
  induction above generalizing i with
  | nil => exact le_rfl
  | cons first rest ih =>
    cases i with
    | zero => exact first
    | succ i => exact ih i

/-- Larger values lift the line. -/
theorem interpolated_le_of_forall₂ (above : List.Forall₂ (· ≤ ·) xs ys) (low : 0 ≤ q)
    (high : q ≤ xs.length - 1) : interpolated xs q ≤ interpolated ys q := by
  obtain ⟨i, least, most, -, -⟩ := segment low high
  rw [interpolated_segment xs least most.le, interpolated_segment ys least most.le]
  exact add_le_add
    (mul_le_mul_of_nonneg_right (getD_le_of_forall₂ above i) (by linarith))
    (mul_le_mul_of_nonneg_right (getD_le_of_forall₂ above (i + 1)) (by linarith))

/-! ## From the other end -/

/-- The line through the values in reverse is the same line, seen from its end. -/
theorem interpolated_reverse (low : 0 ≤ q) (high : q ≤ xs.length - 1) :
    interpolated xs.reverse q = interpolated xs (xs.length - 1 - q) := by
  obtain ⟨i, least, most, inside, whole⟩ := segment low high
  rcases whole with here | next
  · have position : (xs.length : Rat) - 1 - i = (xs.length - 1 - i : Nat) := by
      rw [Nat.cast_sub (by omega), Nat.cast_sub (by omega), Nat.cast_one]
    rw [here, position, interpolated_whole, interpolated_whole, List.getD_reverse i inside]
  · obtain ⟨j, count⟩ : ∃ j, xs.length = i + j + 2 := ⟨xs.length - i - 2, by omega⟩
    have length : (xs.length : Rat) = i + j + 2 := by exact_mod_cast count
    have last : xs.length - 1 - i = j + 1 := by omega
    have before : xs.length - 1 - (i + 1) = j := by omega
    rw [interpolated_segment xs.reverse least most.le, List.getD_reverse i inside,
      List.getD_reverse (i + 1) next, last, before, length,
      interpolated_segment xs (i := j) (by linarith) (by linarith)]
    ring

/-- The two distances from the first element add up to the whole, and reversing measures from the
other end. -/
theorem partWay_reverse (some : xs ≠ []) (low : 0 ≤ p) (high : p ≤ 1) :
    partWay xs.reverse p = partWay xs (1 - p) := by
  obtain ⟨start, finish⟩ := position_inside some low high
  rw [partWay, List.length_reverse, interpolated_reverse start finish, partWay, mul_sub, mul_one]

/-- The percentiles of the opposite values are the opposite percentiles from the other end. -/
theorem partWay_opposite (some : xs ≠ []) (low : 0 ≤ p) (high : p ≤ 1) :
    partWay (xs.map (- ·)).reverse p = - partWay xs (1 - p) := by
  have opposite : xs.map (- ·) = xs.map (-1 * · + 0) :=
    List.map_congr_left fun x _ => by ring
  have filled : xs.map (-1 * · + 0) ≠ [] := List.map_eq_nil_iff.not.mpr some
  rw [opposite, partWay_reverse filled low high,
    partWay_map some (-1) 0 (sub_nonneg.mpr high) (sub_le_self 1 low)]
  ring

/-! ## Percentiles -/

/-- At the part of the way that an index stands for, the position is that index. -/
theorem partWay_at (several : 2 ≤ xs.length) (i : Fin xs.length) :
    partWay xs (i / (xs.length - 1)) = xs[i] := by
  have distance : (xs.length : Rat) - 1 ≠ 0 := by
    have : (2 : Rat) ≤ xs.length := by exact_mod_cast several
    linarith
  rw [partWay, mul_div_cancel₀ _ distance, interpolated_whole, List.getD_eq_getElem _ _ i.isLt]
  rfl

/-- The laws of the percentiles of an ascending list with a value, as a function of the fraction. -/
structure PercentileLaws (empty : Rat) (xs : List Rat) (some : xs ≠ []) (line : Rat → Rat) :
    Prop where
  value : ∀ p, 0 ≤ p → p ≤ 1 → percentile empty xs p = .ok (line p)
  /-- The two positions that a percentile is taken from are positions of the list, and it lies between
  the values there. -/
  between : ∀ p, 0 ≤ p → p ≤ 1 → ∃ i j : Fin xs.length,
    (i : Int) = ((xs.length - 1 : Rat) * p).floor ∧ (j : Int) = ((xs.length - 1 : Rat) * p).ceil ∧
      xs[i] ≤ line p ∧ line p ≤ xs[j]
  /-- At a whole position it is the value there. -/
  whole : 2 ≤ xs.length → ∀ i : Fin xs.length, line (i / (xs.length - 1)) = xs[i]
  first : line 0 = xs.head some
  last : line 1 = xs.getLast some
  /-- It does not fall when the fraction rises. -/
  mono : ∀ p p', 0 ≤ p → p ≤ p' → p' ≤ 1 → line p ≤ line p'
  /-- It does not fall when a value of the list rises. -/
  lifted : ∀ ys, List.Forall₂ (· ≤ ·) xs ys → ∀ p, 0 ≤ p → p ≤ 1 →
    ∃ lifted, percentile empty ys p = .ok lifted ∧ line p ≤ lifted
  /-- The percentiles of the opposite values are the opposite ones from the other end. -/
  opposite : ∀ p, 0 ≤ p → p ≤ 1 →
    percentile empty (xs.map (- ·)).reverse p = .ok (- line (1 - p))

/-- Every ascending list with a value has all percentiles, and the two positions that one is taken
from are positions of the list. It lies between the values there, is the value itself at a whole
position, and does not fall when its fraction or a value of the list rises. The percentiles of the
opposite values are the opposite ones from the other end.

Proof: the percentile is the value part of the way along the line through the values of the list, and
that line is straight and rises between one position and the next. -/
theorem percentile_interpolates (empty : Rat) (some : xs ≠ []) (ascending : xs.Pairwise (· ≤ ·)) :
    ∃ line, PercentileLaws empty xs some line := by
  refine ⟨partWay xs, fun p low high => percentile_eq empty some low high, ?between,
    partWay_at, ?first, ?last, fun p p' => partWay_mono ascending some, ?lifted, ?opposite⟩
  case between =>
    intro p low high
    obtain ⟨start, finish⟩ := position_inside some low high
    exact interpolated_between ascending start finish
  case first =>
    rw [partWay_start, List.getD_eq_getElem _ _ (List.length_pos_of_ne_nil some),
      List.head_eq_getElem]
  case last =>
    rw [partWay_end some, List.getD_eq_getElem _ _ (by have := List.length_pos_of_ne_nil some; omega),
      List.getLast_eq_getElem]
  case lifted =>
    intro ys above p low high
    have filled : ys ≠ [] := by
      rintro rfl
      exact some (List.forall₂_nil_right_iff.mp above)
    obtain ⟨start, finish⟩ := position_inside some low high
    refine ⟨_, percentile_eq empty filled low high, ?_⟩
    rw [← above.length_eq]
    exact interpolated_le_of_forall₂ above start finish
  case opposite =>
    intro p low high
    have filled : (xs.map (- ·)).reverse ≠ [] := by simpa using some
    rw [percentile_eq empty filled low high, ← partWay, partWay_opposite some low high]

/-- Four values that double: three quarters of the way lie a quarter behind the third one, and the
opposite values have the opposite percentile a quarter of the way. A third value that is larger lifts
it. -/
theorem percentile_interpolates_doubling :
    percentile 0 [1, 2, 4, (8 : Rat)] (3 / 4) = .ok 5 ∧
      percentile 0 [1, 2, 4, (8 : Rat)] (1 / 3) = .ok 2 ∧
      percentile 0 [-8, -4, -2, (-1 : Rat)] (1 / 4) = .ok (-5) ∧
      ∃ lifted, percentile 0 [1, 2, 6, (8 : Rat)] (3 / 4) = .ok lifted ∧ 5 ≤ lifted := by
  have some : [1, 2, 4, (8 : Rat)] ≠ [] := List.cons_ne_nil _ _
  obtain ⟨line, laws⟩ := percentile_interpolates 0 some (by decide +kernel)
  have here : percentile 0 [1, 2, 4, (8 : Rat)] (3 / 4) = .ok 5 := by
    rw [percentile_eq 0 some (by norm_num) (by norm_num)]
    exact congrArg Except.ok (by decide +kernel)
  have five : line (3 / 4) = 5 :=
    Except.ok.inj ((laws.value (3 / 4) (by norm_num) (by norm_num)).symm.trans here)
  have second : line (1 / 3) = 2 := by
    simpa [show ((4 : Rat) - 1) = 3 by norm_num] using laws.whole (by decide) 1
  refine ⟨here, ?_, ?_, ?_⟩
  · rw [laws.value (1 / 3) (by norm_num) (by norm_num), second]
  · have same := laws.opposite (1 / 4) (by norm_num) (by norm_num)
    norm_num [five] at same
    exact same
  · have above : List.Forall₂ (· ≤ ·) [1, 2, 4, (8 : Rat)] [1, 2, 6, 8] := by
      norm_num [List.forall₂_cons]
    rw [← five]
    exact laws.lifted _ above (3 / 4) (by norm_num) (by norm_num)

end BuildBench.Statistics
