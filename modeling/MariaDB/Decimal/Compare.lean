/-
The comparison that `do_sub` makes before it subtracts, and `decimal_cmp`, which stops
there.

`do_sub` steps over the zero words at the front of each integer part; the number with more
integer words left is the larger. With as many integer words on both sides it drops the zero
words at the end of each fraction and compares what is left word by word. The result is the
carry `do_sub` subtracts with, set when the second number is the larger, or the finding that
the two are equal. This file proves that this order is the numeric order of the magnitudes,
whatever leading and trailing zero words the two representations carry, and from it that
`decimal_cmp` is the numeric order of well-formed decimals.
-/

import MariaDB.Decimal.Basic

namespace MariaDB.Decimal

/-! ### The first part of `do_sub` -/

/-- `while (buf1 <= end1 && buf2 <= end2 && *buf1 == *buf2) buf1++, buf2++;` and the tests
after it: `none` when both strings end together, otherwise the carry, set when the second
number is the larger. -/
def compareWords : List ℕ → List ℕ → Option Bool
  | word1 :: rest1, word2 :: rest2 =>
    if word1 = word2 then compareWords rest1 rest2 else some (decide (word1 < word2))
  | _ :: _, [] => some false
  | [], _ :: _ => some true
  | [], [] => none

/-- `while (buf < stop && *buf == 0) buf++`: the zero words at the front of the integer
part. -/
def leadingZeroWords (d : DecimalT) : ℕ :=
  ((d.buf.take (intWords d)).takeWhile (· == 0)).length

/-- The words from the first non-zero integer word to the last non-zero word, as
`while (buf1 <= end1 && *end1 == 0) end1--` leaves them. -/
def significantWords (d : DecimalT) : List ℕ :=
  ((usedWords d).drop (leadingZeroWords d)).rdropWhile (· == 0)

/-- What the first part of `do_sub` leaves for the subtraction: where the integer words
start after the leading zero words and how many remain, the fraction word counts (cut to the
last non-zero word, and negative when the cut reaches into the integer part, when the
integer word counts are equal), and the carry, or `none` when the two numbers are equal. -/
structure SubStart where
  start1 : ℕ
  start2 : ℕ
  intg1 : ℕ
  intg2 : ℕ
  frac1 : ℤ
  frac2 : ℤ
  carry : Option Bool
  deriving Repr, DecidableEq

/-- The first part of `do_sub`, up to the carry. -/
def subStart (from1 from2 : DecimalT) : SubStart :=
  let start1 := leadingZeroWords from1
  let start2 := leadingZeroWords from2
  let intg1 := intWords from1 - start1
  let intg2 := intWords from2 - start2
  if intg1 < intg2 then
    ⟨start1, start2, intg1, intg2, fracWords from1, fracWords from2, some true⟩
  else if intg1 = intg2 then
    -- `frac1= (int) (end1 - stop1) + 1`
    let frac1 : ℤ := start1 + (significantWords from1).length - intWords from1
    let frac2 : ℤ := start2 + (significantWords from2).length - intWords from2
    ⟨start1, start2, intg1, intg2, frac1, frac2,
      compareWords (significantWords from1) (significantWords from2)⟩
  else ⟨start1, start2, intg1, intg2, fracWords from1, fracWords from2, some false⟩

/-- `decimal_cmp`: `-1`, `0` or `1`. With equal signs it is the carry of `do_sub`, turned
round for negative numbers; otherwise the negative number is the smaller. -/
def decimalCmp (from1 from2 : DecimalT) : ℤ :=
  if from1.sign = from2.sign then
    match (subStart from1 from2).carry with
    | none => 0
    | some carry => if carry = from1.sign then 1 else -1
  else if from1.sign then -1 else 1

/-! ### The carry is the order of the magnitudes -/

/-- The order a carry of `do_sub` reports. -/
def carryOrdering : Option Bool → Ordering
  | none => .eq
  | some true => .lt
  | some false => .gt

theorem carryOrdering_compareWords (xs ys : List ℕ) :
    carryOrdering (compareWords xs ys) = compare xs ys := by
  induction xs generalizing ys with
  | nil => cases ys with
    | nil => rfl
    | cons _ _ => rfl
  | cons x xs inductionHypothesis => cases ys with
    | nil => rfl
    | cons y ys =>
      rw [compareWords, List.compare_cons_cons]
      by_cases same : x = y
      · rw [if_pos same, same, Nat.compare_eq_eq.mpr rfl, Ordering.eq_then, inductionHypothesis]
      · rw [if_neg same]
        rcases Nat.lt_or_gt_of_ne same with less | greater
        · rw [decide_eq_true less, Nat.compare_eq_lt.mpr less, Ordering.lt_then]
          rfl
        · rw [decide_eq_false (Nat.lt_asymm greater), Nat.compare_eq_gt.mpr greater,
            Ordering.gt_then]
          rfl

section Words

variable {d : DecimalT}

/-- The integer words from the first non-zero one on. -/
def intTail (d : DecimalT) : List ℕ := (d.buf.take (intWords d)).dropWhile (· == 0)

/-- The fraction words. -/
def fracPart (d : DecimalT) : List ℕ := (d.buf.drop (intWords d)).take (fracWords d)

theorem intWords_take_eq :
    d.buf.take (intWords d) = List.replicate (leadingZeroWords d) 0 ++ intTail d := by
  have zeros : (d.buf.take (intWords d)).takeWhile (· == 0) =
      List.replicate (leadingZeroWords d) 0 := by
    rw [List.eq_replicate_iff]
    exact ⟨rfl, fun word member => by simpa using List.mem_takeWhile_imp member⟩
  rw [← zeros, intTail, List.takeWhile_append_dropWhile]

theorem usedWords_eq_leading_append :
    usedWords d = List.replicate (leadingZeroWords d) 0 ++ (intTail d ++ fracPart d) := by
  rw [usedWords, List.take_add, intWords_take_eq, List.append_assoc, fracPart]

theorem drop_leadingZeroWords :
    (usedWords d).drop (leadingZeroWords d) = intTail d ++ fracPart d := by
  rw [usedWords_eq_leading_append, List.drop_left' (List.length_replicate ..)]

theorem scaled_eq_value_tail : scaled d = Positional.value digBase (intTail d ++ fracPart d) := by
  rw [scaled, usedWords_eq_leading_append, Positional.value_replicate_zero_append]

theorem length_intTail (present : intWords d + fracWords d ≤ d.buf.length) :
    (intTail d).length = intWords d - leadingZeroWords d := by
  have whole := congrArg List.length
    (List.takeWhile_append_dropWhile (p := (· == 0)) (l := d.buf.take (intWords d)))
  rw [List.length_append, List.length_take,
    Nat.min_eq_left (le_trans (Nat.le_add_right _ _) present)] at whole
  rw [intTail, leadingZeroWords]
  omega

theorem length_fracPart (present : intWords d + fracWords d ≤ d.buf.length) :
    (fracPart d).length = fracWords d := by
  rw [fracPart, List.length_take, List.length_drop]
  omega

/-- The integer words left after the leading zero words start with a non-zero word. -/
theorem intTail_head_ne_zero (nonempty : intTail d ≠ []) : (intTail d).head nonempty ≠ 0 := by
  have stopped := List.head?_dropWhile_not (· == 0) (d.buf.take (intWords d))
  rw [← intTail, List.head?_eq_some_head nonempty] at stopped
  simpa using stopped

/-- Past the leading zero words the words are the significant words followed by the zero
words `rdropWhile` dropped. -/
theorem tail_eq_significant_append :
    intTail d ++ fracPart d = significantWords d ++
      List.replicate ((intTail d ++ fracPart d).rtakeWhile (· == 0)).length 0 := by
  rw [significantWords, drop_leadingZeroWords]
  conv_lhs => rw [← List.rdropWhile_append_rtakeWhile (p := (· == 0))
    (l := intTail d ++ fracPart d)]
  congr 1
  rw [List.eq_replicate_iff]
  exact ⟨rfl, fun word member => by simpa using List.mem_rtakeWhile_imp member⟩

theorem significantWords_last (nonempty : significantWords d ≠ []) :
    (significantWords d).getLast nonempty ≠ 0 := by
  have last := List.rdropWhile_last_not (· == 0) _ nonempty
  intro zero
  exact last (beq_iff_eq.mpr zero)

theorem tail_mem_usedWords {word : ℕ} (member : word ∈ intTail d ++ fracPart d) :
    word ∈ usedWords d := by
  rw [usedWords_eq_leading_append]
  exact List.mem_append_right _ member

theorem length_tail (present : intWords d + fracWords d ≤ d.buf.length) :
    (intTail d ++ fracPart d).length = (intTail d).length + fracWords d := by
  rw [List.length_append, length_fracPart present]

/-- Without its leading zero words the number is below one unit of the word after its
integer words. -/
theorem scaled_lt (present : intWords d + fracWords d ≤ d.buf.length)
    (small : ∀ word ∈ usedWords d, word < digBase) :
    scaled d < digBase ^ ((intTail d).length + fracWords d) := by
  rw [scaled_eq_value_tail, ← length_tail present]
  exact Positional.value_lt _ _ fun word member => small word (tail_mem_usedWords member)

/-- A number with an integer word left after the leading zero words is at least one unit of
its first word. -/
theorem le_scaled (present : intWords d + fracWords d ≤ d.buf.length)
    (nonempty : intTail d ≠ []) :
    digBase ^ ((intTail d).length - 1 + fracWords d) ≤ scaled d := by
  obtain ⟨head, tail, split⟩ := List.exists_cons_of_ne_nil nonempty
  have headPositive : 0 < head := by
    have headNonzero := intTail_head_ne_zero nonempty
    simp only [split, List.head_cons] at headNonzero
    exact Nat.pos_of_ne_zero headNonzero
  have tailLength : (tail ++ fracPart d).length = (intTail d).length - 1 + fracWords d := by
    rw [List.length_append, length_fracPart present, split, List.length_cons, Nat.add_sub_cancel]
  have expand : scaled d = head * digBase ^ (tail ++ fracPart d).length +
      Positional.value digBase (tail ++ fracPart d) := by
    rw [scaled_eq_value_tail, split, List.cons_append, Positional.value_cons]
  rw [expand, tailLength]
  calc digBase ^ ((intTail d).length - 1 + fracWords d)
      ≤ head * digBase ^ ((intTail d).length - 1 + fracWords d) :=
        Nat.le_mul_of_pos_left _ headPositive
    _ ≤ _ := Nat.le_add_right _ _

/-- Scaled to a common number of fraction words, the number is its significant words
followed by zero words. -/
theorem scaled_mul_pow (extra : ℕ) :
    scaled d * digBase ^ extra = Positional.value digBase (significantWords d ++
      List.replicate (((intTail d ++ fracPart d).rtakeWhile (· == 0)).length + extra) 0) := by
  rw [scaled_eq_value_tail, ← Positional.value_append_replicate_zero]
  conv_lhs => rw [tail_eq_significant_append]
  rw [List.append_assoc, List.replicate_add]

theorem length_significant_add (present : intWords d + fracWords d ≤ d.buf.length) :
    (significantWords d).length + ((intTail d ++ fracPart d).rtakeWhile (· == 0)).length =
      (intTail d).length + fracWords d := by
  have total := congrArg List.length (tail_eq_significant_append (d := d))
  rw [List.length_append, List.length_append, List.length_replicate,
    length_fracPart present] at total
  exact total.symm

theorem significant_mem_usedWords {word : ℕ} (member : word ∈ significantWords d) :
    word ∈ usedWords d :=
  tail_mem_usedWords ((List.rdropWhile_prefix (· == 0) _).subset (by
    rw [← drop_leadingZeroWords]
    exact member))

theorem buf_drop_leadingZeroWords :
    d.buf.drop (leadingZeroWords d) = intTail d ++ d.buf.drop (intWords d) := by
  conv_lhs => rw [← List.take_append_drop (intWords d) d.buf, intWords_take_eq,
    List.append_assoc]
  rw [List.drop_left' (List.length_replicate ..)]

theorem intPart_eq_value_intTail :
    intPart d = Positional.value digBase (intTail d) := by
  rw [intPart, intWords_take_eq, Positional.value_replicate_zero_append]

theorem value_eq_zero_iff_intTail :
    Positional.value digBase (intTail d) = 0 ↔ intTail d = [] := by
  constructor
  · intro zero
    cases tail : intTail d with
    | nil => rfl
    | cons word rest =>
      have nonzero := intTail_head_ne_zero (d := d) (by rw [tail]; exact List.cons_ne_nil _ _)
      simp only [tail, List.head_cons] at nonzero
      rw [tail, Positional.value_cons] at zero
      exact absurd (Nat.eq_zero_of_add_eq_zero_right zero) (by
        rw [Nat.mul_eq_zero, not_or]
        exact ⟨nonzero, (Nat.pow_pos (by decide : 0 < digBase)).ne'⟩)
  · intro empty
    rw [empty]
    rfl

end Words

/-- The carry of `do_sub` is the order of the two magnitudes, each scaled by the other's
fraction words to a common denominator. Only the presence of the words and their bound are
needed: any leading zero words and trailing zero words are allowed. -/
theorem carryOrdering_subStart {d1 d2 : DecimalT}
    (present1 : intWords d1 + fracWords d1 ≤ d1.buf.length)
    (present2 : intWords d2 + fracWords d2 ≤ d2.buf.length)
    (small1 : ∀ word ∈ usedWords d1, word < digBase)
    (small2 : ∀ word ∈ usedWords d2, word < digBase) :
    carryOrdering (subStart d1 d2).carry =
      compare (scaled d1 * digBase ^ fracWords d2) (scaled d2 * digBase ^ fracWords d1) := by
  have basePositive : 0 < digBase := by decide
  have length1 := length_intTail present1
  have length2 := length_intTail present2
  unfold subStart
  simp only []
  split
  case isTrue fewer =>
    -- the second number has more integer words left: it is the larger
    have nonempty : intTail d2 ≠ [] := by
      intro empty
      rw [empty, List.length_nil] at length2
      omega
    refine (Nat.compare_eq_lt.mpr ?_).symm
    calc scaled d1 * digBase ^ fracWords d2
        < digBase ^ ((intTail d1).length + fracWords d1) * digBase ^ fracWords d2 :=
          Nat.mul_lt_mul_of_pos_right (scaled_lt present1 small1) (Nat.pow_pos basePositive)
      _ ≤ digBase ^ ((intTail d2).length - 1 + fracWords d2) * digBase ^ fracWords d1 := by
          rw [← Nat.pow_add, ← Nat.pow_add]
          exact Nat.pow_le_pow_right basePositive (by omega)
      _ ≤ scaled d2 * digBase ^ fracWords d1 :=
          Nat.mul_le_mul_right _ (le_scaled present2 nonempty)
  case isFalse notFewer =>
    split
    case isTrue same =>
      -- as many integer words: the significant words decide, whatever zeros follow them
      rw [carryOrdering_compareWords, scaled_mul_pow, scaled_mul_pow,
        ← Positional.compare_eq_compare_value, Positional.compare_append_zeros _ _ _ _
          (fun nonempty => significantWords_last nonempty)
          (fun nonempty => significantWords_last nonempty)]
      · have sum1 := length_significant_add present1
        have sum2 := length_significant_add present2
        omega
      · simp only [List.length_append, List.length_replicate]
        have sum1 := length_significant_add present1
        have sum2 := length_significant_add present2
        omega
      · intro word member
        rcases List.mem_append.mp member with significant | zero
        · exact small1 word (significant_mem_usedWords significant)
        · rw [List.eq_of_mem_replicate zero]
          exact basePositive
      · intro word member
        rcases List.mem_append.mp member with significant | zero
        · exact small2 word (significant_mem_usedWords significant)
        · rw [List.eq_of_mem_replicate zero]
          exact basePositive
    case isFalse notSame =>
      -- the first number has more integer words left: it is the larger
      have nonempty : intTail d1 ≠ [] := by
        intro empty
        rw [empty, List.length_nil] at length1
        omega
      refine (Nat.compare_eq_gt.mpr ?_).symm
      calc scaled d2 * digBase ^ fracWords d1
          < digBase ^ ((intTail d2).length + fracWords d2) * digBase ^ fracWords d1 :=
            Nat.mul_lt_mul_of_pos_right (scaled_lt present2 small2) (Nat.pow_pos basePositive)
        _ ≤ digBase ^ ((intTail d1).length - 1 + fracWords d1) * digBase ^ fracWords d2 := by
            rw [← Nat.pow_add, ← Nat.pow_add]
            exact Nat.pow_le_pow_right basePositive (by omega)
        _ ≤ scaled d1 * digBase ^ fracWords d2 :=
            Nat.mul_le_mul_right _ (le_scaled present1 nonempty)

/-! ### `decimal_cmp` is the numeric order -/

/-- Two non-negative fractions compare as their cross products. -/
theorem compare_div_div (numerator numerator' denominator denominator' : ℕ)
    (positive : 0 < denominator) (positive' : 0 < denominator') :
    compare ((numerator : ℚ) / denominator) ((numerator' : ℚ) / denominator') =
      compare (numerator * denominator') (numerator' * denominator) := by
  have castPositive : (0 : ℚ) < denominator := Nat.cast_pos.mpr positive
  have castPositive' : (0 : ℚ) < denominator' := Nat.cast_pos.mpr positive'
  rcases lt_trichotomy (numerator * denominator') (numerator' * denominator) with less | same | greater
  · rw [Nat.compare_eq_lt.mpr less, compare_lt_iff_lt,
      div_lt_div_iff₀ castPositive castPositive']
    exact_mod_cast less
  · rw [Nat.compare_eq_eq.mpr same, compare_eq_iff_eq, div_eq_div_iff castPositive.ne'
      castPositive'.ne']
    exact_mod_cast same
  · rw [Nat.compare_eq_gt.mpr greater, compare_gt_iff_gt,
      div_lt_div_iff₀ castPositive' castPositive]
    exact_mod_cast greater

theorem compare_neg_neg (x y : ℚ) : compare (-x) (-y) = (compare x y).swap := by
  rcases lt_trichotomy x y with less | same | greater
  · rw [compare_gt_iff_gt.mpr (neg_lt_neg less), compare_lt_iff_lt.mpr less]
    rfl
  · rw [same, compare_eq_iff_eq.mpr rfl, compare_eq_iff_eq.mpr rfl]
    rfl
  · rw [compare_lt_iff_lt.mpr (neg_lt_neg greater), compare_gt_iff_gt.mpr greater]
    rfl

/-- The magnitude of a decimal. -/
def magnitude (d : DecimalT) : ℚ := (scaled d : ℚ) / (digBase : ℚ) ^ fracWords d

theorem value_eq_magnitude (d : DecimalT) :
    value d = if d.sign then -magnitude d else magnitude d := by
  rw [value, magnitude]
  cases d.sign
  · rw [if_neg (by decide), if_neg (by decide), one_mul]
  · rw [if_pos rfl, if_pos rfl, neg_one_mul, neg_div]

theorem magnitude_nonneg (d : DecimalT) : 0 ≤ magnitude d := by
  unfold magnitude
  positivity

theorem magnitude_pos {d : DecimalT} (nonzero : ¬ IsZero d) : 0 < magnitude d := by
  have positive : (0 : ℚ) < scaled d := Nat.cast_pos.mpr (Nat.pos_of_ne_zero nonzero)
  exact div_pos positive (pow_pos (by norm_num [digBase]) _)

/-- Magnitudes compare as the carry of `do_sub` says. -/
theorem compare_magnitude {d1 d2 : DecimalT} (wellFormed1 : WellFormed d1)
    (wellFormed2 : WellFormed d2) :
    compare (magnitude d1) (magnitude d2) = carryOrdering (subStart d1 d2).carry := by
  have basePositive : 0 < digBase := by decide
  rw [carryOrdering_subStart wellFormed1.words_present wellFormed2.words_present
    wellFormed1.word_lt wellFormed2.word_lt, magnitude, magnitude]
  exact_mod_cast compare_div_div _ _ _ _ (Nat.pow_pos basePositive) (Nat.pow_pos basePositive)

/-- `decimal_cmp` is the numeric order of well-formed decimals: its sign is the comparison
of the two values. -/
theorem compare_decimalCmp {d1 d2 : DecimalT} (wellFormed1 : WellFormed d1)
    (wellFormed2 : WellFormed d2) :
    compare (decimalCmp d1 d2) 0 = compare (value d1) (value d2) := by
  rw [value_eq_magnitude, value_eq_magnitude, decimalCmp]
  cases sign1 : d1.sign <;> cases sign2 : d2.sign
  case false.false =>
    rw [if_pos rfl, if_neg (by decide), if_neg (by decide),
      compare_magnitude wellFormed1 wellFormed2]
    rcases (subStart d1 d2).carry with _ | _ | _ <;> rfl
  case true.true =>
    rw [if_pos rfl, if_pos rfl, if_pos rfl, compare_neg_neg,
      compare_magnitude wellFormed1 wellFormed2]
    rcases (subStart d1 d2).carry with _ | _ | _ <;> rfl
  case true.false =>
    -- a negative number is non-zero, so it lies below every non-negative one
    rw [if_neg (by decide), if_pos rfl, if_pos rfl, if_neg (by decide)]
    have negative := neg_lt_zero.mpr (magnitude_pos (wellFormed1.negative_nonzero sign1))
    exact (compare_lt_iff_lt.mpr (lt_of_lt_of_le negative (magnitude_nonneg d2))).symm
  case false.true =>
    rw [if_neg (by decide), if_neg (by decide), if_pos rfl]
    have negative := neg_lt_zero.mpr (magnitude_pos (wellFormed2.negative_nonzero sign2))
    exact (compare_gt_iff_gt.mpr (lt_of_lt_of_le negative (magnitude_nonneg d1))).symm

theorem decimalCmp_cases (from1 from2 : DecimalT) :
    decimalCmp from1 from2 = -1 ∨ decimalCmp from1 from2 = 0 ∨ decimalCmp from1 from2 = 1 := by
  unfold decimalCmp
  split_ifs
  · split
    · simp
    · split_ifs <;> simp
  · simp
  · simp

/-- `decimal_cmp` is the sign of the difference of the values. -/
theorem decimalCmp_eq_sign {d1 d2 : DecimalT} (wellFormed1 : WellFormed d1)
    (wellFormed2 : WellFormed d2) :
    decimalCmp d1 d2 = (SignType.sign (value d1 - value d2) : ℤ) := by
  have order := compare_decimalCmp wellFormed1 wellFormed2
  rcases decimalCmp_cases d1 d2 with result | result | result <;> rw [result] at order ⊢
  · have less : value d1 < value d2 := compare_lt_iff_lt.mp (order.symm.trans (by decide))
    rw [sign_neg (sub_neg.mpr less), SignType.coe_neg_one]
  · have same : value d1 = value d2 := compare_eq_iff_eq.mp (order.symm.trans (by decide))
    rw [same, sub_self, sign_zero, SignType.coe_zero]
  · have greater : value d2 < value d1 := compare_gt_iff_gt.mp (order.symm.trans (by decide))
    rw [sign_pos (sub_pos.mpr greater), SignType.coe_one]

theorem decimalCmp_nonpos_iff {d1 d2 : DecimalT} (wellFormed1 : WellFormed d1)
    (wellFormed2 : WellFormed d2) : decimalCmp d1 d2 ≤ 0 ↔ value d1 ≤ value d2 := by
  rw [decimalCmp_eq_sign wellFormed1 wellFormed2]
  rcases lt_trichotomy (value d1) (value d2) with less | same | greater
  · simp [sign_neg (sub_neg.mpr less), less.le]
  · simp [same]
  · simp [sign_pos (sub_pos.mpr greater), not_le.mpr greater]

/-- `decimal_cmp` is the numeric order of well-formed decimals, whatever words and digit counts
represent them: the sign of the difference of the values, antisymmetric and transitive. -/
theorem decimalCmp_numeric_order :
    (∀ a b : DecimalT, WellFormed a → WellFormed b →
      decimalCmp a b = (SignType.sign (value a - value b) : ℤ)) ∧
    (∀ a b : DecimalT, WellFormed a → WellFormed b → decimalCmp b a = -decimalCmp a b) ∧
    (∀ a b c : DecimalT, WellFormed a → WellFormed b → WellFormed c →
      decimalCmp a b ≤ 0 → decimalCmp b c ≤ 0 → decimalCmp a c ≤ 0) := by
  refine ⟨fun a b wellFormedA wellFormedB => decimalCmp_eq_sign wellFormedA wellFormedB,
    fun a b wellFormedA wellFormedB => ?_, fun a b c wellFormedA wellFormedB wellFormedC => ?_⟩
  · rw [decimalCmp_eq_sign wellFormedB wellFormedA, decimalCmp_eq_sign wellFormedA wellFormedB,
      ← neg_sub, Left.sign_neg, SignType.coe_neg]
  · rw [decimalCmp_nonpos_iff wellFormedA wellFormedB, decimalCmp_nonpos_iff wellFormedB wellFormedC,
      decimalCmp_nonpos_iff wellFormedA wellFormedC]
    exact le_trans

/-- 1.5, the same number written `01.50` with a zero integer word in front and two fraction
digits, and 2. -/
theorem decimalCmp_numeric_order_leadingZero :
    WellFormed ⟨1, 1, 2, false, [1, 500000000]⟩ ∧ WellFormed ⟨10, 2, 3, false, [0, 1, 500000000]⟩ ∧
      WellFormed ⟨1, 0, 1, false, [2]⟩ ∧
      decimalCmp ⟨1, 1, 2, false, [1, 500000000]⟩ ⟨10, 2, 3, false, [0, 1, 500000000]⟩ =
        (SignType.sign (value ⟨1, 1, 2, false, [1, 500000000]⟩ -
          value ⟨10, 2, 3, false, [0, 1, 500000000]⟩) : ℤ) ∧
      decimalCmp ⟨10, 2, 3, false, [0, 1, 500000000]⟩ ⟨1, 1, 2, false, [1, 500000000]⟩ =
        -decimalCmp ⟨1, 1, 2, false, [1, 500000000]⟩ ⟨10, 2, 3, false, [0, 1, 500000000]⟩ ∧
      (decimalCmp ⟨1, 1, 2, false, [1, 500000000]⟩ ⟨10, 2, 3, false, [0, 1, 500000000]⟩ ≤ 0 →
        decimalCmp ⟨10, 2, 3, false, [0, 1, 500000000]⟩ ⟨1, 0, 1, false, [2]⟩ ≤ 0 →
        decimalCmp ⟨1, 1, 2, false, [1, 500000000]⟩ ⟨1, 0, 1, false, [2]⟩ ≤ 0) :=
  have wellFormed : WellFormed ⟨1, 1, 2, false, [1, 500000000]⟩ ∧
      WellFormed ⟨10, 2, 3, false, [0, 1, 500000000]⟩ ∧ WellFormed ⟨1, 0, 1, false, [2]⟩ := by
    decide
  ⟨wellFormed.1, wellFormed.2.1, wellFormed.2.2,
    decimalCmp_numeric_order.1 _ _ wellFormed.1 wellFormed.2.1,
    decimalCmp_numeric_order.2.1 _ _ wellFormed.1 wellFormed.2.1,
    decimalCmp_numeric_order.2.2 _ _ _ wellFormed.1 wellFormed.2.1 wellFormed.2.2⟩

end MariaDB.Decimal
