/-
What `decimal2bin` writes, from the words of a well-formed `decimal_t`.

`remove_leading_zeroes` steps over the zero words at the front of the integer part and counts
the digits of the integer part. From there `decimal2bin` writes zero bytes for the integer
digits the format has and the number lacks, the short leading group, the whole words, the last
fraction group cut to the format's digits, and zero bytes to the end of the format. The main
theorem of this file is that on a decimal whose integer part and fraction fit the format this
is the format's image of the number scaled to the format's digits: the writer refines
`binImage` of `BinFormat.lean`. The case analysis follows the branches of the fraction sizing
of the source.
-/

import MariaDB.Decimal.BinFormat
import MariaDB.Decimal.Compare

namespace MariaDB.Decimal

/-! ### `remove_leading_zeroes` -/

theorem skipZeroWords_zero (words : List ℕ) (i : ℕ) : skipZeroWords words 0 i = (0, words) := by
  cases words with
  | nil => rfl
  | cons word rest => simp [skipZeroWords]

theorem skipZeroWords_eq (words : List ℕ) (words' i : ℕ) (positive : 0 < i)
    (short : i ≤ digPerDec1) :
    skipZeroWords words (i + digPerDec1 * words') i =
      (if ((words.take (words' + 1)).takeWhile (· == 0)).length = 0 then i + digPerDec1 * words'
        else digPerDec1 * (words' + 1 - ((words.take (words' + 1)).takeWhile (· == 0)).length),
        words.drop ((words.take (words' + 1)).takeWhile (· == 0)).length) := by
  induction words generalizing words' i with
  | nil => simp [skipZeroWords]
  | cons word rest inductionHypothesis =>
    by_cases zero : word = 0
    · have step : skipZeroWords (word :: rest) (i + digPerDec1 * words') i =
          skipZeroWords rest (digPerDec1 * words') digPerDec1 := by
        rw [skipZeroWords, if_pos ⟨by omega, zero⟩, Nat.add_sub_cancel_left]
      rw [step, List.take_succ_cons, List.takeWhile_cons_of_pos (by simp [zero]),
        List.length_cons]
      cases words' with
      | zero => simp [skipZeroWords_zero]
      | succ words' =>
        rw [if_neg (Nat.succ_ne_zero _), List.drop_succ_cons, Nat.mul_succ,
          Nat.add_comm (digPerDec1 * words'), inductionHypothesis words' digPerDec1 (by decide) le_rfl]
        congr 1
        split_ifs <;> unfold digPerDec1 <;> omega
    · rw [skipZeroWords, if_neg (fun both => zero both.2), List.take_succ_cons,
        List.takeWhile_cons_of_neg (by simp [zero])]
      simp

theorem countLeadingDigits_eq (word : ℕ) (nonzero : word ≠ 0) (i intg : ℕ) :
    countLeadingDigits word i intg = intg - (i + 1 - (Nat.digits 10 word).length) := by
  have present : 0 < (Nat.digits 10 word).length :=
    List.length_pos_of_ne_nil (Nat.digits_ne_nil_iff_ne_zero.mpr nonzero)
  induction i generalizing intg with
  | zero => rw [countLeadingDigits]; omega
  | succ i inductionHypothesis =>
    rw [countLeadingDigits, powers10]
    by_cases below : word < 10 ^ (i + 1)
    · have fewDigits := (Nat.digits_length_le_iff (by norm_num) word).mpr below
      rw [if_pos below, inductionHypothesis]
      omega
    · have manyDigits := (Nat.lt_digits_length_iff (by norm_num) word).mpr (Nat.le_of_not_lt below)
      rw [if_neg below]
      omega

/-- A number whose leading word is not zero has nine digits for each word after it. -/
theorem length_digits_value (word : ℕ) (nonzero : word ≠ 0) (rest : List ℕ)
    (small : ∀ other ∈ rest, other < digBase) :
    (Nat.digits 10 (Positional.value digBase (word :: rest))).length =
      digPerDec1 * rest.length + (Nat.digits 10 word).length := by
  have wordBelow : word < 10 ^ (Nat.digits 10 word).length :=
    Nat.lt_base_pow_length_digits (by norm_num)
  have wordAbove : 10 ^ ((Nat.digits 10 word).length - 1) ≤ word :=
    (Nat.lt_digits_length_iff (by norm_num) word).mp (Nat.sub_lt
      (List.length_pos_of_ne_nil (Nat.digits_ne_nil_iff_ne_zero.mpr nonzero)) Nat.one_pos)
  have restBelow := Positional.value_lt digBase rest small
  rw [Positional.value_cons, digBase_pow] at *
  apply le_antisymm
  · rw [Nat.digits_length_le_iff (by norm_num), Nat.pow_add, Nat.mul_comm (10 ^ _)]
    calc word * 10 ^ (digPerDec1 * rest.length) + Positional.value digBase rest
        < (word + 1) * 10 ^ (digPerDec1 * rest.length) := by rw [Nat.succ_mul]; omega
      _ ≤ 10 ^ (Nat.digits 10 word).length * 10 ^ (digPerDec1 * rest.length) :=
        Nat.mul_le_mul_right _ wordBelow
  · have positive : 0 < (Nat.digits 10 word).length :=
      List.length_pos_of_ne_nil (Nat.digits_ne_nil_iff_ne_zero.mpr nonzero)
    rw [Nat.le_iff_lt_add_one, show digPerDec1 * rest.length + (Nat.digits 10 word).length =
      digPerDec1 * rest.length + ((Nat.digits 10 word).length - 1) + 1 by omega,
      Nat.add_one_lt_add_one_iff, Nat.lt_digits_length_iff (by norm_num), Nat.pow_add,
      Nat.mul_comm (10 ^ (digPerDec1 * rest.length))]
    calc 10 ^ ((Nat.digits 10 word).length - 1) * 10 ^ (digPerDec1 * rest.length)
        ≤ word * 10 ^ (digPerDec1 * rest.length) := Nat.mul_le_mul_right _ wordAbove
      _ ≤ _ := Nat.le_add_right _ _

/-- `remove_leading_zeroes` on a well-formed decimal: the number of digits of the integer
part, and the words from the first non-zero integer word on. -/
theorem removeLeadingZeroes_eq {d : DecimalT} (wellFormed : WellFormed d) :
    removeLeadingZeroes d =
      ((Nat.digits 10 (intPart d)).length, d.buf.drop (leadingZeroWords d)) := by
  rcases Nat.eq_zero_or_pos d.intg with noDigits | positive
  · have noWords : intWords d = 0 := by rw [intWords, noDigits]; rfl
    have noZeroWords : leadingZeroWords d = 0 := by rw [leadingZeroWords, noWords]; rfl
    rw [removeLeadingZeroes, noDigits, skipZeroWords_zero]
    dsimp only
    rw [if_neg (Nat.lt_irrefl 0), intPart, noWords, noZeroWords]
    rfl
  obtain ⟨first, words', firstPositive, firstShort, layout⟩ :
      ∃ first words', 0 < first ∧ first ≤ digPerDec1 ∧ d.intg = first + digPerDec1 * words' :=
    ⟨(d.intg - 1) % digPerDec1 + 1, (d.intg - 1) / digPerDec1, by omega,
      by unfold digPerDec1; omega, by unfold digPerDec1; omega⟩
  have firstEq : (d.intg - 1) % digPerDec1 + 1 = first := by
    rw [layout]; unfold digPerDec1 at *; omega
  have wordsEq : intWords d = words' + 1 := by
    rw [intWords, roundUp, layout]; unfold digPerDec1 at *; omega
  have skipped : ((d.buf.take (words' + 1)).takeWhile (· == 0)).length = leadingZeroWords d := by
    rw [leadingZeroWords, wordsEq]
  rw [removeLeadingZeroes, firstEq, layout, skipZeroWords_eq _ _ _ firstPositive firstShort,
    skipped, ← layout, buf_drop_leadingZeroWords, intPart_eq_value_intTail]
  dsimp only
  have tailLength := length_intTail wellFormed.words_present
  cases tail : intTail d with
  | nil =>
    -- every integer word is zero: the count drops to zero
    rw [tail, List.length_nil, wordsEq] at tailLength
    have allZero : words' + 1 - leadingZeroWords d = 0 := tailLength.symm
    rw [if_neg (show leadingZeroWords d ≠ 0 by omega), allZero, Nat.mul_zero,
      if_neg (Nat.lt_irrefl 0)]
    rfl
  | cons word rest =>
    have nonzero : word ≠ 0 := by
      have head := intTail_head_ne_zero (d := d) (by rw [tail]; exact List.cons_ne_nil _ _)
      simpa [tail] using head
    have smallRest : ∀ other ∈ rest, other < digBase := fun other member =>
      wellFormed.word_lt other (tail_mem_usedWords (by rw [tail]; simp [member]))
    have wordSmall : word < digBase :=
      wellFormed.word_lt word (tail_mem_usedWords (by rw [tail]; simp))
    rw [tail, List.length_cons, wordsEq] at tailLength
    rw [length_digits_value word nonzero rest smallRest, List.cons_append, List.headD_cons]
    -- the digits the count allows the leading word, `intg % 9` or nine
    have startsWord : d.buf.headD 0 = word ∨ 0 < leadingZeroWords d := by
      rcases Nat.eq_zero_or_pos (leadingZeroWords d) with none | some
      · have whole := buf_drop_leadingZeroWords (d := d)
        rw [none, List.drop_zero, tail, List.cons_append] at whole
        exact .inl (by rw [whole, List.headD_cons])
      · exact .inr some
    -- the count after the zero words: the leading word has `first'` digit places, then nine
    -- for each word after it
    obtain ⟨first', countForm, firstPositive', firstShort', wordFits⟩ : ∃ first',
        (if leadingZeroWords d = 0 then d.intg else digPerDec1 * (words' + 1 - leadingZeroWords d))
          = first' + digPerDec1 * rest.length ∧ 0 < first' ∧ first' ≤ digPerDec1 ∧
          word < 10 ^ first' := by
      by_cases none : leadingZeroWords d = 0
      · have sameWords : rest.length = words' := by omega
        refine ⟨first, by rw [if_pos none, layout, sameWords], firstPositive, firstShort, ?_⟩
        rcases Nat.lt_or_eq_of_le firstShort with below | full
        · have lead := wellFormed.leading
          rw [layout, Nat.add_mul_mod_self_left, Nat.mod_eq_of_lt below] at lead
          rcases startsWord with head | some
          · exact head ▸ lead (by omega)
          · omega
        · rw [full]
          exact wordSmall
      · refine ⟨digPerDec1, by rw [if_neg none]; unfold digPerDec1; omega, by decide, le_rfl,
          wordSmall⟩
    have wordDigits := (Nat.digits_length_le_iff (by norm_num) word).mpr wordFits
    rw [countForm, if_pos (by omega), countLeadingDigits_eq word nonzero,
      show (first' + digPerDec1 * rest.length - 1) % digPerDec1 = first' - 1 by
        unfold digPerDec1 at *; omega]
    congr 1
    omega

/-- The integer words past the leading zero words: a short leading word when the digit count
is not a multiple of nine, then whole words. -/
theorem intTail_layout {d : DecimalT} (wellFormed : WellFormed d) :
    ∃ lead words, intTail d = lead ++ words ∧
      words.length = (Nat.digits 10 (intPart d)).length / digPerDec1 ∧
      lead.length = (if (Nat.digits 10 (intPart d)).length % digPerDec1 = 0 then 0 else 1) ∧
      ∀ word ∈ lead, word < 10 ^ ((Nat.digits 10 (intPart d)).length % digPerDec1) := by
  rw [intPart_eq_value_intTail]
  cases tail : intTail d with
  | nil => exact ⟨[], [], rfl, rfl, rfl, fun _ member => absurd member List.not_mem_nil⟩
  | cons word rest =>
    have nonzero : word ≠ 0 := by
      have head := intTail_head_ne_zero (d := d) (by rw [tail]; exact List.cons_ne_nil _ _)
      simpa [tail] using head
    have member : ∀ other ∈ word :: rest, other ∈ usedWords d := fun other member =>
      tail_mem_usedWords (List.mem_append_left _ (tail ▸ member))
    have wordSmall : word < 10 ^ digPerDec1 := wellFormed.word_lt word (member word List.mem_cons_self)
    have wordDigits := (Nat.digits_length_le_iff (by norm_num) word).mpr wordSmall
    have wordPositive : 0 < (Nat.digits 10 word).length :=
      List.length_pos_of_ne_nil (Nat.digits_ne_nil_iff_ne_zero.mpr nonzero)
    rw [length_digits_value word nonzero rest fun other found =>
      wellFormed.word_lt other (member other (List.mem_cons_of_mem _ found))]
    rcases Nat.lt_or_eq_of_le wordDigits with short | full
    · -- a leading word of fewer than nine digits is the short group
      refine ⟨[word], rest, rfl, ?_, ?_, ?_⟩
      · unfold digPerDec1 at *; omega
      · rw [if_neg (by unfold digPerDec1 at *; omega)]; rfl
      · intro other found
        rw [List.mem_singleton.mp found, show (digPerDec1 * rest.length +
          (Nat.digits 10 word).length) % digPerDec1 = (Nat.digits 10 word).length by
            unfold digPerDec1 at *; omega]
        exact Nat.lt_base_pow_length_digits (by norm_num)
    · -- a leading word of nine digits is a whole word
      refine ⟨[], word :: rest, rfl, ?_, ?_, fun _ found => absurd found List.not_mem_nil⟩
      · rw [full, List.length_cons]; unfold digPerDec1; omega
      · rw [if_pos (by rw [full]; unfold digPerDec1; omega)]; rfl

/-! ### The words `decimal2bin` reads and the number it stores -/

/-- The words `decimal2bin` reads: the integer words from the first non-zero one, the
fraction words, and whatever follows. A number with no digits reads the zero mask, which the
same description covers, as it reads none of it. -/
theorem decimal2bin_words {d : DecimalT} (wellFormed : WellFormed d) :
    ∃ rest, (if (Nat.digits 10 (intPart d)).length +
        (d.frac / digPerDec1 * 4 + dig2bytes (d.frac % digPerDec1)) = 0 then (false, [0])
      else (d.sign, d.buf.drop (leadingZeroWords d))) =
      (d.sign, intTail d ++ (fracPart d ++ rest)) := by
  by_cases noDigits : (Nat.digits 10 (intPart d)).length +
      (d.frac / digPerDec1 * 4 + dig2bytes (d.frac % digPerDec1)) = 0
  · have noInt : intTail d = [] := by
      have noIntDigits : (Nat.digits 10 (intPart d)).length = 0 := by omega
      rw [← value_eq_zero_iff_intTail, ← intPart_eq_value_intTail]
      exact Nat.digits_eq_nil_iff_eq_zero.mp (List.length_eq_zero_iff.mp noIntDigits)
    have noFrac : fracPart d = [] := by
      have fracDigits : d.frac = 0 := by
        -- no fraction bytes: no whole fraction word and no digits left over
        have noRest : d.frac % digPerDec1 = 0 :=
          dig2bytes_eq_zero (Nat.le_of_lt (Nat.mod_lt _ (by decide))) (by omega)
        have noWords : d.frac / digPerDec1 = 0 := by omega
        have split := Nat.div_add_mod d.frac digPerDec1
        rw [noRest, noWords, Nat.mul_zero] at split
        exact split.symm
      apply List.eq_nil_of_length_eq_zero
      rw [length_fracPart wellFormed.words_present, fracWords, fracDigits]
      rfl
    have positive : d.sign = false := by
      cases sign : d.sign
      · rfl
      · exact absurd (by rw [IsZero, scaled_eq_value_tail, noInt, noFrac]; rfl)
          (wellFormed.negative_nonzero sign)
    exact ⟨[0], by rw [if_pos noDigits, noInt, noFrac, positive]; rfl⟩
  · refine ⟨d.buf.drop (intWords d + fracWords d), ?_⟩
    rw [if_neg noDigits, buf_drop_leadingZeroWords, fracPart, ← List.drop_drop,
      List.take_append_drop]

def storedNumber (d : DecimalT) (scale : ℕ) : ℕ := scaled d * 10 ^ scale / digBase ^ fracWords d

theorem scaled_eq_intPart {d : DecimalT} (present : intWords d + fracWords d ≤ d.buf.length) :
    scaled d = intPart d * digBase ^ fracWords d + Positional.value digBase (fracPart d) := by
  rw [scaled, usedWords, List.take_add, Positional.value_append, ← fracPart,
    length_fracPart present, intPart]

theorem storedNumber_eq {d : DecimalT} (scale : ℕ)
    (present : intWords d + fracWords d ≤ d.buf.length) :
    storedNumber d scale = Positional.value digBase (fracPart d) * 10 ^ scale / digBase ^ fracWords d +
      intPart d * 10 ^ scale := by
  rw [storedNumber, scaled_eq_intPart present, Nat.add_mul, Nat.add_comm,
    Nat.mul_right_comm (intPart d), Nat.add_mul_div_right _ _ (Nat.pow_pos (by decide))]

theorem fracNumber_lt {d : DecimalT} (scale : ℕ)
    (present : intWords d + fracWords d ≤ d.buf.length)
    (small : ∀ word ∈ usedWords d, word < digBase) :
    Positional.value digBase (fracPart d) * 10 ^ scale / digBase ^ fracWords d < 10 ^ scale := by
  have below := Positional.value_lt digBase (fracPart d) fun word member =>
    small word (tail_mem_usedWords (List.mem_append_right _ member))
  rw [length_fracPart present] at below
  exact Nat.div_lt_of_lt_mul (Nat.mul_lt_mul_of_pos_right below (Nat.pow_pos (by norm_num)))

/-- The fraction the format stores is the fraction words, padded with zero words to the
format's last word, cut after the format's digits. -/
theorem fracNumber_eq (fracWords' frac0 frac0x scale : ℕ) (fraction : List ℕ) (fitsWords : fracWords' ≤ frac0 + 1)
    (scaleEq : scale = digPerDec1 * frac0 + frac0x) (short : frac0x < digPerDec1) :
    Positional.value digBase fraction * 10 ^ scale / digBase ^ fracWords' =
      Positional.value digBase (fraction ++ List.replicate (frac0 + 1 - fracWords') 0) /
        10 ^ (digPerDec1 - frac0x) := by
  have common : digBase ^ fracWords' * digBase ^ (frac0 + 1 - fracWords') =
      10 ^ (digPerDec1 - frac0x) * 10 ^ scale := by
    rw [← Nat.pow_add, Nat.add_sub_cancel' fitsWords, digBase_pow, ← Nat.pow_add, scaleEq]
    congr 1
    unfold digPerDec1 at *; omega
  rw [Positional.value_append_replicate_zero,
    ← Nat.mul_div_mul_right _ _ (Nat.pow_pos (by decide) : 0 < digBase ^ (frac0 + 1 - fracWords')),
    common, Nat.mul_right_comm, Nat.mul_div_mul_right _ _ (Nat.pow_pos (by norm_num))]

/-- The storedNumber of a fraction: the fraction words padded to the format's words, cut to
its digits. -/
theorem storedNumber_div_mod {d : DecimalT} (scale : ℕ) (wellFormed : WellFormed d)
    (fracFits : d.frac ≤ scale) :
    storedNumber d scale / 10 ^ scale = intPart d ∧
      storedNumber d scale % 10 ^ scale = Positional.value digBase
        (fracPart d ++ List.replicate (scale / digPerDec1 + 1 - (fracPart d).length) 0) /
          10 ^ (digPerDec1 - scale % digPerDec1) := by
  have present := wellFormed.words_present
  have below := fracNumber_lt scale present wellFormed.word_lt
  have fitsWords : fracWords d ≤ scale / digPerDec1 + 1 := by
    rw [fracWords, roundUp]; unfold digPerDec1 at *; omega
  rw [storedNumber_eq scale present, Nat.add_mul_div_right _ _ (Nat.pow_pos (by norm_num)),
    Nat.div_eq_of_lt below, Nat.zero_add, Nat.add_mul_mod_self_right, Nat.mod_eq_of_lt below,
    length_fracPart present, fracNumber_eq _ (scale / digPerDec1) (scale % digPerDec1) scale _
      fitsWords (Nat.div_add_mod scale digPerDec1).symm (Nat.mod_lt _ (by decide))]
  exact ⟨rfl, rfl⟩

/-! ### The fraction bytes -/

theorem storeMasked_eq (mask : Bool) (width x : ℕ) :
    storeMasked mask width x = (Positional.bytes width x).map (maskByte mask) := rfl

theorem flatten_map_storeMasked (mask : Bool) (width : ℕ) (words : List ℕ) :
    (words.map (storeMasked mask width)).flatten =
      ((words.map (Positional.bytes width)).flatten).map (maskByte mask) := by
  rw [List.map_flatten, List.map_map]
  rfl

theorem length_flatten_map_storeMasked (mask : Bool) (words : List ℕ) :
    ((words.map (storeMasked mask 4)).flatten).length = 4 * words.length := by
  induction words with
  | nil => rfl
  | cons word rest inductionHypothesis =>
    rw [List.map_cons, List.flatten_cons, List.length_append, inductionHypothesis, storeMasked,
      List.length_map, Positional.length_bytes, List.length_cons]
    ring

theorem headD_drop_getLast (fraction rest : List ℕ) (nonempty : fraction ≠ []) :
    ((fraction ++ rest).drop (fraction.length - 1)).headD 0 = fraction.getLast nonempty := by
  conv_lhs => rw [← List.dropLast_append_getLast nonempty]
  rw [List.length_append, List.length_singleton, Nat.add_sub_cancel, List.append_assoc,
    List.drop_left, List.singleton_append, List.headD_cons]

/-- `widenFrac` runs up to the limit while the digits all take the same bytes. -/
theorem widenFrac_eq (bytes limit : ℕ) :
    ∀ (fuel frac1x : ℕ), frac1x ≤ limit → limit ≤ frac1x + fuel →
      (∀ count, frac1x ≤ count → count < limit → dig2bytes count = bytes) →
      widenFrac bytes limit fuel frac1x = limit := by
  intro fuel
  induction fuel with
  | zero => intro frac1x below enough _; rw [widenFrac]; omega
  | succ fuel inductionHypothesis =>
    intro frac1x below enough same
    rw [widenFrac]
    rcases Nat.lt_or_eq_of_le below with less | equal
    · rw [if_pos ⟨less, same frac1x le_rfl less⟩]
      exact inductionHypothesis (frac1x + 1) less (by omega)
        fun count above below' => same count (by omega) below'
    · rw [if_neg (fun both => Nat.lt_irrefl _ (equal ▸ both.1)), equal]

/-- A fraction of no more digits than the format's takes no more bytes. -/
theorem fracSize_le {fracDigits scale : ℕ} (fits : fracDigits ≤ scale) :
    fracDigits / digPerDec1 * 4 + dig2bytes (fracDigits % digPerDec1) ≤
      scale / digPerDec1 * 4 + dig2bytes (scale % digPerDec1) := by
  have wordsLe : fracDigits / digPerDec1 ≤ scale / digPerDec1 := Nat.div_le_div_right fits
  have lastShort := dig2bytes_le_dig2bytes (Nat.le_of_lt (Nat.mod_lt fracDigits
    (by decide : 0 < digPerDec1))) le_rfl
  change dig2bytes (fracDigits % digPerDec1) ≤ 4 at lastShort
  rcases Nat.lt_or_eq_of_le wordsLe with before | same
  · have : fracDigits / digPerDec1 * 4 + 4 ≤ scale / digPerDec1 * 4 := by omega
    omega
  · have digitsLe : fracDigits % digPerDec1 ≤ scale % digPerDec1 := by
      unfold digPerDec1 at *; omega
    rw [same]
    exact Nat.add_le_add_left (dig2bytes_le_dig2bytes digitsLe
      (Nat.le_of_lt (Nat.mod_lt _ (by decide)))) _

/-- The fraction bytes of `decimal2bin` when the number's fraction fits the format: whole
words, the last group, and the padding to the end of the format, are the format's fraction
groups of the fraction words padded with zero words. The sizes are those of the branch of
`if (fsize0 < fsize1) ... else if (fsize0 > fsize1 && frac1x)` that a fitting fraction
takes. -/
theorem decimal2bin_fraction (mask : Bool) (fraction rest : List ℕ) (fracDigits scale : ℕ)
    (small : ∀ word ∈ fraction, word < digBase)
    (fracLength : fraction.length = roundUp fracDigits) (fits : fracDigits ≤ scale)
    (frac1 frac1x fsize0' : ℕ) (error : DecimalError)
    (layout : (if fracDigits / digPerDec1 * 4 + dig2bytes (fracDigits % digPerDec1) <
          scale / digPerDec1 * 4 + dig2bytes (scale % digPerDec1) ∧
          fracDigits % digPerDec1 ≠ 0 then
        if scale / digPerDec1 = fracDigits / digPerDec1 then
          (fracDigits / digPerDec1, scale % digPerDec1,
            fracDigits / digPerDec1 * 4 + dig2bytes (fracDigits % digPerDec1), DecimalError.ok)
        else (fracDigits / digPerDec1 + 1, 0,
          scale / digPerDec1 * 4 + dig2bytes (scale % digPerDec1), DecimalError.ok)
      else (fracDigits / digPerDec1, fracDigits % digPerDec1,
        scale / digPerDec1 * 4 + dig2bytes (scale % digPerDec1), DecimalError.ok)) =
      (frac1, frac1x, fsize0', error)) :
    (((fraction ++ rest).take frac1).map (storeMasked mask 4)).flatten ++
        lastFracGroup mask (scale / digPerDec1) (scale % digPerDec1) frac1 frac1x
          (((fraction ++ rest).drop frac1).headD 0) ++
      (if fracDigits / digPerDec1 * 4 + dig2bytes (fracDigits % digPerDec1) < fsize0' then
        List.replicate (min (fsize0' - (fracDigits / digPerDec1 * 4 +
            dig2bytes (fracDigits % digPerDec1)))
          (scale / digPerDec1 * 4 + dig2bytes (scale % digPerDec1) -
            ((((fraction ++ rest).take frac1).map (storeMasked mask 4)).flatten.length +
              (lastFracGroup mask (scale / digPerDec1) (scale % digPerDec1) frac1 frac1x
                (((fraction ++ rest).drop frac1).headD 0)).length)))
          (maskByte mask 0)
      else []) =
    (groupBytes (fracGroups scale) (Positional.value digBase
        (fraction ++ List.replicate (scale / digPerDec1 + 1 - fraction.length) 0) /
          10 ^ (digPerDec1 - scale % digPerDec1))).map (maskByte mask) := by
  have wordsLe : fracDigits / digPerDec1 ≤ scale / digPerDec1 := Nat.div_le_div_right fits
  have fracShort : fracDigits % digPerDec1 < digPerDec1 := Nat.mod_lt _ (by decide)
  have scaleShort : scale % digPerDec1 < digPerDec1 := Nat.mod_lt _ (by decide)
  have sameWords : fracDigits / digPerDec1 = scale / digPerDec1 →
      fracDigits % digPerDec1 ≤ scale % digPerDec1 := by
    intro same; unfold digPerDec1 at *; omega
  have lengthEq : fraction.length = fracDigits / digPerDec1 +
      if fracDigits % digPerDec1 = 0 then 0 else 1 := by
    rw [fracLength, roundUp]; unfold digPerDec1; split_ifs <;> omega
  have bytesShort : dig2bytes (fracDigits % digPerDec1) ≤ 4 :=
    dig2bytes_le_dig2bytes (Nat.le_of_lt fracShort) le_rfl
  by_cases grow : fracDigits / digPerDec1 * 4 + dig2bytes (fracDigits % digPerDec1) <
      scale / digPerDec1 * 4 + dig2bytes (scale % digPerDec1) ∧ fracDigits % digPerDec1 ≠ 0
  · rw [if_pos grow] at layout
    by_cases same : scale / digPerDec1 = fracDigits / digPerDec1
    · -- the last word ends in the format's last group: write it cut to the format's digits
      rw [if_pos same, Prod.mk.injEq, Prod.mk.injEq, Prod.mk.injEq] at layout
      obtain ⟨rfl, rfl, rfl, -⟩ := layout
      have fullLength : fraction.length = fracDigits / digPerDec1 + 1 := by
        rw [lengthEq, if_neg grow.2]
      have nonempty : fraction ≠ [] := List.ne_nil_of_length_pos (by omega)
      have lastIndex : fracDigits / digPerDec1 = fraction.length - 1 := by
        rw [fullLength, Nat.add_sub_cancel]
      have formatDigits : scale % digPerDec1 ≠ 0 := by
        intro none
        have larger := grow.1
        rw [same, none, show dig2bytes 0 = 0 from rfl] at larger
        omega
      have cut : widenFrac (dig2bytes (scale % digPerDec1))
          (if fracDigits / digPerDec1 < scale / digPerDec1 then digPerDec1 else scale % digPerDec1)
          digPerDec1 (scale % digPerDec1) = scale % digPerDec1 := by
        rw [if_neg (by rw [same]; exact Nat.lt_irrefl _)]
        exact widenFrac_eq _ _ _ _ le_rfl (Nat.le_add_right _ _) fun count low high => by omega
      rw [if_neg (Nat.lt_irrefl _), List.append_nil, lastFracGroup, if_pos formatDigits]
      dsimp only
      rw [cut, groupBytes_fracGroups_last _ _ small (by rw [fullLength, same]) nonempty, lastIndex,
        List.take_append_of_le_length (Nat.sub_le _ _), ← List.dropLast_eq_take,
        headD_drop_getLast _ _ nonempty, flatten_map_storeMasked, storeMasked_eq, powers10,
        List.map_append]
    · -- the last word ends before the format's last group: write it whole, then pad
      rw [if_neg same, Prod.mk.injEq, Prod.mk.injEq, Prod.mk.injEq] at layout
      obtain ⟨rfl, rfl, rfl, -⟩ := layout
      have fullLength : fraction.length = fracDigits / digPerDec1 + 1 := by
        rw [lengthEq, if_neg grow.2]
      have fewer : fraction.length ≤ scale / digPerDec1 := by
        have before : fracDigits / digPerDec1 < scale / digPerDec1 :=
          Nat.lt_of_le_of_ne wordsLe (Ne.symm same)
        omega
      rw [List.take_left' fullLength, lastFracGroup, if_neg (not_not.mpr rfl), List.append_nil,
        if_pos grow.1, List.length_nil, Nat.add_zero, length_flatten_map_storeMasked,
        groupBytes_fracGroups_words _ _ small fewer, List.map_append, List.map_replicate,
        flatten_map_storeMasked]
      congr 2
      omega
  · rw [if_neg grow, Prod.mk.injEq, Prod.mk.injEq, Prod.mk.injEq] at layout
    obtain ⟨rfl, rfl, rfl, -⟩ := layout
    by_cases whole : fracDigits % digPerDec1 = 0
    · -- the fraction is whole words: write them, then pad
      have wordsLength : fraction.length = fracDigits / digPerDec1 := by
        rw [lengthEq, if_pos whole, Nat.add_zero]
      have fewer : fraction.length ≤ scale / digPerDec1 := wordsLength ▸ wordsLe
      have padding : (if fracDigits / digPerDec1 * 4 + dig2bytes (fracDigits % digPerDec1) <
            scale / digPerDec1 * 4 + dig2bytes (scale % digPerDec1) then
          List.replicate (min (scale / digPerDec1 * 4 + dig2bytes (scale % digPerDec1) -
              (fracDigits / digPerDec1 * 4 + dig2bytes (fracDigits % digPerDec1)))
            (scale / digPerDec1 * 4 + dig2bytes (scale % digPerDec1) - (4 * fraction.length + 0)))
            (maskByte mask 0)
          else []) = List.replicate (scale / digPerDec1 * 4 + dig2bytes (scale % digPerDec1) -
            4 * fraction.length) (maskByte mask 0) := by
        rw [whole, show dig2bytes 0 = 0 from rfl, ← wordsLength]
        split_ifs with less
        · congr 1
          omega
        · rw [show scale / digPerDec1 * 4 + dig2bytes (scale % digPerDec1) -
            4 * fraction.length = 0 by omega]
          rfl
      rw [List.take_left' wordsLength, lastFracGroup, if_neg (not_not.mpr whole),
        List.append_nil, length_flatten_map_storeMasked, List.length_nil, padding,
        groupBytes_fracGroups_words _ _ small fewer, List.map_append, List.map_replicate,
        flatten_map_storeMasked]
    · -- the last word is cut, and its group already takes as many bytes as the format's
      have equalSize : fracDigits / digPerDec1 * 4 + dig2bytes (fracDigits % digPerDec1) =
          scale / digPerDec1 * 4 + dig2bytes (scale % digPerDec1) :=
        le_antisymm (fracSize_le fits) (Nat.le_of_not_lt fun less => grow ⟨less, whole⟩)
      have fullLength : fraction.length = fracDigits / digPerDec1 + 1 := by
        rw [lengthEq, if_neg whole]
      have nonempty : fraction ≠ [] := List.ne_nil_of_length_pos (by omega)
      have lastIndex : fracDigits / digPerDec1 = fraction.length - 1 := by
        rw [fullLength, Nat.add_sub_cancel]
      rw [if_neg (by rw [equalSize]; exact Nat.lt_irrefl _), List.append_nil, lastFracGroup,
        if_pos whole]
      dsimp only
      rcases Nat.lt_or_eq_of_le wordsLe with before | same
      · -- one word short of the format's whole words, which end the format: the last word is
        -- written whole
        have lastBytes : dig2bytes (fracDigits % digPerDec1) = 4 ∧ scale % digPerDec1 = 0 := by
          have formatShort := dig2bytes_le_dig2bytes (Nat.le_of_lt scaleShort) le_rfl
          have noBytes : dig2bytes (scale % digPerDec1) = 0 := by
            change dig2bytes (scale % digPerDec1) ≤ 4 at formatShort
            unfold digPerDec1 at *; omega
          refine ⟨?_, dig2bytes_eq_zero (Nat.le_of_lt scaleShort) noBytes⟩
          unfold digPerDec1 at *; omega
        have widen : widenFrac (dig2bytes (fracDigits % digPerDec1))
            (if fracDigits / digPerDec1 < scale / digPerDec1 then digPerDec1 else scale % digPerDec1)
            digPerDec1 (fracDigits % digPerDec1) = digPerDec1 := by
          rw [if_pos before]
          refine widenFrac_eq _ _ _ _ (Nat.le_of_lt fracShort) (Nat.le_add_left _ _)
            fun count low high => le_antisymm ?_ ?_
          · exact lastBytes.1 ▸ dig2bytes_le_dig2bytes (Nat.le_of_lt high) le_rfl
          · exact dig2bytes_le_dig2bytes low (Nat.le_of_lt high)
        have fewer : fraction.length ≤ scale / digPerDec1 := by
          unfold digPerDec1 at *; omega
        have split : ((fraction.map (storeMasked mask 4)).flatten) =
            (fraction.dropLast.map (storeMasked mask 4)).flatten ++
              storeMasked mask 4 (fraction.getLast nonempty) := by
          conv_lhs => rw [← List.dropLast_append_getLast nonempty]
          rw [List.map_append, List.flatten_append, List.map_singleton, List.flatten_singleton]
        rw [widen, Nat.sub_self, powers10, Nat.pow_zero, Nat.div_one, lastBytes.1, lastIndex,
          List.take_append_of_le_length (Nat.sub_le _ _), ← List.dropLast_eq_take,
          headD_drop_getLast _ _ nonempty, ← split, groupBytes_fracGroups_words _ _ small fewer,
          show scale / digPerDec1 * 4 + dig2bytes (scale % digPerDec1) - 4 * fraction.length = 0 by
            unfold digPerDec1 at *; omega,
          List.replicate_zero, List.append_nil, flatten_map_storeMasked]
      · -- the format's last group: the last word is cut to the format's digits
        have sameBytes : dig2bytes (fracDigits % digPerDec1) = dig2bytes (scale % digPerDec1) := by
          rw [same] at equalSize; omega
        have digitsLe := sameWords same
        have widen : widenFrac (dig2bytes (fracDigits % digPerDec1))
            (if fracDigits / digPerDec1 < scale / digPerDec1 then digPerDec1 else scale % digPerDec1)
            digPerDec1 (fracDigits % digPerDec1) = scale % digPerDec1 := by
          rw [if_neg (by rw [same]; exact Nat.lt_irrefl _)]
          refine widenFrac_eq _ _ _ _ digitsLe (by unfold digPerDec1 at *; omega)
            fun count low high => le_antisymm ?_ ?_
          · exact sameBytes ▸ dig2bytes_le_dig2bytes (Nat.le_of_lt high) (Nat.le_of_lt scaleShort)
          · exact dig2bytes_le_dig2bytes low (by unfold digPerDec1 at *; omega)
        rw [widen, sameBytes, groupBytes_fracGroups_last _ _ small (by rw [fullLength, same])
          nonempty, lastIndex, List.take_append_of_le_length (Nat.sub_le _ _),
          ← List.dropLast_eq_take, headD_drop_getLast _ _ nonempty, flatten_map_storeMasked,
          storeMasked_eq, powers10, List.map_append]

/-! ### `decimal2bin` writes the format's image -/

/-- `decimal2bin` on a well-formed decimal that fits the format writes the format's image of the
number scaled to the format's digits. -/
theorem decimal2bin_eq_binImage {d : DecimalT} {precision scale : ℕ} (wellFormed : WellFormed d)
    (fits : intPart d < 10 ^ (precision - scale)) (fracFits : d.frac ≤ scale) :
    decimal2bin d precision scale =
      (binImage (binGroups precision scale) d.sign (storedNumber d scale), .ok) := by
  have present := wellFormed.words_present
  obtain ⟨rest, selection⟩ := decimal2bin_words wellFormed
  obtain ⟨lead, words, tailSplit, wordsLength, leadLength, leadSmall⟩ := intTail_layout wellFormed
  have wordsSmall : ∀ word ∈ words, word < digBase := fun word member =>
    wellFormed.word_lt word (tail_mem_usedWords (List.mem_append_left _
      (tailSplit ▸ List.mem_append_right _ member)))
  have digitsFit := (Nat.digits_length_le_iff (by norm_num) _).mpr fits
  have intBelow : intPart d < 10 ^ (Nat.digits 10 (intPart d)).length :=
    Nat.lt_base_pow_length_digits (by norm_num)
  have intBytes := groupBytes_intGroups_widen _ _ _ digitsFit intBelow
  have intSplit := groupBytes_intGroups_split _ lead words wordsLength leadLength leadSmall
    wordsSmall
  rw [← tailSplit, ← intPart_eq_value_intTail] at intSplit
  rw [intSplit] at intBytes
  simp only [decimal2bin, removeLeadingZeroes_eq wellFormed, sub_div_mul]
  rw [selection, tailSplit]
  generalize (Nat.digits 10 (intPart d)).length = k at *
  have fracSizeFits := fracSize_le fracFits
  simp only [show ¬ (precision - scale < k) by omega, decide_false, Bool.false_eq_true, if_false,
    show ¬ (scale / digPerDec1 * 4 + dig2bytes (scale % digPerDec1) <
      d.frac / digPerDec1 * 4 + dig2bytes (d.frac % digPerDec1)) by omega]
  -- the integer part: the leading group, then the whole integer words
  have leadBytes : (if k % digPerDec1 ≠ 0 then storeMasked d.sign (dig2bytes (k % digPerDec1))
      ((lead ++ words ++ (fracPart d ++ rest)).headD 0 % powers10 (k % digPerDec1)) else []) =
      (lead.map (storeMasked d.sign (dig2bytes (k % digPerDec1)))).flatten := by
    match lead, leadLength, leadSmall with
    | [], leadLength, _ =>
      have noLead : ¬ k % digPerDec1 ≠ 0 := fun partial' => by
        rw [if_neg partial'] at leadLength; exact absurd leadLength (by simp)
      rw [if_neg noLead]
      rfl
    | [word], leadLength, leadSmall =>
      have partial' : k % digPerDec1 ≠ 0 := fun whole => by
        rw [if_pos whole] at leadLength; exact absurd leadLength (by simp)
      rw [if_pos partial', List.singleton_append, List.cons_append, List.headD_cons, powers10,
        Nat.mod_eq_of_lt (leadSmall word List.mem_cons_self), List.map_singleton,
        List.flatten_singleton]
    | _ :: _ :: _, leadLength, _ =>
      rw [List.length_cons, List.length_cons] at leadLength
      exact absurd leadLength (by split <;> omega)
  have afterLead : (if k % digPerDec1 ≠ 0 then List.drop 1 (lead ++ words ++ (fracPart d ++ rest))
      else lead ++ words ++ (fracPart d ++ rest)) = words ++ (fracPart d ++ rest) := by
    match lead, leadLength with
    | [], leadLength =>
      have noLead : ¬ k % digPerDec1 ≠ 0 := fun partial' => by
        rw [if_neg partial'] at leadLength; exact absurd leadLength (by simp)
      rw [if_neg noLead, List.nil_append]
    | [word], leadLength =>
      have partial' : k % digPerDec1 ≠ 0 := fun whole => by
        rw [if_pos whole] at leadLength; exact absurd leadLength (by simp)
      rw [if_pos partial', List.singleton_append, List.cons_append, List.drop_one, List.tail_cons]
    | _ :: _ :: _, leadLength =>
      rw [List.length_cons, List.length_cons] at leadLength
      exact absurd leadLength (by split <;> omega)
  rw [leadBytes, afterLead, ← wordsLength, List.take_length_add_append,
    List.drop_length_add_append, List.map_append, List.flatten_append]
  -- the integer bytes are the format's integer groups
  have intWritten : List.replicate ((precision - scale) / digPerDec1 * 4 +
        dig2bytes ((precision - scale) % digPerDec1) - (words.length * 4 + dig2bytes (k % digPerDec1)))
        (maskByte d.sign 0) ++ (lead.map (storeMasked d.sign (dig2bytes (k % digPerDec1)))).flatten ++
        (words.map (storeMasked d.sign 4)).flatten =
      (groupBytes (intGroups (precision - scale)) (intPart d)).map (maskByte d.sign) := by
    rw [intBytes, List.map_append, List.map_append, List.map_replicate, flatten_map_storeMasked,
      flatten_map_storeMasked, intSize, intSize, wordsLength, List.append_assoc]
  rw [← List.append_assoc (List.replicate _ _ ++ _), intWritten]
  -- the fraction bytes are the format's fraction groups
  generalize layout : (if d.frac / digPerDec1 * 4 + dig2bytes (d.frac % digPerDec1) <
        scale / digPerDec1 * 4 + dig2bytes (scale % digPerDec1) ∧ d.frac % digPerDec1 ≠ 0 then
      if scale / digPerDec1 = d.frac / digPerDec1 then
        (d.frac / digPerDec1, scale % digPerDec1,
          d.frac / digPerDec1 * 4 + dig2bytes (d.frac % digPerDec1), DecimalError.ok)
      else (d.frac / digPerDec1 + 1, 0, scale / digPerDec1 * 4 + dig2bytes (scale % digPerDec1),
        DecimalError.ok)
    else (d.frac / digPerDec1, d.frac % digPerDec1,
      scale / digPerDec1 * 4 + dig2bytes (scale % digPerDec1), DecimalError.ok)) = sizes
  obtain ⟨frac1, frac1x, fsize0', error⟩ := sizes
  have noError : error = .ok := by
    split_ifs at layout <;> simp only [Prod.mk.injEq] at layout <;> exact layout.2.2.2.symm
  have fracBytes := decimal2bin_fraction d.sign (fracPart d) rest d.frac scale
    (fun word member => wellFormed.word_lt word (tail_mem_usedWords (List.mem_append_right _ member)))
    (length_fracPart present) fracFits frac1 frac1x fsize0' error layout
  dsimp only
  have writtenLength : ∀ whole last : List ℕ,
      ((groupBytes (intGroups (precision - scale)) (intPart d)).map (maskByte d.sign) ++ whole ++
        last).length = intSize (precision - scale) + (whole.length + last.length) := by
    intro whole last
    rw [List.length_append, List.length_append, List.length_map, length_groupBytes_intGroups,
      Nat.add_assoc]
  rw [writtenLength, intSize, Nat.add_sub_add_left, List.append_assoc (List.map _ _),
    List.append_assoc (List.map _ _), fracBytes, noError, binImage, binGroups_eq, groupBytes_append, sum_fracGroups,
    (storedNumber_div_mod scale wellFormed fracFits).1,
    (storedNumber_div_mod scale wellFormed fracFits).2, List.map_append]

end MariaDB.Decimal
