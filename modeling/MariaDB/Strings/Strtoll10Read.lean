/-
The value `my_strtoll10` reads from a string of known length.

The code reads the digits in groups, but what it returns is simple to state: the whole run of
digits after the spaces and the sign is read, and the value is returned when it is at most the
limit of the sign (`ULONGLONG_MAX`, or `2 ^ 63` after a minus), with `*endptr` just past the
run; past the limit the answer is `ERANGE`. The groups are taken apart by the length of the run
(`readDigitGroups_eq`), and the zeros in front add nothing (`readNumber_of_le`). On a string of
known length the error is `0` exactly for spaces, an optional plus sign and a run of digits
within `ULONGLONG_MAX` (`myStrtoll10_ok_iff`).
-/

import MariaDB.Strings.Strtoll10

namespace MariaDB.Strings

open DecimalText (isDigit digitsValue digitsValue_append digitsValue_eq_add digitsValue_lt)
open Sql (toLonglong ulonglongMax)
open Temporal (myIsspace)

/-! ### The run of digits -/

/-- The number of digits from position `i` on, below `stop`. -/
def runLength (str : List ℕ) (i stop : ℕ) : ℕ :=
  if i < stop ∧ isDigit (str.getD i 0) = true then runLength str (i + 1) stop + 1 else 0
termination_by stop - i

section Run

variable {str : List ℕ} {i stop : ℕ}

theorem runLength_of_digit (below : i < stop) (digit : isDigit (str.getD i 0) = true) :
    runLength str i stop = runLength str (i + 1) stop + 1 := by
  rw [runLength, if_pos ⟨below, digit⟩]

theorem runLength_of_not (stops : ¬ (i < stop ∧ isDigit (str.getD i 0) = true)) :
    runLength str i stop = 0 := by
  rw [runLength, if_neg stops]

/-- A digit stands at a position of the string. -/
theorem lt_length_of_isDigit {p : ℕ} (digit : isDigit (str.getD p 0) = true) : p < str.length := by
  by_contra past
  rw [List.getD_eq_default _ _ (by omega)] at digit
  cases digit

/-- The positions of the run hold digits, below `stop` and in the string. -/
theorem isDigit_of_lt_runLength {k : ℕ} (inRun : k < runLength str i stop) :
    i + k < stop ∧ isDigit (str.getD (i + k) 0) = true := by
  induction i using runLength.induct str stop generalizing k with
  | case1 i digitHere inductionHypothesis =>
    rw [runLength_of_digit digitHere.1 digitHere.2] at inRun
    rcases k with _ | k
    · exact digitHere
    · have next := @inductionHypothesis k (by omega)
      rw [Nat.add_assoc, Nat.add_comm 1 k] at next
      exact next
  | case2 i stops =>
    rw [runLength_of_not stops] at inRun
    omega

/-- The run ends at `stop` or at a byte that is not a digit. -/
theorem runLength_stops :
    i + runLength str i stop = stop ∨
      (i + runLength str i stop < stop ∧ isDigit (str.getD (i + runLength str i stop) 0) = false)
    ∨ stop < i := by
  induction i using runLength.induct str stop with
  | case1 i digitHere inductionHypothesis =>
    rw [runLength_of_digit digitHere.1 digitHere.2, ← Nat.add_assoc, Nat.add_right_comm]
    rcases inductionHypothesis with atStop | ⟨below, notDigit⟩ | past
    · exact .inl atStop
    · exact .inr (.inl ⟨below, notDigit⟩)
    · omega
  | case2 i stops =>
    rw [runLength_of_not stops, Nat.add_zero]
    by_cases below : i < stop
    · simp only [below, true_and, Bool.not_eq_true] at stops
      exact .inr (.inl ⟨below, stops⟩)
    · omega

theorem runLength_le : runLength str i stop ≤ stop - i := by
  induction i using runLength.induct str stop with
  | case1 i digitHere inductionHypothesis =>
    rw [runLength_of_digit digitHere.1 digitHere.2]
    omega
  | case2 i stops =>
    rw [runLength_of_not stops]
    omega

theorem runLength_le_length : runLength str i stop ≤ str.length - i := by
  rcases Nat.eq_zero_or_pos (runLength str i stop) with none | some
  · omega
  · have last := @isDigit_of_lt_runLength str i stop (runLength str i stop - 1) (by omega)
    have := lt_length_of_isDigit last.2
    omega

/-- After `k` digits of the run, the rest of it. -/
theorem runLength_add {k : ℕ} (inRun : k ≤ runLength str i stop) :
    runLength str (i + k) stop = runLength str i stop - k := by
  induction k with
  | zero => rfl
  | succ k inductionHypothesis =>
    have digit := @isDigit_of_lt_runLength str i stop k (by omega)
    have step := runLength_of_digit digit.1 digit.2
    rw [inductionHypothesis (by omega)] at step
    rw [← Nat.add_assoc]
    omega

/-- The run below an earlier limit is cut there. -/
theorem runLength_min (limit : ℕ) :
    runLength str i (min limit stop) = min (runLength str i stop) (limit - i) := by
  induction i using runLength.induct str stop with
  | case1 i digitHere inductionHypothesis =>
    rw [runLength_of_digit digitHere.1 digitHere.2]
    by_cases early : i < limit
    · rw [runLength_of_digit (by omega) digitHere.2, inductionHypothesis]
      omega
    · rw [runLength_of_not (by omega)]
      omega
  | case2 i stops =>
    rw [runLength_of_not stops,
      runLength_of_not (And.elim fun below digit => stops ⟨by omega, digit⟩)]
    omega

end Run

/-- The loop reads the run of digits below its limit onto `v`, and says whether a byte that is
not a digit stopped it. -/
theorem digitLoop_eq (str : List ℕ) (i stop v : ℕ) :
    digitLoop str i stop v =
      (i + runLength str i stop, digitsValue v ((str.drop i).take (runLength str i stop)),
        decide (i + runLength str i stop < stop)) := by
  fun_induction digitLoop str i stop v with
  | case1 i v below digit inductionHypothesis =>
    rw [inductionHypothesis, runLength_of_digit below digit,
      List.drop_eq_getElem_cons (lt_length_of_isDigit digit), List.take_succ_cons,
      ← List.getD_eq_getElem _ 0 (lt_length_of_isDigit digit)]
    simp only [digitsValue, List.foldl_cons]
    refine Prod.ext (by omega) (Prod.ext rfl ?_)
    simp only [Nat.add_assoc, Nat.add_comm 1]
  | case2 i v below notDigit =>
    rw [runLength_of_not (And.elim fun _ digit => notDigit digit)]
    simp [below, digitsValue]
  | case3 i v past =>
    rw [runLength_of_not (And.elim fun below _ => past below)]
    simp [past, digitsValue]

/-! ### The value of a run -/

section Value

variable {str : List ℕ} {f stop n : ℕ}

/-- A byte of the `n` bytes from position `f`. -/
theorem exists_getD_of_mem {c : ℕ} (member : c ∈ (str.drop f).take n) :
    ∃ k < n, str.getD (f + k) 0 = c := by
  obtain ⟨k, below, rfl⟩ := List.getElem_of_mem member
  simp only [List.length_take, List.length_drop] at below
  refine ⟨k, by omega, ?_⟩
  rw [List.getD_eq_getElem _ _ (by omega)]
  simp [List.getElem_take, List.getElem_drop]

theorem isDigit_of_mem_run (inRun : n ≤ runLength str f stop) :
    ∀ c ∈ (str.drop f).take n, isDigit c = true := by
  intro c member
  obtain ⟨k, below, rfl⟩ := exists_getD_of_mem member
  exact (@isDigit_of_lt_runLength str f stop k (by omega)).2

theorem length_run (inRun : n ≤ runLength str f stop) : ((str.drop f).take n).length = n := by
  have inString := @runLength_le_length str f stop
  simp only [List.length_take, List.length_drop]
  omega

theorem runValue_lt (inRun : n ≤ runLength str f stop) :
    digitsValue 0 ((str.drop f).take n) < 10 ^ n := by
  have bound := digitsValue_lt (isDigit_of_mem_run inRun)
  rwa [length_run inRun] at bound

/-- A run read in two parts. -/
theorem runValue_add {a b : ℕ} (inRun : a + b ≤ runLength str f stop) :
    digitsValue 0 ((str.drop f).take (a + b)) =
      digitsValue 0 ((str.drop f).take a) * 10 ^ b + digitsValue 0 ((str.drop (f + a)).take b) := by
  have rest : ((str.drop (f + a)).take b).length = b := by
    have tail := @runLength_add str f stop a (by omega)
    exact @length_run str (f + a) stop b (by omega)
  rw [List.take_add, digitsValue_append, digitsValue_eq_add, List.drop_drop, rest]

theorem take_drop_succ (inString : f < str.length) :
    (str.drop f).take (n + 1) = str.getD f 0 :: (str.drop (f + 1)).take n := by
  rw [List.drop_eq_getElem_cons inString, List.take_succ_cons, List.getD_eq_getElem _ _ inString]

end Value

/-- The largest number `my_strtoll10` returns with the sign: `ULONGLONG_MAX`, or `2 ^ 63` after a
minus. -/
def numberLimit (negative : Bool) : ℕ := if negative then maxNegativeNumber else ulonglongMax

/-- The limit read in the three groups: a twenty-digit number is past it when its groups are,
compared from the first. -/
theorem cutoffs_lt_iff (negative : Bool) {i j k : ℕ} (smallJ : j < 10 ^ 9) (smallK : k < 100) :
    ((cutoffs negative).1 < i ∨ (i = (cutoffs negative).1 ∧ ((cutoffs negative).2.1 < j ∨
      (j = (cutoffs negative).2.1 ∧ (cutoffs negative).2.2 < k)))) ↔
      numberLimit negative < i * 10 ^ 11 + j * 100 + k := by
  cases negative <;>
    simp only [cutoffs, numberLimit, lfactor2, maxNegativeNumber, ulonglongMax] <;> omega

/-- Twenty digits that do not start with `0` are past the limit after a minus. -/
theorem maxNegativeNumber_lt_twenty {i j k : ℕ} (largeI : 10 ^ 8 ≤ i) :
    maxNegativeNumber < (i * 10 ^ 9 + j) * 10 ^ 2 + k :=
  calc maxNegativeNumber < 10 ^ 8 * 10 ^ 11 := by decide
    _ ≤ i * 10 ^ 11 := Nat.mul_le_mul_right _ largeI
    _ ≤ (i * 10 ^ 9 + j) * 10 ^ 2 + k := by ring_nf; omega

section Groups

variable {str : List ℕ} {stop : ℕ} (negative : Bool) (error : ℤ)

/-- The last two digits of a number of nineteen digits or more, after the groups `i` and `j`. -/
theorem readLastDigits_eq {s i j : ℕ} (digit : s < stop ∧ isDigit (str.getD s 0) = true)
    (largeI : 10 ^ 8 ≤ i) (smallI : i < 10 ^ 9) (smallJ : j < 10 ^ 9) :
    readLastDigits str s stop i j negative error =
      if runLength str s stop ≤ 2 ∧ (i * 10 ^ 9 + j) * 10 ^ min (runLength str s stop) 2 +
          digitsValue 0 ((str.drop s).take (min (runLength str s stop) 2)) ≤ numberLimit negative
      then (signedValue negative ((i * 10 ^ 9 + j) * 10 ^ min (runLength str s stop) 2 +
          digitsValue 0 ((str.drop s).take (min (runLength str s stop) 2))),
        s + runLength str s stop, error)
      else overflowResult negative (s + min (runLength str s stop) 2) := by
  have inString := lt_length_of_isDigit digit.2
  have run := runLength_of_digit digit.1 digit.2
  have firstDigit : digitsValue 0 ((str.drop s).take 1) = str.getD s 0 - 0x30 := by
    rw [take_drop_succ inString, List.take_zero]
    simp [digitsValue]
  rw [readLastDigits]
  dsimp only
  by_cases one : s + 1 = stop ∨ isDigit (str.getD (s + 1) 0) = false
  · -- one digit: nineteen in all, `end4`
    have single : runLength str s stop = 1 := by
      rw [run, runLength_of_not (by rcases one with atStop | notDigit <;> simp_all)]
    rw [if_pos one, single]
    have least : min 1 2 = 1 := rfl
    simp only [Nat.one_le_ofNat, true_and]
    rw [least, pow_one, firstDigit]
    have below : (i * 10 ^ 9 + j) * 10 + (str.getD s 0 - 0x30) < 10 ^ 19 := by
      simp only [isDigit, Bool.and_eq_true, decide_eq_true_eq] at digit
      omega
    have value : i * lfactor1 + j * 10 + (str.getD s 0 - 0x30) =
        (i * 10 ^ 9 + j) * 10 + (str.getD s 0 - 0x30) := by
      simp only [lfactor1]
      omega
    rw [value]
    cases negative
    · simp only [numberLimit, ulonglongMax, Bool.false_eq_true, false_and, if_false]
      rw [if_pos (by omega)]
    · simp only [numberLimit, if_true, true_and]
      by_cases past : maxNegativeNumber < (i * 10 ^ 9 + j) * 10 + (str.getD s 0 - 0x30)
      · rw [if_pos past, if_neg (by omega)]
      · rw [if_neg past, if_pos (by omega)]
  · -- two digits or more
    have second : s + 1 < stop ∧ isDigit (str.getD (s + 1) 0) = true := by
      simp only [not_or, Bool.not_eq_false] at one
      exact ⟨by have := digit.1; omega, one.2⟩
    have run2 := runLength_of_digit second.1 second.2
    have twoDigits : digitsValue 0 ((str.drop s).take 2) =
        (str.getD s 0 - 0x30) * 10 + (str.getD (s + 1) 0 - 0x30) := by
      rw [take_drop_succ inString, take_drop_succ (lt_length_of_isDigit second.2), List.take_zero]
      simp [digitsValue]
    have least : min (runLength str s stop) 2 = 2 := by omega
    have smallK : (str.getD s 0 - 0x30) * 10 + (str.getD (s + 1) 0 - 0x30) < 100 := by
      have first := digit.2
      have next := second.2
      simp only [isDigit, Bool.and_eq_true, decide_eq_true_eq] at first next
      omega
    rw [if_neg one, least, twoDigits]
    rcases limits : cutoffs negative with ⟨cutoff, cutoff2, cutoff3⟩
    have lex := cutoffs_lt_iff negative (i := i) smallJ smallK
    have grouped : i * 10 ^ 11 + j * 100 + ((str.getD s 0 - 0x30) * 10 +
        (str.getD (s + 1) 0 - 0x30)) = (i * 10 ^ 9 + j) * 10 ^ 2 +
        ((str.getD s 0 - 0x30) * 10 + (str.getD (s + 1) 0 - 0x30)) := by ring
    rw [limits, grouped] at lex
    dsimp only
    by_cases more : s + 1 + 1 ≠ stop ∧ isDigit (str.getD (s + 1 + 1) 0) = true
    · -- a twenty-first digit
      have long : ¬ runLength str s stop ≤ 2 := by
        rw [run, run2, runLength_of_digit (by omega) more.2]
        omega
      rw [if_pos more, if_neg (And.elim fun short _ => long short)]
    · -- twenty digits, compared with the limit group by group
      have twenty : runLength str s stop = 2 := by
        rw [run, run2,
          runLength_of_not (And.elim fun below nextDigit => more ⟨by omega, nextDigit⟩)]
      have value : i * lfactor2 + j * 100 + ((str.getD s 0 - 0x30) * 10 +
          (str.getD (s + 1) 0 - 0x30)) = (i * 10 ^ 9 + j) * 10 ^ 2 +
          ((str.getD s 0 - 0x30) * 10 + (str.getD (s + 1) 0 - 0x30)) := by
        simp only [lfactor2]
        ring
      rw [if_neg more, twenty, value]
      by_cases past : numberLimit negative < (i * 10 ^ 9 + j) * 10 ^ 2 +
          ((str.getD s 0 - 0x30) * 10 + (str.getD (s + 1) 0 - 0x30))
      · rw [if_pos (lex.mpr past), if_neg (And.elim fun _ within => Nat.lt_irrefl _
          (Nat.lt_of_lt_of_le past within))]
      · rw [if_neg (mt lex.mp past), if_pos ⟨le_refl 2, Nat.le_of_not_lt past⟩]
        -- after a minus twenty digits are always past the limit
        cases negative
        · simp only [signedValue, Bool.false_eq_true, if_false]
        · exact absurd (maxNegativeNumber_lt_twenty largeI) past

/-- The value of a run below the limit of either sign. -/
theorem le_numberLimit_of_lt {v n : ℕ} (small : v < 10 ^ n) (short : n ≤ 18) :
    v ≤ numberLimit negative := by
  have bound : 10 ^ n ≤ 10 ^ 18 := Nat.pow_le_pow_right (by decide) short
  cases negative <;>
    simp only [numberLimit, maxNegativeNumber, ulonglongMax, Bool.false_eq_true, ↓reduceIte] <;>
    omega

/-- `my_strtoll10` from the first digit that is not `0`: the whole run is read, and its value is
returned up to the limit of the sign. -/
theorem readDigitGroups_eq {f : ℕ} (below : f < stop) (leading : str.getD f 0 ≠ 0x30) :
    readDigitGroups str f (min (f + initCnt) stop) 0 stop negative error =
      if runLength str f stop ≤ 20 ∧
          digitsValue 0 ((str.drop f).take (runLength str f stop)) ≤ numberLimit negative
      then (signedValue negative (digitsValue 0 ((str.drop f).take (runLength str f stop))),
        f + runLength str f stop, error)
      else overflowResult negative (f + min (runLength str f stop) 20) := by
  have inStop := @runLength_le str f stop
  have first := digitLoop_eq str f (min (f + initCnt) stop) 0
  have nine : f + initCnt - f = 9 := Nat.add_sub_cancel_left _ _
  rw [runLength_min, nine] at first
  rw [readDigitGroups, first]
  dsimp only
  rcases Nat.lt_or_ge (runLength str f stop) 9 with short | long
  · -- fewer than nine digits: `end_i`
    have small := runValue_lt (le_refl (runLength str f stop))
    have ended : decide (f + runLength str f stop < min (f + initCnt) stop) = true ∨
        f + runLength str f stop = stop := by
      by_cases atStop : f + runLength str f stop = stop
      · exact .inr atStop
      · refine .inl (decide_eq_true ?_)
        simp only [initCnt]
        omega
    rw [min_eq_left short.le, if_pos ended,
      if_pos ⟨by omega, le_numberLimit_of_lt negative small (by omega)⟩]
  rw [min_eq_right long]
  have firstGroup := @runValue_lt str f stop 9 long
  by_cases atStop : f + 9 = stop
  · -- nine digits that end the string
    have nineDigits : runLength str f stop = 9 := by omega
    rw [if_pos (.inr atStop), nineDigits,
      if_pos ⟨by omega, le_numberLimit_of_lt negative firstGroup (by omega)⟩]
  -- the second group, up to nine more digits
  have notEnded : ¬ (decide (f + 9 < min (f + initCnt) stop) = true ∨ f + 9 = stop) := by
    rintro (early | atEnd)
    · have early := of_decide_eq_true early
      simp only [initCnt] at early
      omega
    · exact atStop atEnd
  have second := digitLoop_eq str (f + 9) (min (f + 9 + initCnt) stop) 0
  have rest := @runLength_add str f stop 9 long
  have nine' : f + 9 + initCnt - (f + 9) = 9 := Nat.add_sub_cancel_left _ _
  rw [runLength_min, nine', rest] at second
  rw [if_neg notEnded, second]
  dsimp only
  rcases Nat.lt_or_ge (runLength str f stop) 18 with middle | longer
  · -- ten to seventeen digits: `end_i_and_j`
    have ended : decide (f + 9 + (runLength str f stop - 9) < min (f + 9 + initCnt) stop) = true ∨
        (f + 9 + (runLength str f stop - 9) = stop ∧
          f + 9 + (runLength str f stop - 9) ≠ f + 9 + initCnt) := by
      by_cases atEnd : f + runLength str f stop = stop
      · refine .inr ⟨by omega, ?_⟩
        simp only [initCnt]
        omega
      · refine .inl (decide_eq_true ?_)
        simp only [initCnt]
        omega
    have split := @runValue_add str f stop 9 (runLength str f stop - 9) (by omega)
    have whole : 9 + (runLength str f stop - 9) = runLength str f stop := by omega
    have finish : f + 9 + (runLength str f stop - 9) = f + runLength str f stop := by omega
    rw [whole] at split
    rw [min_eq_left (by omega : runLength str f stop - 9 ≤ 9), if_pos ended, Nat.add_sub_cancel_left,
      lfactor, ← split, finish,
      if_pos ⟨by omega, le_numberLimit_of_lt negative (runValue_lt le_rfl) (by omega)⟩]
  rw [min_eq_right (by omega : 9 ≤ runLength str f stop - 9)]
  have notEnded2 : ¬ (decide (f + 9 + 9 < min (f + 9 + initCnt) stop) = true ∨
      (f + 9 + 9 = stop ∧ f + 9 + 9 ≠ f + 9 + initCnt)) := by
    rintro (early | ⟨_, differ⟩)
    · have early := of_decide_eq_true early
      simp only [initCnt] at early
      omega
    · exact differ rfl
  rw [if_neg notEnded2]
  have split := @runValue_add str f stop 9 9 (by omega)
  have values : digitsValue 0 (List.take 9 (List.drop f str)) * lfactorBig +
      digitsValue 0 (List.take 9 (List.drop (f + 9) str)) =
      digitsValue 0 (List.take 18 (List.drop f str)) := by
    rw [lfactorBig, split]
    rfl
  rcases Nat.lt_or_ge (runLength str f stop) 19 with eighteen | nineteen
  · -- eighteen digits: `end3`
    have exactly : runLength str f stop = 18 := by omega
    have ends : f + 9 + 9 = stop ∨ isDigit (str.getD (f + 9 + 9) 0) = false := by
      rcases @runLength_stops str f stop with atEnd | ⟨_, notDigit⟩ | past
      · exact .inl (by omega)
      · rw [exactly] at notDigit
        exact .inr notDigit
      · omega
    rw [if_pos ends, values, exactly,
      if_pos ⟨by omega, le_numberLimit_of_lt negative (runValue_lt (by omega)) (by omega)⟩]
  · -- nineteen digits or more: the last two
    have digit := @isDigit_of_lt_runLength str f stop 18 (by omega)
    have notEnds : ¬ (f + 9 + 9 = stop ∨ isDigit (str.getD (f + 9 + 9) 0) = false) := by
      rintro (atEnd | notDigit)
      · omega
      · rw [digit.2] at notDigit
        cases notDigit
    have smallJ := @runValue_lt str (f + 9) stop 9 (by omega)
    have leadingDigit : 0x31 ≤ str.getD f 0 := by
      have first := (@isDigit_of_lt_runLength str f stop 0 (by omega)).2
      simp only [Nat.add_zero, isDigit, Bool.and_eq_true, decide_eq_true_eq] at first
      omega
    have largeI : 10 ^ 8 ≤ digitsValue 0 (List.take 9 (List.drop f str)) := by
      have inString := lt_length_of_isDigit digit.2
      have tail := @runLength_add str f stop 1 (by omega)
      have atLeast := DecimalText.pow_le_digitsValue ((str.drop (f + 1)).take 8) leadingDigit
      rwa [@length_run str (f + 1) stop 8 (by omega), ← take_drop_succ (by omega)] at atLeast
    rw [if_neg notEnds, readLastDigits_eq negative error ⟨digit.1, digit.2⟩ largeI firstGroup smallJ,
      @runLength_add str f stop 18 (by omega)]
    by_cases fits : runLength str f stop ≤ 20
    · -- nineteen or twenty digits: the value of the whole run, compared with the limit
      have whole := @runValue_add str f stop 18 (runLength str f stop - 18) (by omega)
      have length : 18 + (runLength str f stop - 18) = runLength str f stop := by omega
      have finish : f + 18 + (runLength str f stop - 18) = f + runLength str f stop := by omega
      rw [length] at whole
      rw [min_eq_left (by omega : runLength str f stop - 18 ≤ 2), ← split, ← whole, finish]
      by_cases within : digitsValue 0 ((str.drop f).take (runLength str f stop)) ≤
          numberLimit negative
      · rw [if_pos ⟨by omega, within⟩, if_pos ⟨fits, within⟩]
      · rw [if_neg (And.elim fun _ below => within below),
          if_neg (And.elim fun _ below => within below),
          min_eq_left fits]
    · -- a twenty-first digit
      have cut : f + 18 + min (runLength str f stop - 18) 2 = f + min (runLength str f stop) 20 := by
        omega
      rw [if_neg (And.elim fun short _ => by omega), if_neg (And.elim fun short _ => fits short),
        cut]

end Groups

/-! ### The zeros in front -/

section Zeros

variable {str : List ℕ} {stop : ℕ}

/-- Where the zeros after position `i` end: at `stop`, or at a byte that is not `0`. -/
theorem skipPreZeros_spec (i : ℕ) :
    match skipPreZeros str i stop with
    | none => ∀ p, i < p → p < stop → str.getD p 0 = 0x30
    | some f => i < f ∧ f < stop ∧ (∀ p, i < p → p < f → str.getD p 0 = 0x30) ∧
        str.getD f 0 ≠ 0x30 := by
  induction i using skipPreZeros.induct str stop with
  | case1 i atEnd =>
    rw [skipPreZeros, if_pos atEnd]
    intro p after before
    omega
  | case2 i below zero inductionHypothesis =>
    rw [skipPreZeros, if_neg below, if_pos zero]
    split at inductionHypothesis
    · next found =>
      intro p after before
      rcases Nat.lt_or_ge (i + 1) p with later | first
      · exact inductionHypothesis p later before
      · rw [show p = i + 1 by omega]
        exact zero
    · next f found =>
      obtain ⟨after, before, zeros, notZero⟩ := inductionHypothesis
      refine ⟨by omega, before, fun p later earlier => ?_, notZero⟩
      rcases Nat.lt_or_ge (i + 1) p with later' | first
      · exact zeros p later' earlier
      · rw [show p = i + 1 by omega]
        exact zero
  | case3 i below notZero =>
    rw [skipPreZeros, if_neg below, if_neg notZero]
    exact ⟨by omega, by omega, fun p after before => by omega, notZero⟩

/-- Zeros are digits: a run that begins with zeros goes on past them. -/
theorem runLength_of_zeros {s f : ℕ} (ordered : s ≤ f) (before : f ≤ stop)
    (zeros : ∀ p, s ≤ p → p < f → str.getD p 0 = 0x30) :
    runLength str s stop = (f - s) + runLength str f stop := by
  induction h : f - s generalizing s with
  | zero => rw [show s = f by omega, Nat.zero_add]
  | succ k inductionHypothesis =>
    have zero := zeros s (le_refl s) (by omega)
    rw [runLength_of_digit (by omega) (by rw [zero]; rfl),
      inductionHypothesis (by omega) (fun p after below => zeros p (by omega) below) (by omega)]
    omega

/-- Zeros in front add nothing to the value of a run. -/
theorem runValue_of_zeros {s f n : ℕ} (zeros : ∀ p, s ≤ p → p < f → str.getD p 0 = 0x30)
    (inRun : (f - s) + n ≤ runLength str s stop) (ordered : s ≤ f) :
    digitsValue 0 ((str.drop s).take ((f - s) + n)) = digitsValue 0 ((str.drop f).take n) := by
  have allZero : digitsValue 0 ((str.drop s).take (f - s)) = 0 := by
    refine DecimalText.digitsValue_zeros fun c member => ?_
    obtain ⟨k, below, rfl⟩ := exists_getD_of_mem member
    exact zeros (s + k) (by omega) (by omega)
  rw [runValue_add inRun, allZero, Nat.zero_mul, Nat.zero_add, Nat.add_sub_cancel' ordered]

/-- A run that starts with a digit other than `0` and stays within a limit has at most twenty
digits. -/
theorem runLength_le_twenty (negative : Bool) {f : ℕ} (leading : str.getD f 0 ≠ 0x30)
    (within : digitsValue 0 ((str.drop f).take (runLength str f stop)) ≤ numberLimit negative) :
    runLength str f stop ≤ 20 := by
  rcases Nat.eq_zero_or_pos (runLength str f stop) with none | some
  · omega
  · have digit := (@isDigit_of_lt_runLength str f stop 0 some).2
    rw [Nat.add_zero] at digit
    have inString := lt_length_of_isDigit digit
    have leadingDigit : 0x31 ≤ str.getD f 0 := by
      simp only [isDigit, Bool.and_eq_true, decide_eq_true_eq] at digit
      omega
    have tail := @runLength_add str f stop 1 some
    have atLeast := DecimalText.pow_le_digitsValue ((str.drop (f + 1)).take
      (runLength str f stop - 1)) leadingDigit
    rw [@length_run str (f + 1) stop _ (by omega), ← take_drop_succ inString,
      Nat.sub_add_cancel some] at atLeast
    by_contra long
    have large : 10 ^ 20 ≤ 10 ^ (runLength str f stop - 1) := Nat.pow_le_pow_right (by decide) (by omega)
    have limit : numberLimit negative < 10 ^ 20 := by
      cases negative <;> simp only [numberLimit, maxNegativeNumber, ulonglongMax, Bool.false_eq_true,
        ↓reduceIte] <;> decide
    omega

end Zeros

/-! ### `my_strtoll10` after the sign -/

section Number

variable {str : List ℕ} {stop : ℕ} (negative : Bool) (error : ℤ)

theorem digitLoop_of_digit {i v : ℕ} (below : i < stop) (digit : isDigit (str.getD i 0) = true) :
    digitLoop str i stop v = digitLoop str (i + 1) stop (v * 10 + (str.getD i 0 - 0x30)) := by
  rw [digitLoop, if_pos below, if_pos digit]

/-- The first digit read before the loop is the loop's first turn. -/
theorem readDigitGroups_of_digit {s nEnd : ℕ} (below : s < nEnd)
    (digit : isDigit (str.getD s 0) = true) :
    readDigitGroups str (s + 1) nEnd (str.getD s 0 - 0x30) stop negative error =
      readDigitGroups str s nEnd 0 stop negative error := by
  simp only [readDigitGroups]
  rw [digitLoop_of_digit (v := 0) below digit, Nat.zero_mul, Nat.zero_add]

/-- From the first digit: the zeros run to `stop`, or the groups start at the first byte after
them that is not `0`. -/
theorem readNumber_cases {s : ℕ} (below : s < stop) (digit : isDigit (str.getD s 0) = true) :
    (readNumber str s stop negative error = (signedValue negative 0, stop, error) ∧
        runLength str s stop = stop - s ∧
        digitsValue 0 ((str.drop s).take (runLength str s stop)) = 0) ∨
      ∃ f, s ≤ f ∧ f < stop ∧ str.getD f 0 ≠ 0x30 ∧
        runLength str s stop = (f - s) + runLength str f stop ∧
        digitsValue 0 ((str.drop s).take (runLength str s stop)) =
          digitsValue 0 ((str.drop f).take (runLength str f stop)) ∧
        readNumber str s stop negative error =
          readDigitGroups str f (min (f + initCnt) stop) 0 stop negative error := by
  by_cases zero : str.getD s 0 = 0x30
  · have zeros := @skipPreZeros_spec str stop s
    split at zeros
    · next none =>
      -- only zeros up to `stop`
      have allZeros : ∀ p, s ≤ p → p < stop → str.getD p 0 = 0x30 := fun p after before => by
        rcases Nat.lt_or_ge s p with later | same
        · exact zeros p later before
        · rw [show p = s by omega]
          exact zero
      have run := runLength_of_zeros (le_of_lt below) (le_refl stop) allZeros
      have atStop : runLength str stop stop = 0 :=
        runLength_of_not (And.elim fun past _ => Nat.lt_irrefl stop past)
      rw [atStop, Nat.add_zero] at run
      refine .inl ⟨by rw [readNumber]; simp only [zero, if_true, none], run, ?_⟩
      rw [run]
      exact DecimalText.digitsValue_zeros fun c member => by
        obtain ⟨k, inside, rfl⟩ := exists_getD_of_mem member
        exact allZeros (s + k) (by omega) (by omega)
    · next f some =>
      obtain ⟨after, before, between, notZero⟩ := zeros
      have allZeros : ∀ p, s ≤ p → p < f → str.getD p 0 = 0x30 := fun p atLeast earlier => by
        rcases Nat.lt_or_ge s p with later | same
        · exact between p later earlier
        · rw [show p = s by omega]
          exact zero
      have run := runLength_of_zeros (le_of_lt after) (le_of_lt before) allZeros
      refine .inr ⟨f, le_of_lt after, before, notZero, run, ?_, ?_⟩
      · rw [run]
        exact @runValue_of_zeros str stop s f (runLength str f stop) allZeros (by omega)
          (le_of_lt after)
      · rw [readNumber]
        simp only [zero, if_true, some]
  · -- a first digit other than `0`: the loop starts after it
    refine .inr ⟨s, le_refl s, below, zero, by omega, rfl, ?_⟩
    rw [readNumber]
    simp only [zero, if_false, digit, if_true]
    exact readDigitGroups_of_digit negative error (by simp only [initCnt]; omega) digit

/-- A run within the limit of the sign is read whole. -/
theorem readNumber_of_le {s : ℕ} (below : s < stop) (digit : isDigit (str.getD s 0) = true)
    (within : digitsValue 0 ((str.drop s).take (runLength str s stop)) ≤ numberLimit negative) :
    readNumber str s stop negative error =
      (signedValue negative (digitsValue 0 ((str.drop s).take (runLength str s stop))),
        s + runLength str s stop, error) := by
  rcases readNumber_cases negative error below digit with ⟨read, run, value⟩ | ⟨f, after, before,
    notZero, run, value, read⟩
  · rw [read, value, run]
    congr 2
    omega
  · rw [value] at within ⊢
    rw [read, readDigitGroups_eq negative error before notZero,
      if_pos ⟨runLength_le_twenty negative notZero within, within⟩, run]
    congr 2
    omega

/-- A run past the limit of the sign is `ERANGE`. -/
theorem readNumber_of_lt {s : ℕ} (below : s < stop) (digit : isDigit (str.getD s 0) = true)
    (beyond : numberLimit negative < digitsValue 0 ((str.drop s).take (runLength str s stop))) :
    (readNumber str s stop negative error).2.2 = myErrnoErange := by
  rcases readNumber_cases negative error below digit with ⟨_, _, value⟩ | ⟨f, _, before,
    notZero, _, value, read⟩
  · omega
  · rw [value] at beyond
    rw [read, readDigitGroups_eq negative error before notZero,
      if_neg (And.elim fun _ within => Nat.lt_irrefl _ (Nat.lt_of_lt_of_le beyond within))]
    rfl

end Number

/-! ### Spaces and sign -/

section Spaces

variable {str : List ℕ} {stop : ℕ}

/-- The spaces from position `i` end at `stop` or at a byte that is not a space. -/
theorem skipSpaces_spec (i : ℕ) :
    i ≤ skipSpaces str i stop ∧
      (∀ p, i ≤ p → p < skipSpaces str i stop → myIsspace (str.getD p 0) = true) ∧
      (skipSpaces str i stop < stop → myIsspace (str.getD (skipSpaces str i stop) 0) = false) ∧
      (i ≤ stop → skipSpaces str i stop ≤ stop) := by
  induction i using skipSpaces.induct str stop with
  | case1 i space inductionHypothesis =>
    rw [skipSpaces, if_pos space]
    obtain ⟨after, spaces, stops, within⟩ := inductionHypothesis
    refine ⟨by omega, fun p atLeast before => ?_, stops, fun _ => within (by omega)⟩
    rcases Nat.lt_or_ge i p with later | same
    · exact spaces p later before
    · rw [show p = i by omega]
      exact space.2
  | case2 i stops =>
    rw [skipSpaces, if_neg stops]
    refine ⟨le_refl i, fun p atLeast before => by omega, fun below => ?_, id⟩
    simpa [below] using stops

/-- The spaces in front of a byte that is not one are skipped. -/
theorem skipSpaces_of_spaces {i : ℕ} {spaces rest : List ℕ} (here : str.drop i = spaces ++ rest)
    (allSpaces : ∀ c ∈ spaces, myIsspace c = true)
    (stops : ∀ c ∈ rest.head?, myIsspace c = false) (fits : i + spaces.length ≤ stop)
    (inString : stop ≤ str.length) : skipSpaces str i stop = i + spaces.length := by
  induction spaces generalizing i with
  | nil =>
    have notSpace : ¬ (i < stop ∧ myIsspace (str.getD i 0) = true) := by
      rintro ⟨below, space⟩
      rw [List.nil_append] at here
      have found : rest.head? = some (str.getD i 0) := by
        rw [← here, List.head?_drop, List.getElem?_eq_getElem (by omega),
          List.getD_eq_getElem _ _ (by omega)]
      rw [stops _ found] at space
      cases space
    rw [skipSpaces, if_neg notSpace, List.length_nil, Nat.add_zero]
  | cons c spaces ih =>
    have first := congrArg List.head? here
    rw [List.head?_drop, List.cons_append, List.head?_cons] at first
    have inside : i < str.length := by
      by_contra past
      rw [List.getElem?_eq_none (by omega)] at first
      cases first
    have space : myIsspace (str.getD i 0) = true := by
      rw [List.getD_eq_getElem?_getD, first]
      exact allSpaces c List.mem_cons_self
    have next : str.drop (i + 1) = spaces ++ rest := by
      rw [← List.tail_drop, here, List.cons_append, List.tail_cons]
    rw [skipSpaces, if_pos ⟨by simp only [List.length_cons] at fits; omega, space⟩,
      ih next (fun d member => allSpaces d (List.mem_cons_of_mem c member))
        (by simp only [List.length_cons] at fits; omega), List.length_cons]
    omega

/-- The run of digits in front of a byte that is not a digit. -/
theorem runLength_of_digits {i : ℕ} {digits rest : List ℕ} (here : str.drop i = digits ++ rest)
    (allDigits : ∀ c ∈ digits, isDigit c = true) (ends : DecimalText.StartsWithNonDigit rest) :
    runLength str i str.length = digits.length := by
  induction digits generalizing i with
  | nil =>
    have notDigit : ¬ (i < str.length ∧ isDigit (str.getD i 0) = true) := by
      rintro ⟨below, digit⟩
      rw [List.nil_append] at here
      have found : rest.head? = some (str.getD i 0) := by
        rw [← here, List.head?_drop, List.getElem?_eq_getElem below,
          List.getD_eq_getElem _ _ below]
      rw [ends _ found] at digit
      cases digit
    rw [runLength_of_not notDigit, List.length_nil]
  | cons c digits ih =>
    have first := congrArg List.head? here
    rw [List.head?_drop, List.cons_append, List.head?_cons] at first
    have inside : i < str.length := by
      by_contra past
      rw [List.getElem?_eq_none (by omega)] at first
      cases first
    have digit : isDigit (str.getD i 0) = true := by
      rw [List.getD_eq_getElem?_getD, first]
      exact allDigits c List.mem_cons_self
    have next : str.drop (i + 1) = digits ++ rest := by
      rw [← List.tail_drop, here, List.cons_append, List.tail_cons]
    rw [runLength_of_digit inside digit,
      ih next (fun d member => allDigits d (List.mem_cons_of_mem c member)), List.length_cons]

end Spaces

/-! ### `my_strtoll10` on a string of known length -/

section Fixed

variable {str : List ℕ}

theorem readNumber_of_not_digit {s stop : ℕ} (negative : Bool) (error : ℤ)
    (notDigit : isDigit (str.getD s 0) = false) :
    readNumber str s stop negative error = (0, 0, myErrnoEdom) := by
  have notZero : str.getD s 0 ≠ 0x30 := by
    intro zero
    rw [zero] at notDigit
    cases notDigit
  rw [readNumber]
  simp only [notZero, if_false, notDigit, Bool.false_eq_true]

/-- A run of digits without a sign, within `ULONGLONG_MAX`, is read as its value. -/
theorem readNumber_of_digits {s : ℕ} {digits rest : List ℕ} (here : str.drop s = digits ++ rest)
    (nonEmpty : digits ≠ []) (allDigits : ∀ c ∈ digits, isDigit c = true)
    (ends : DecimalText.StartsWithNonDigit rest) (within : digitsValue 0 digits ≤ ulonglongMax) :
    readNumber str s str.length false 0 =
      (toLonglong (digitsValue 0 digits), s + digits.length, 0) := by
  have run := runLength_of_digits here allDigits ends
  have taken : (str.drop s).take digits.length = digits := by rw [here, List.take_left' rfl]
  obtain ⟨c, digits', rfl⟩ := List.exists_cons_of_ne_nil nonEmpty
  have first := congrArg List.head? here
  rw [List.head?_drop, List.cons_append, List.head?_cons] at first
  have inside : s < str.length := by
    by_contra past
    rw [List.getElem?_eq_none (by omega)] at first
    cases first
  have digit : isDigit (str.getD s 0) = true := by
    rw [List.getD_eq_getElem?_getD, first]
    exact allDigits c List.mem_cons_self
  rw [readNumber_of_le false 0 inside digit (by rw [run, taken]; exact within), run, taken]
  simp only [signedValue, Bool.false_eq_true, if_false]

theorem myIsspace_of_isDigit {c : ℕ} (digit : isDigit c = true) : myIsspace c = false := by
  simp only [isDigit, Bool.and_eq_true, decide_eq_true_eq] at digit
  simp only [myIsspace, Bool.or_eq_false_iff, Bool.and_eq_false_iff, decide_eq_false_iff_not,
    beq_eq_false_iff_ne]
  omega

/-- With the spaces skipped to a byte that is neither sign, the number starts there. -/
theorem myStrtoll10_of_unsigned {s : ℕ} (span : skipSpaces str 0 str.length = s)
    (below : s < str.length) (noMinus : str.getD s 0 ≠ 0x2D) (noPlus : str.getD s 0 ≠ 0x2B) :
    myStrtoll10 str true = readNumber str s str.length false 0 := by
  have found : numberSpan str true = some (s, str.length) := by
    simp only [numberSpan, if_true, span, if_neg (Nat.ne_of_lt below)]
  simp only [myStrtoll10, found, noMinus, noPlus, or_self, if_false, false_and, decide_false]

/-- A plus sign after the spaces, and a number after it. -/
theorem myStrtoll10_of_plus {s : ℕ} (span : skipSpaces str 0 str.length = s)
    (more : s + 1 < str.length) (plus : str.getD s 0 = 0x2B) :
    myStrtoll10 str true = readNumber str (s + 1) str.length false 0 := by
  have found : numberSpan str true = some (s, str.length) := by
    simp only [numberSpan, if_true, span, if_neg (by omega : s ≠ str.length)]
  have plusNotMinus : (0x2B : ℕ) ≠ 0x2D := by decide
  simp only [myStrtoll10, found, plus, plusNotMinus, or_true, if_true, true_and,
    if_neg (Nat.ne_of_lt more), if_false, decide_false]

/-- Spaces, an optional plus sign and a run of digits within `ULONGLONG_MAX` are read as the
run's value, with `*endptr` just past the run. -/
theorem myStrtoll10_of_number {spaces sign digits rest : List ℕ}
    (allSpaces : ∀ c ∈ spaces, myIsspace c = true) (plus : sign = [] ∨ sign = [0x2B])
    (nonEmpty : digits ≠ []) (allDigits : ∀ c ∈ digits, isDigit c = true)
    (ends : DecimalText.StartsWithNonDigit rest) (within : digitsValue 0 digits ≤ ulonglongMax) :
    myStrtoll10 (spaces ++ sign ++ digits ++ rest) true =
      (toLonglong (digitsValue 0 digits), (spaces ++ sign ++ digits).length, 0) := by
  obtain ⟨d, digits', rfl⟩ := List.exists_cons_of_ne_nil nonEmpty
  have digit := allDigits d List.mem_cons_self
  have dNotSign : d ≠ 0x2D ∧ d ≠ 0x2B := by
    simp only [isDigit, Bool.and_eq_true, decide_eq_true_eq] at digit
    omega
  have atSpaces : (spaces ++ sign ++ d :: digits' ++ rest).getD spaces.length 0 =
      (sign ++ (d :: digits' ++ rest)).headD 0 := by
    have afterSpaces : (spaces ++ sign ++ d :: digits' ++ rest).drop spaces.length =
        sign ++ (d :: digits' ++ rest) := by
      simp only [List.append_assoc, List.drop_left]
    rw [← afterSpaces, List.getD_eq_getElem?_getD, ← List.head?_drop, List.headD_eq_head?_getD]
  have stops : ∀ c ∈ (sign ++ (d :: digits' ++ rest)).head?, myIsspace c = false := by
    intro c member
    rcases plus with rfl | rfl
    · simp only [List.nil_append, List.cons_append, List.head?_cons, Option.mem_def,
        Option.some.injEq] at member
      rw [← member]
      exact myIsspace_of_isDigit digit
    · simp only [List.cons_append, List.nil_append, List.head?_cons, Option.mem_def,
        Option.some.injEq] at member
      rw [← member]
      decide
  have whole : (spaces ++ sign ++ d :: digits' ++ rest).drop 0 =
      spaces ++ (sign ++ (d :: digits' ++ rest)) := by simp
  have span := skipSpaces_of_spaces whole allSpaces stops (by simp) (le_refl _)
  rw [Nat.zero_add] at span
  rcases plus with rfl | rfl
  · rw [myStrtoll10_of_unsigned span (by simp) (by rw [atSpaces]; exact dNotSign.1)
      (by rw [atSpaces]; exact dNotSign.2),
      readNumber_of_digits (by simp) nonEmpty allDigits ends within]
    simp
  · rw [myStrtoll10_of_plus span (by simp) (by rw [atSpaces]; rfl),
      readNumber_of_digits (by simp) nonEmpty allDigits ends within]
    simp
    omega

/-- Only a run of digits within the limit of the sign leaves `error` as it was. -/
theorem readNumber_error {s stop : ℕ} (negative : Bool) (error : ℤ) (below : s < stop) :
    (readNumber str s stop negative error).2.2 = error ∧ isDigit (str.getD s 0) = true ∧
        digitsValue 0 ((str.drop s).take (runLength str s stop)) ≤ numberLimit negative ∨
      (readNumber str s stop negative error).2.2 = myErrnoEdom ∨
      (readNumber str s stop negative error).2.2 = myErrnoErange := by
  cases digit : isDigit (str.getD s 0)
  · rw [readNumber_of_not_digit negative error digit]
    exact .inr (.inl rfl)
  · by_cases within : digitsValue 0 ((str.drop s).take (runLength str s stop)) ≤
        numberLimit negative
    · rw [readNumber_of_le negative error below digit within]
      exact .inl ⟨rfl, rfl, within⟩
    · exact .inr (.inr (readNumber_of_lt negative error below digit (by omega)))

/-- The run of digits at a position, and what follows it. -/
theorem drop_eq_run_append {s : ℕ} (digit : isDigit (str.getD s 0) = true) :
    str.drop s = (str.drop s).take (runLength str s str.length) ++
        str.drop (s + runLength str s str.length) ∧
      (str.drop s).take (runLength str s str.length) ≠ [] ∧
      (∀ c ∈ (str.drop s).take (runLength str s str.length), isDigit c = true) ∧
      DecimalText.StartsWithNonDigit (str.drop (s + runLength str s str.length)) := by
  have inside := lt_length_of_isDigit digit
  have some := runLength_of_digit inside digit
  refine ⟨by rw [← List.drop_drop, List.take_append_drop], ?_, isDigit_of_mem_run le_rfl, ?_⟩
  · rw [← List.length_pos_iff, length_run le_rfl]
    omega
  · intro c member
    rcases @runLength_stops str s str.length with atEnd | ⟨_, notDigit⟩ | past
    · rw [List.drop_eq_nil_of_le (by omega)] at member
      cases member
    · rw [List.head?_drop, Option.mem_def, List.getElem?_eq_getElem (by omega),
        Option.some.injEq] at member
      rw [← member, ← List.getD_eq_getElem _ 0]
      exact notDigit
    · omega

/-- What `my_strtoll10` accepts on a string of known length: spaces, an optional plus sign and a
run of digits within `ULONGLONG_MAX`. -/
theorem myStrtoll10_of_ok {value : ℤ} {q : ℕ} (ok : myStrtoll10 str true = (value, q, 0)) :
    ∃ spaces sign digits rest, str = spaces ++ sign ++ digits ++ rest ∧
      (∀ c ∈ spaces, myIsspace c = true) ∧ (sign = [] ∨ sign = [0x2B]) ∧ digits ≠ [] ∧
      (∀ c ∈ digits, isDigit c = true) ∧ DecimalText.StartsWithNonDigit rest ∧
      digitsValue 0 digits ≤ ulonglongMax := by
  obtain ⟨-, spacesBefore, -, within⟩ := @skipSpaces_spec str str.length 0
  have spaces : ∀ c ∈ str.take (skipSpaces str 0 str.length), myIsspace c = true := by
    intro c member
    obtain ⟨k, below, rfl⟩ := List.getElem_of_mem member
    simp only [List.length_take] at below
    rw [List.getElem_take, ← List.getD_eq_getElem _ 0]
    exact spacesBefore k (Nat.zero_le k) (by omega)
  by_cases atEnd : skipSpaces str 0 str.length = str.length
  · have noNumber : numberSpan str true = none := by simp only [numberSpan, if_true, atEnd]
    simp only [myStrtoll10, noNumber, Prod.mk.injEq] at ok
    exact absurd ok.2.2 (by decide)
  have below : skipSpaces str 0 str.length < str.length := by
    have := within (Nat.zero_le _)
    omega
  -- the digits after the spaces and the sign: what an accepted number looks like
  have accepted : ∀ s, s < str.length → (readNumber str s str.length false 0).2.2 = 0 →
      ∃ digits rest, str.drop s = digits ++ rest ∧ digits ≠ [] ∧
        (∀ c ∈ digits, isDigit c = true) ∧ DecimalText.StartsWithNonDigit rest ∧
        digitsValue 0 digits ≤ ulonglongMax := by
    intro s inside read
    rcases readNumber_error false 0 inside with ⟨_, digit, limit⟩ | edom | erange
    · obtain ⟨split, nonEmpty, allDigits, ends⟩ := drop_eq_run_append digit
      exact ⟨_, _, split, nonEmpty, allDigits, ends, limit⟩
    · rw [read] at edom
      exact absurd edom (by decide)
    · rw [read] at erange
      exact absurd erange (by decide)
  have found : numberSpan str true = some (skipSpaces str 0 str.length, str.length) := by
    simp only [numberSpan, if_true, if_neg atEnd]
  have split : str = str.take (skipSpaces str 0 str.length) ++
      str.drop (skipSpaces str 0 str.length) := (List.take_append_drop _ _).symm
  by_cases minus : str.getD (skipSpaces str 0 str.length) 0 = 0x2D
  · -- after a minus `error` starts at `-1`, and no path sets it to `0`
    simp only [myStrtoll10, found, minus, true_or, if_true, true_and, decide_true] at ok
    split_ifs at ok with noDigits
    · simp only [Prod.mk.injEq] at ok
      exact absurd ok.2.2 (by decide)
    · rcases @readNumber_error str (skipSpaces str 0 str.length + 1) str.length true (-1)
          (by omega) with ⟨kept, _⟩ | edom | erange
      · rw [ok] at kept
        exact absurd kept (by simp)
      · rw [ok] at edom
        exact absurd edom (by simp [myErrnoEdom])
      · rw [ok] at erange
        exact absurd erange (by simp [myErrnoErange])
  by_cases plus : str.getD (skipSpaces str 0 str.length) 0 = 0x2B
  · by_cases noDigits : skipSpaces str 0 str.length + 1 = str.length
    · have plusNotMinus : (0x2B : ℕ) ≠ 0x2D := by decide
      simp only [myStrtoll10, found, plus, plusNotMinus, or_true, if_true, true_and, noDigits,
        Prod.mk.injEq] at ok
      exact absurd ok.2.2 (by decide)
    rw [myStrtoll10_of_plus rfl (by omega) plus] at ok
    obtain ⟨digits, rest, after, nonEmpty, allDigits, ends, limit⟩ :=
      accepted (skipSpaces str 0 str.length + 1) (by omega) (by rw [ok])
    have signed : str.drop (skipSpaces str 0 str.length) =
        [0x2B] ++ str.drop (skipSpaces str 0 str.length + 1) := by
      rw [List.drop_eq_getElem_cons below, ← List.getD_eq_getElem _ 0, plus]
      rfl
    refine ⟨_, [0x2B], digits, rest, ?_, spaces, .inr rfl, nonEmpty, allDigits, ends, limit⟩
    conv_lhs => rw [split, signed, after]
    simp only [List.append_assoc]
  · rw [myStrtoll10_of_unsigned rfl below minus plus] at ok
    obtain ⟨digits, rest, after, nonEmpty, allDigits, ends, limit⟩ :=
      accepted (skipSpaces str 0 str.length) below (by rw [ok])
    refine ⟨_, [], digits, rest, ?_, spaces, .inl rfl, nonEmpty, allDigits, ends, limit⟩
    conv_lhs => rw [split, after]
    simp only [List.append_nil, List.append_assoc]

/-- On a string of known length, `my_strtoll10` reports no error exactly for spaces, an optional
plus sign and a run of digits within `ULONGLONG_MAX` that the string does not go on with a
digit after; it then returns the run's value, as the `longlong` that holds it, with `*endptr`
just past the run. -/
theorem myStrtoll10_ok_iff {value : ℤ} {q : ℕ} :
    myStrtoll10 str true = (value, q, 0) ↔
      ∃ spaces sign digits rest, str = spaces ++ sign ++ digits ++ rest ∧
        (∀ c ∈ spaces, myIsspace c = true) ∧ (sign = [] ∨ sign = [0x2B]) ∧ digits ≠ [] ∧
        (∀ c ∈ digits, isDigit c = true) ∧ DecimalText.StartsWithNonDigit rest ∧
        digitsValue 0 digits ≤ ulonglongMax ∧
        value = toLonglong (digitsValue 0 digits) ∧ q = (spaces ++ sign ++ digits).length := by
  constructor
  · intro ok
    obtain ⟨spaces, sign, digits, rest, rfl, allSpaces, plus, nonEmpty, allDigits, ends, within⟩ :=
      myStrtoll10_of_ok ok
    -- the text it accepted is read as its value
    have read := myStrtoll10_of_number allSpaces plus nonEmpty allDigits ends within
    rw [read, Prod.mk.injEq, Prod.mk.injEq] at ok
    exact ⟨spaces, sign, digits, rest, rfl, allSpaces, plus, nonEmpty, allDigits, ends, within,
      ok.1.symm, ok.2.1.symm⟩
  · rintro ⟨spaces, sign, digits, rest, rfl, allSpaces, plus, nonEmpty, allDigits, ends, within,
      valueEq, endEq⟩
    rw [valueEq, endEq]
    exact myStrtoll10_of_number allSpaces plus nonEmpty allDigits ends within

end Fixed

end MariaDB.Strings
