/-
Reading a decimal integer: `my_strtoll10` of `strings/my_strtoll10.c`.

`my_strtoll10` skips spaces, reads a sign, skips the zeros in front of the number and then
reads at most twenty digits in three groups: nine into `i`, nine into `j` and two into `k`. It
stops at the first byte that is not a digit and puts the value together from the groups it
filled, with `end_i`, `end_i_and_j`, `end3` or `end4`. Twenty digits are compared with the
limit group by group; a twenty-first digit, or a value past `ULONGLONG_MAX` (past `2 ^ 63` for
a negative number), is `ERANGE`.

The string ends either at `*endptr` or at a NUL byte. In the second case the code has no end
to test against and takes `s + 65535` for one, so a number whose zeros in front run past
65535 bytes is cut there and read as zero.
-/

import MariaDB.Temporal.Text
import MariaDB.Sql.IntArith

namespace MariaDB.Strings

open DecimalText (isDigit)
open Temporal (myIsspace)
open Sql (toLonglong longlongMin ulonglongMax)

/-! ### Constants -/

/-- `MY_ERRNO_EDOM`. -/
def myErrnoEdom : ℤ := 33

/-- `MY_ERRNO_ERANGE`. -/
def myErrnoErange : ℤ := 34

/-- `MAX_NEGATIVE_NUMBER`. -/
def maxNegativeNumber : ℕ := 0x8000000000000000

/-- `INIT_CNT`: the digits of a group. -/
def initCnt : ℕ := 9

/-- `LFACTOR`, `LFACTOR1` and `LFACTOR2`. -/
def lfactorBig : ℕ := 1000000000

def lfactor1 : ℕ := 10000000000

def lfactor2 : ℕ := 100000000000

/-- `lfactor[i]`. -/
def lfactor (i : ℕ) : ℕ := 10 ^ i

/-! ### The loops -/

/-- `for ( ; s < end && my_isspace(&my_charset_latin1, *s) ; ) s++`. -/
def skipSpaces (str : List ℕ) (i stop : ℕ) : ℕ :=
  if i < stop ∧ myIsspace (str.getD i 0) = true then skipSpaces str (i + 1) stop else i
termination_by stop - i

/-- `for ( ; ; s++) { if (!*s) goto no_conv; if (!my_isspace(...)) break; }` over a string
that ends with a NUL byte: the first byte that is not a space, `none` at the NUL. -/
def skipSpacesNul : List ℕ → ℕ → Option ℕ
  | [], _ => none
  | c :: rest, i => if c = 0 then none else if myIsspace c then skipSpacesNul rest (i + 1) else some i

/-- `do { if (++s == end) goto end_i; } while (*s == '0')`: `none` when the zeros reach `end`,
else the position of the first byte after them. The loop starts below `end`. -/
def skipPreZeros (str : List ℕ) (i stop : ℕ) : Option ℕ :=
  if stop ≤ i + 1 then none
  else if str.getD (i + 1) 0 = 0x30 then skipPreZeros str (i + 1) stop else some (i + 1)
termination_by stop - i

/-- A loop `for (; s != n_end; s++) { if ((c= (*s-'0')) > 9) goto ...; v= v*10+c; }`: the
position it stops at, the value read onto `v`, and whether a byte that is not a digit stopped
it. -/
def digitLoop (str : List ℕ) (i stop v : ℕ) : ℕ × ℕ × Bool :=
  if i < stop then
    if isDigit (str.getD i 0) then digitLoop str (i + 1) stop (v * 10 + (str.getD i 0 - 0x30))
    else (i, v, true)
  else (i, v, false)
termination_by stop - i

/-! ### `my_strtoll10` -/

/-- The value of a number read with a sign, as `(longlong) li` or `-((longlong) li)`. -/
def signedValue (negative : Bool) (li : ℕ) : ℤ :=
  if negative then toLonglong (-(li : ℤ)) else toLonglong li

/-- `overflow:`: `LONGLONG_MIN` or `ULONGLONG_MAX` as a `longlong`, with `ERANGE`. -/
def overflowResult (negative : Bool) (s : ℕ) : ℤ × ℕ × ℤ :=
  (if negative then longlongMin else toLonglong ulonglongMax, s, myErrnoErange)

/-- The limit of a twenty-digit number in the groups `i`, `j` and `k`: `cutoff`, `cutoff2` and
`cutoff3`. -/
def cutoffs (negative : Bool) : ℕ × ℕ × ℕ :=
  let limit := if negative then maxNegativeNumber else ulonglongMax
  (limit / lfactor2, limit % lfactor2 / 100, limit % 100)

/-- The two digits past the second group, `k`, from position `s` where a digit stands: `end4`
after one, the check against the limit after two. -/
def readLastDigits (str : List ℕ) (s stop i j : ℕ) (negative : Bool) (error : ℤ) :
    ℤ × ℕ × ℤ :=
  let k := str.getD s 0 - 0x30
  let s := s + 1
  if s = stop ∨ isDigit (str.getD s 0) = false then
    -- `end4`
    let li := i * lfactor1 + j * 10 + k
    if negative ∧ maxNegativeNumber < li then overflowResult negative s
    else (signedValue negative li, s, error)
  else
    let k := k * 10 + (str.getD s 0 - 0x30)
    let s := s + 1
    let (cutoff, cutoff2, cutoff3) := cutoffs negative
    if s ≠ stop ∧ isDigit (str.getD s 0) = true then overflowResult negative s
    else if cutoff < i ∨ (i = cutoff ∧ (cutoff2 < j ∨ (j = cutoff2 ∧ cutoff3 < k))) then
      overflowResult negative s
    else (toLonglong (i * lfactor2 + j * 100 + k : ℕ), s, error)

/-- The digits from position `s`, with `i` read up to `n_end`: the first group, then the second
from `start`, with `end_i`, `end_i_and_j` and `end3` where the digits stop. -/
def readDigitGroups (str : List ℕ) (s nEnd i stop : ℕ) (negative : Bool) (error : ℤ) :
    ℤ × ℕ × ℤ :=
  let (s, i, stopped) := digitLoop str s nEnd i
  if stopped ∨ s = stop then (signedValue negative i, s, error)
  else
    let start := s
    let trueEnd := s + initCnt
    let (s, j, stopped) := digitLoop str s (min trueEnd stop) 0
    if stopped ∨ (s = stop ∧ s ≠ trueEnd) then
      -- `end_i_and_j`
      (signedValue negative (i * lfactor (s - start) + j), s, error)
    else if s = stop ∨ isDigit (str.getD s 0) = false then
      -- `end3`
      (signedValue negative (i * lfactorBig + j), s, error)
    else readLastDigits str s stop i j negative error

/-- `my_strtoll10` after the sign, from position `s` below `end`: the zeros in front, or the
first digit, then the groups. -/
def readNumber (str : List ℕ) (s stop : ℕ) (negative : Bool) (error : ℤ) : ℤ × ℕ × ℤ :=
  let c := str.getD s 0
  if c = 0x30 then
    match skipPreZeros str s stop with
    | none => (signedValue negative 0, stop, error)
    | some s => readDigitGroups str s (min (s + initCnt) stop) 0 stop negative error
  else if isDigit c then
    readDigitGroups str (s + 1) (min (s + initCnt) stop) (c - 0x30) stop negative error
  else (0, 0, myErrnoEdom)

/-- Where the number starts and the end the code tests against: `*endptr` for a string of known
length, `s + 65535` after the spaces for one that ends with a NUL byte. `none` when only spaces
are there. -/
def numberSpan (str : List ℕ) (fixedLength : Bool) : Option (ℕ × ℕ) :=
  if fixedLength then
    let s := skipSpaces str 0 str.length
    if s = str.length then none else some (s, str.length)
  else (skipSpacesNul str 0).map fun s => (s, s + 65535)

/-- `my_strtoll10(nptr, endptr, &error)` on the bytes of `str`, which end at `*endptr` when
`fixedLength` and at the first NUL byte (or past the list) otherwise: the value returned, the
position `*endptr` is left at, and `error`. -/
def myStrtoll10 (str : List ℕ) (fixedLength : Bool) : ℤ × ℕ × ℤ :=
  match numberSpan str fixedLength with
  | none => (0, 0, myErrnoEdom)
  | some (s, stop) =>
    let negative := str.getD s 0 = 0x2D
    let signed := negative ∨ str.getD s 0 = 0x2B
    let s := if signed then s + 1 else s
    if signed ∧ s = stop then (0, 0, myErrnoEdom)
    else readNumber str s stop negative (if negative then -1 else 0)

/-! ### Past 65535 bytes without an end -/

/-- The zeros in front of a number up to `end` take the loop to `end`. -/
theorem skipPreZeros_of_zeros (str : List ℕ) {i stop : ℕ}
    (zeros : ∀ p, i < p → p < stop → str.getD p 0 = 0x30) : skipPreZeros str i stop = none := by
  induction i using skipPreZeros.induct str stop with
  | case1 i atEnd => rw [skipPreZeros, if_pos atEnd]
  | case2 i below zero inductionHypothesis =>
    rw [skipPreZeros, if_neg below, if_pos zero]
    exact inductionHypothesis fun p after before => zeros p (by omega) before
  | case3 i below notZero =>
    exact absurd (zeros (i + 1) (Nat.lt_add_one i) (by omega)) notZero

/-- A string that ends with a NUL byte and holds a number with 65535 zeros or more in front:
`my_strtoll10` stops at `s + 65535` and returns `0`, although the digits read `1`. -/
theorem myStrtoll10_cuts_long_zeros (n : ℕ) (long : 65535 ≤ n) :
    DecimalText.digitsValue 0 (List.replicate n 0x30 ++ [0x31]) = 1 ∧
      myStrtoll10 (List.replicate n 0x30 ++ [0x31]) false = (0, 65535, 0) := by
  obtain ⟨m, rfl⟩ : ∃ m, n = m + 1 := ⟨n - 1, by omega⟩
  have first : (List.replicate (m + 1) 0x30 ++ [0x31]).getD 0 0 = 0x30 := by
    rw [List.getD_append _ _ _ _ (by simp), List.getD_replicate _ (Nat.zero_lt_succ m)]
  have zeros : ∀ p, 0 < p → p < 0 + 65535 →
      (List.replicate (m + 1) 0x30 ++ [0x31]).getD p 0 = 0x30 := fun p _ before => by
    rw [List.getD_append _ _ _ _ (by simp; omega), List.getD_replicate _ (by omega)]
  constructor
  · -- the digit run is the zeros and a one
    simp only [DecimalText.digitsValue, List.foldl_append, List.foldl_cons, List.foldl_nil]
    have allZero : ∀ k v, List.foldl (fun v c => v * 10 + (c - 0x30)) v
        (List.replicate k 0x30) = v * 10 ^ k := by
      intro k
      induction k with
      | zero => simp
      | succ k inductionHypothesis =>
        intro v
        rw [List.replicate_succ, List.foldl_cons, inductionHypothesis, Nat.pow_succ]
        ring
    rw [allZero]
    simp
  · have span : numberSpan (List.replicate (m + 1) 0x30 ++ [0x31]) false = some (0, 0 + 65535) := by
      simp [numberSpan, List.replicate_succ, skipSpacesNul, Temporal.myIsspace]
    unfold myStrtoll10
    rw [span]
    -- no sign: the number starts at the first zero
    simp only [first, Nat.reduceEqDiff, or_self, decide_false, false_and, if_false]
    rw [readNumber]
    simp only [first, if_true]
    rw [skipPreZeros_of_zeros _ zeros]
    rfl

theorem myStrtoll10_cuts_long_zeros_at_limit :
    65535 ≤ 65535 ∧ DecimalText.digitsValue 0 (List.replicate 65535 0x30 ++ [0x31]) = 1 ∧
      myStrtoll10 (List.replicate 65535 0x30 ++ [0x31]) false = (0, 65535, 0) :=
  ⟨Nat.le_refl 65535, myStrtoll10_cuts_long_zeros 65535 (Nat.le_refl 65535)⟩

end MariaDB.Strings
