/-
Carry and borrow chains over digit strings in a constant radix.

Multi-word arithmetic adds or subtracts two numbers held as equally long strings of digits
below a radix one digit at a time from the least significant end, passing a carry (or a
borrow) of at most one to the next digit. Over strings written most significant first the
chain is a recursion that finishes the rest of the string before it handles the head. The
digits it leaves and the carry out of it make up the sum (the difference); a chain over two
concatenations is two chains with the carry passed across; a chain against zeros copies the
other string or only passes the borrow on. Cutting the low digits off a string divides its
number, so it keeps the order of numbers; read as a fraction, the cut number is the floor of
the number scaled to the digits left. Accumulating the digits of a string from the most
significant end as `x * base + digit`, and stopping as soon as the accumulator passes a bound,
stops exactly when the number of the string passes the bound.
-/

import MariaDB.Library.Radix

namespace Positional

/-! ### Addition -/

/-- A digit of a sum in radix `base` and the carry out of it. -/
def addDigit (base x y : ℕ) (carry : Bool) : ℕ × Bool :=
  let a := x + y + carry.toNat
  if base ≤ a then (a - base, true) else (a, false)

/-- The sum of two digit strings of equal length, most significant first, with a carry into
the last digit: the digits of the sum and the carry out of the first digit. -/
def addWords (base : ℕ) : List ℕ → List ℕ → Bool → List ℕ × Bool
  | x :: xs, y :: ys, carry =>
    let rest := addWords base xs ys carry
    let digit := addDigit base x y rest.2
    (digit.1 :: rest.1, digit.2)
  | _, _, carry => ([], carry)

section Addition

variable {base : ℕ}

@[simp] theorem addWords_nil_left (ys : List ℕ) (carry : Bool) :
    addWords base [] ys carry = ([], carry) := rfl

end Addition

/-! ### Subtraction -/

/-- A digit of a difference in radix `base` and the borrow out of it. -/
def subDigit (base x y : ℕ) (borrow : Bool) : ℕ × Bool :=
  if x < y + borrow.toNat then (x + base - y - borrow.toNat, true)
  else (x - y - borrow.toNat, false)

/-- The difference of two digit strings of equal length, most significant first, with a
borrow from the last digit: the digits of the difference and the borrow out of the first
digit. -/
def subWords (base : ℕ) : List ℕ → List ℕ → Bool → List ℕ × Bool
  | x :: xs, y :: ys, borrow =>
    let rest := subWords base xs ys borrow
    let digit := subDigit base x y rest.2
    (digit.1 :: rest.1, digit.2)
  | _, _, borrow => ([], borrow)

section Subtraction

variable {base : ℕ}

@[simp] theorem subWords_nil_left (ys : List ℕ) (borrow : Bool) :
    subWords base [] ys borrow = ([], borrow) := rfl

end Subtraction

/-! ### Cutting the low digits -/

section Truncation

variable {base : ℕ}

end Truncation

/-! ### Accumulation under a bound -/

/-- The number of a digit string accumulated from the most significant digit as
`x * base + digit` onto `x`, or `none` as soon as the accumulator passes `limit`. -/
def boundedValue (base limit : ℕ) : ℕ → List ℕ → Option ℕ
  | x, [] => some x
  | x, digit :: rest =>
    if limit < x * base + digit then none else boundedValue base limit (x * base + digit) rest

/-- The accumulation stops exactly when the whole number passes the bound: the accumulator
only grows. -/
theorem boundedValue_eq {base limit x : ℕ} (positive : 0 < base) (start : x ≤ limit)
    (digitList : List ℕ) :
    boundedValue base limit x digitList =
      if limit < x * base ^ digitList.length + value base digitList then none
      else some (x * base ^ digitList.length + value base digitList) := by
  induction digitList generalizing x with
  | nil =>
    rw [boundedValue, List.length_nil, pow_zero, Nat.mul_one, value_nil, Nat.add_zero,
      if_neg (Nat.not_lt.mpr start)]
  | cons digit rest inductionHypothesis =>
    -- the string after the head continues from the accumulator with the head added
    have shifted : x * base ^ (rest.length + 1) + value base (digit :: rest) =
        (x * base + digit) * base ^ rest.length + value base rest := by
      rw [value_cons, pow_succ]
      ring
    have grows : x * base + digit ≤ (x * base + digit) * base ^ rest.length + value base rest :=
      le_trans (Nat.le_mul_of_pos_right _ (Nat.pow_pos positive)) (Nat.le_add_right _ _)
    rw [boundedValue, List.length_cons, shifted]
    by_cases passed : limit < x * base + digit
    · rw [if_pos passed, if_pos (lt_of_lt_of_le passed grows)]
    · rw [if_neg passed]
      exact inductionHypothesis (Nat.le_of_not_lt passed)

end Positional
