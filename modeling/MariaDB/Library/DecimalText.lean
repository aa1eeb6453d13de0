/-
Decimal numerals as strings of ASCII digits.

A numeral is a list of the bytes `0x30` to `0x39`, the most significant digit first.
`padded w n` writes the last `w` digits of `n` with leading zeros, and `decimal n` writes `n`
with none. `readDigits m` reads the digits at the front of a string the way C code accumulates
them in an unsigned variable, `val * 10 + (c - '0')` modulo `m`, and stops at the first byte
that is not a digit; reading a numeral followed by something that is not a digit gives back
its number, modulo `m`, and the rest.
-/

import Mathlib.Data.Nat.Log
import Mathlib.Data.List.TakeWhile
import Mathlib.Tactic.Ring

namespace DecimalText

/-! ### Numerals -/

/-- An ASCII digit. -/
def isDigit (b : ℕ) : Bool := 0x30 ≤ b && b ≤ 0x39

/-- The byte of a digit. -/
def digitByte (d : ℕ) : ℕ := 0x30 + d

/-- The last `w` decimal digits of `n`, with leading zeros. -/
def padded : ℕ → ℕ → List ℕ
  | 0, _ => []
  | w + 1, n => padded w (n / 10) ++ [digitByte (n % 10)]

/-- `n` in decimal, with no leading zero. -/
def decimal (n : ℕ) : List ℕ := padded (Nat.log 10 n + 1) n

/-- The number a run of digits adds to `val`, digit by digit. -/
def digitsValue (val : ℕ) (digits : List ℕ) : ℕ :=
  digits.foldl (fun v c => v * 10 + (c - 0x30)) val

/-- Read the digits at the front of `str` onto `val`, in arithmetic modulo `m`: the number and
what follows the digits. -/
def readDigits (m val : ℕ) : List ℕ → ℕ × List ℕ
  | [] => (val, [])
  | c :: str =>
    if isDigit c then readDigits m ((val * 10 + (c - 0x30)) % m) str else (val, c :: str)

/-- Nothing at the front of a string is a digit. -/
def StartsWithNonDigit (str : List ℕ) : Prop := ∀ c ∈ str.head?, isDigit c = false

/-! ### Writing -/

section Writing

variable {w n : ℕ}

theorem isDigit_digitByte {d : ℕ} (small : d < 10) : isDigit (digitByte d) = true := by
  have low : 0x30 ≤ digitByte d := Nat.le_add_right _ _
  have high : digitByte d ≤ 0x39 := by unfold digitByte; omega
  simp [isDigit, low, high]

@[simp] theorem length_padded : (padded w n).length = w := by
  induction w generalizing n with
  | zero => rfl
  | succ w ih => simp [padded, ih]

theorem isDigit_of_mem_padded {c : ℕ} (member : c ∈ padded w n) : isDigit c = true := by
  induction w generalizing n with
  | zero => cases member
  | succ w ih =>
    rcases List.mem_append.mp member with earlier | last
    · exact ih earlier
    · rw [List.mem_singleton.mp last]
      exact isDigit_digitByte (Nat.mod_lt n (by decide))

theorem digitsValue_append (val : ℕ) (digits digits' : List ℕ) :
    digitsValue val (digits ++ digits') = digitsValue (digitsValue val digits) digits' :=
  List.foldl_append

/-- The digits of `padded w n` add the last `w` digits of `n`. -/
theorem digitsValue_padded (val : ℕ) : digitsValue val (padded w n) = val * 10 ^ w + n % 10 ^ w := by
  induction w generalizing n with
  | zero => simp [padded, digitsValue, Nat.mod_one]
  | succ w ih =>
    rw [padded, digitsValue_append, ih]
    simp only [digitsValue, List.foldl_cons, List.foldl_nil, digitByte, Nat.add_sub_cancel_left]
    -- the last `w + 1` digits of `n` are its last digit and the last `w` digits of `n / 10`
    rw [Nat.pow_succ', Nat.mod_mul]
    ring

/-- Only the last `w` digits of `n` are written. -/
theorem padded_mod : padded w (n % 10 ^ w) = padded w n := by
  induction w generalizing n with
  | zero => rfl
  | succ w ih =>
    rw [padded, padded, Nat.pow_succ', Nat.mod_mul_right_div_self, Nat.mod_mul_right_mod, ih]

/-- The digits of a wider numeral: the high digits, then the last `b` ones. -/
theorem padded_add (a b : ℕ) : padded (a + b) n = padded a (n / 10 ^ b) ++ padded b n := by
  induction b generalizing n with
  | zero => rw [Nat.add_zero, Nat.pow_zero, Nat.div_one, padded, List.append_nil]
  | succ b ih =>
    rw [← Nat.add_assoc, padded, ih, padded, List.append_assoc, Nat.div_div_eq_div_mul,
      ← Nat.pow_succ']

/-- A numeral is its high digits and its low ones. -/
theorem padded_div_append_mod (a b : ℕ) :
    padded a (n / 10 ^ b) ++ padded b (n % 10 ^ b) = padded (a + b) n := by
  rw [padded_mod, padded_add]

/-- The last digit of a numeral of one digit or more. -/
theorem padded_succ_eq_append (w : ℕ) :
    padded (w + 1) n = padded w (n / 10) ++ [digitByte (n % 10)] := rfl

theorem lt_pow_log_succ (n : ℕ) : n < 10 ^ (Nat.log 10 n + 1) :=
  Nat.lt_pow_succ_log_self (by decide) n

@[simp] theorem length_decimal (n : ℕ) : (decimal n).length = Nat.log 10 n + 1 := length_padded

/-- A number of one digit. -/
theorem decimal_of_lt (small : n < 10) : decimal n = [digitByte n] := by
  rw [decimal, Nat.log_of_lt small, padded_succ_eq_append, Nat.div_eq_of_lt small,
    Nat.mod_eq_of_lt small]
  rfl

/-- The last digit of a number of two digits or more. -/
theorem decimal_eq_append (large : 10 ≤ n) :
    decimal n = decimal (n / 10) ++ [digitByte (n % 10)] := by
  have digits : Nat.log 10 (n / 10) + 1 = Nat.log 10 n := by
    rw [Nat.log_div_base]
    have := Nat.log_pos (by decide : 1 < 10) large
    omega
  rw [decimal, padded_succ_eq_append, decimal, digits]

theorem digitsValue_decimal (n : ℕ) : digitsValue 0 (decimal n) = n := by
  rw [decimal, digitsValue_padded, Nat.zero_mul, Nat.zero_add,
    Nat.mod_eq_of_lt (lt_pow_log_succ n)]

/-- `n` has at most `w` digits when it is below `10 ^ w`. -/
theorem length_decimal_le (small : n < 10 ^ w) (wide : 0 < w) :
    (decimal n).length ≤ w := by
  rw [length_decimal]
  have := Nat.log_lt_of_lt_pow' (Nat.pos_iff_ne_zero.mp wide) small
  omega

end Writing

/-! ### Reading -/

section Reading

/-- Only the residue of the value a run of digits starts from matters modulo `m`. -/
theorem digitsValue_mod (m val : ℕ) (digits : List ℕ) :
    digitsValue (val % m) digits % m = digitsValue val digits % m := by
  induction digits generalizing val with
  | nil => exact Nat.mod_mod val m
  | cons c digits ih =>
    simp only [digitsValue, List.foldl_cons] at ih ⊢
    rw [← ih (val % m * 10 + (c - 0x30)), ← ih (val * 10 + (c - 0x30)), Nat.add_mod,
      Nat.mul_mod, Nat.mod_mod, ← Nat.mul_mod, ← Nat.add_mod]

/-- The value a run adds to `val` is `val` shifted past the run, plus the run's own value. -/
theorem digitsValue_eq_add (val : ℕ) (digits : List ℕ) :
    digitsValue val digits = val * 10 ^ digits.length + digitsValue 0 digits := by
  induction digits generalizing val with
  | nil => simp [digitsValue]
  | cons c digits ih =>
    simp only [digitsValue, List.foldl_cons, List.length_cons] at ih ⊢
    rw [ih (val * 10 + (c - 0x30)), ih (0 * 10 + (c - 0x30))]
    ring

/-- The first digit of a run counts `10 ^ n` for the `n` digits after it. -/
theorem digitsValue_cons (c : ℕ) (digits : List ℕ) :
    digitsValue 0 (c :: digits) = (c - 0x30) * 10 ^ digits.length + digitsValue 0 digits := by
  rw [← Nat.zero_add (c - 0x30), ← Nat.zero_mul 10, ← digitsValue_eq_add]
  rfl

/-- A run of zeros reads zero. -/
theorem digitsValue_zeros {digits : List ℕ} (zeros : ∀ c ∈ digits, c = 0x30) :
    digitsValue 0 digits = 0 := by
  induction digits with
  | nil => rfl
  | cons c digits ih =>
    rw [digitsValue_cons, zeros c List.mem_cons_self,
      ih fun d member => zeros d (List.mem_cons_of_mem c member), Nat.sub_self, Nat.zero_mul]

/-- A run of `n` digits reads less than `10 ^ n`. -/
theorem digitsValue_lt {digits : List ℕ} (allDigits : ∀ c ∈ digits, isDigit c = true) :
    digitsValue 0 digits < 10 ^ digits.length := by
  induction digits with
  | nil => simp [digitsValue]
  | cons c digits ih =>
    have digit := allDigits c List.mem_cons_self
    have rest := ih fun d member => allDigits d (List.mem_cons_of_mem c member)
    simp only [isDigit, Bool.and_eq_true, decide_eq_true_eq] at digit
    rw [digitsValue_cons, List.length_cons, Nat.pow_succ]
    have shifted : (c - 0x30) * 10 ^ digits.length ≤ 9 * 10 ^ digits.length :=
      Nat.mul_le_mul_right _ (by omega)
    omega

/-- A run that starts with a digit other than `0` reads at least `10 ^ n` past its first digit. -/
theorem pow_le_digitsValue {c : ℕ} (digits : List ℕ) (leading : 0x31 ≤ c) :
    10 ^ digits.length ≤ digitsValue 0 (c :: digits) := by
  rw [digitsValue_cons]
  have shifted : 1 * 10 ^ digits.length ≤ (c - 0x30) * 10 ^ digits.length :=
    Nat.mul_le_mul_right _ (by omega)
  omega

theorem readDigits_digits_append {m val : ℕ} {digits : List ℕ} (small : val < m)
    (allDigits : ∀ c ∈ digits, isDigit c = true) (rest : List ℕ) :
    readDigits m val (digits ++ rest) = readDigits m (digitsValue val digits % m) rest := by
  induction digits generalizing val with
  | nil => rw [List.nil_append, digitsValue, List.foldl_nil, Nat.mod_eq_of_lt small]
  | cons c digits ih =>
    rw [List.cons_append, readDigits, if_pos (allDigits c List.mem_cons_self),
      ih (Nat.mod_lt _ (Nat.lt_of_le_of_lt (Nat.zero_le val) small))
        fun d member => allDigits d (List.mem_cons_of_mem c member),
      digitsValue_mod]
    rfl

theorem readDigits_of_startsWithNonDigit {m val : ℕ} {rest : List ℕ}
    (stop : StartsWithNonDigit rest) : readDigits m val rest = (val, rest) := by
  cases rest with
  | nil => rfl
  | cons c rest => rw [readDigits, if_neg (by simpa using stop c rfl)]

/-- Reading a numeral and then something that is not a digit gives its number back. -/
theorem readDigits_padded {m val w n : ℕ} {rest : List ℕ} (small : val < m)
    (stop : StartsWithNonDigit rest) :
    readDigits m val (padded w n ++ rest) = ((val * 10 ^ w + n % 10 ^ w) % m, rest) := by
  rw [readDigits_digits_append small (fun _ => isDigit_of_mem_padded), digitsValue_padded,
    readDigits_of_startsWithNonDigit stop]

/-- The digit run at the front of digits followed by a non-digit. -/
theorem takeWhile_isDigit_append {digits rest : List ℕ}
    (allDigits : ∀ c ∈ digits, isDigit c = true) (stop : StartsWithNonDigit rest) :
    (digits ++ rest).takeWhile isDigit = digits := by
  rw [List.takeWhile_append_of_pos allDigits]
  cases rest with
  | nil => simp
  | cons c rest => simp [stop c rfl]

theorem takeWhile_isDigit_padded {w n : ℕ} {rest : List ℕ} (stop : StartsWithNonDigit rest) :
    (padded w n ++ rest).takeWhile isDigit = padded w n :=
  takeWhile_isDigit_append (fun _ member => isDigit_of_mem_padded member) stop

theorem dropWhile_isDigit_padded {w n : ℕ} {rest : List ℕ} (stop : StartsWithNonDigit rest) :
    (padded w n ++ rest).dropWhile isDigit = rest := by
  rw [List.dropWhile_append_of_pos (fun _ member => isDigit_of_mem_padded member)]
  cases rest with
  | nil => rfl
  | cons c rest => simp [stop c rfl]

theorem startsWithNonDigit_nil : StartsWithNonDigit [] := by
  intro c member
  cases member

theorem startsWithNonDigit_cons {c : ℕ} (rest : List ℕ) (notDigit : ¬ (0x30 ≤ c ∧ c ≤ 0x39)) :
    StartsWithNonDigit (c :: rest) := by
  intro d member
  cases member
  simpa [isDigit] using notDigit

end Reading

end DecimalText
