/-
Positional numerals in a mixed radix, as fixed-width storage formats write them.

A number below the product of a list of radices has one digit per radix, the most
significant first: the digit at a position is the number divided by the product of the
radices after it, taken modulo its own radix. Two such tuples compare lexicographically as
the numbers they denote. Big-endian byte strings are the case of a constant radix `256`,
and the byte-wise complement of a byte string reads as the complementary number;
so a format that writes the digits of a number as bytes, most significant first, can be
compared byte by byte, as `memcmp` compares.
-/

import Mathlib

namespace Positional

/-! ### Digits in a mixed radix -/

/-- The digits of `n` in the radices `radices`, most significant first. -/
def digits : List ℕ → ℕ → List ℕ
  | [], _ => []
  | radix :: radices, n => n / radices.prod % radix :: digits radices (n % radices.prod)

/-- The number a digit tuple denotes in the radices `radices`, most significant first. -/
def ofDigits : List ℕ → List ℕ → ℕ
  | _ :: radices, digit :: rest => digit * radices.prod + ofDigits radices rest
  | _, _ => 0

/-- Every digit lies below its own radix. -/
def Bounded : List ℕ → List ℕ → Prop
  | radix :: radices, digit :: rest => digit < radix ∧ Bounded radices rest
  | [], [] => True
  | _, _ => False

@[simp] theorem digits_nil (n : ℕ) : digits [] n = [] := rfl

theorem digits_cons (radix : ℕ) (radices : List ℕ) (n : ℕ) :
    digits (radix :: radices) n =
      n / radices.prod % radix :: digits radices (n % radices.prod) := rfl

@[simp] theorem ofDigits_nil (digitList : List ℕ) : ofDigits [] digitList = 0 := rfl

@[simp] theorem ofDigits_cons (radix : ℕ) (radices : List ℕ) (digit : ℕ) (rest : List ℕ) :
    ofDigits (radix :: radices) (digit :: rest) = digit * radices.prod + ofDigits radices rest :=
  rfl

@[simp] theorem bounded_cons (radix : ℕ) (radices : List ℕ) (digit : ℕ) (rest : List ℕ) :
    Bounded (radix :: radices) (digit :: rest) ↔ digit < radix ∧ Bounded radices rest :=
  Iff.rfl

@[simp] theorem length_digits (radices : List ℕ) (n : ℕ) :
    (digits radices n).length = radices.length := by
  induction radices generalizing n with
  | nil => rfl
  | cons radix radices inductionHypothesis =>
    rw [digits_cons, List.length_cons, inductionHypothesis, List.length_cons]

/-- Only the residue modulo the product of the radices is written. -/
theorem digits_mod (radices : List ℕ) (n : ℕ) :
    digits radices (n % radices.prod) = digits radices n := by
  cases radices with
  | nil => rfl
  | cons radix radices =>
    rw [digits_cons, digits_cons, List.prod_cons, Nat.mod_mul_left_div_self, Nat.mod_mod,
      Nat.mod_mod_of_dvd n (Dvd.intro_left radix rfl)]

theorem digits_zero (radices : List ℕ) :
    digits radices 0 = List.replicate radices.length 0 := by
  induction radices with
  | nil => rfl
  | cons radix radices inductionHypothesis =>
    rw [digits_cons, Nat.zero_div, Nat.zero_mod, Nat.zero_mod, inductionHypothesis,
      List.length_cons, List.replicate_succ]

theorem ofDigits_lt {radices digitList : List ℕ} (bounded : Bounded radices digitList) :
    ofDigits radices digitList < radices.prod := by
  induction radices generalizing digitList with
  | nil => exact Nat.zero_lt_one
  | cons radix radices inductionHypothesis => cases digitList with
    | nil => exact bounded.elim
    | cons digit rest =>
      have below := inductionHypothesis bounded.2
      have top : digit + 1 ≤ radix := bounded.1
      rw [ofDigits_cons, List.prod_cons]
      calc digit * radices.prod + ofDigits radices rest
          < digit * radices.prod + radices.prod := Nat.add_lt_add_left below _
        _ = (digit + 1) * radices.prod := by rw [Nat.succ_mul]
        _ ≤ radix * radices.prod := Nat.mul_le_mul_right _ top

theorem ofDigits_digits (radices : List ℕ) (n : ℕ) :
    ofDigits radices (digits radices n) = n % radices.prod := by
  induction radices generalizing n with
  | nil => rw [digits_nil, ofDigits_nil, List.prod_nil, Nat.mod_one]
  | cons radix radices inductionHypothesis =>
    rw [digits_cons, ofDigits_cons, inductionHypothesis, Nat.mod_mod, List.prod_cons,
      Nat.mul_comm radix, Nat.mod_mul, Nat.add_comm, Nat.mul_comm]

theorem digits_ofDigits {radices digitList : List ℕ} (bounded : Bounded radices digitList) :
    digits radices (ofDigits radices digitList) = digitList := by
  induction radices generalizing digitList with
  | nil => cases digitList with
    | nil => rfl
    | cons _ _ => exact bounded.elim
  | cons radix radices inductionHypothesis => cases digitList with
    | nil => exact bounded.elim
    | cons digit rest =>
      have below := ofDigits_lt bounded.2
      have positive : 0 < radices.prod := Nat.lt_of_le_of_lt (Nat.zero_le _) below
      rw [ofDigits_cons, digits_cons, Nat.add_comm, Nat.add_mul_div_right _ _ positive,
        Nat.div_eq_of_lt below, Nat.zero_add, Nat.mod_eq_of_lt bounded.1, Nat.add_mul_mod_self_right,
        Nat.mod_eq_of_lt below, inductionHypothesis bounded.2]

theorem ofDigits_append {radices radices' digitList digitList' : List ℕ}
    (sameLength : digitList.length = radices.length) :
    ofDigits (radices ++ radices') (digitList ++ digitList') =
      ofDigits radices digitList * radices'.prod + ofDigits radices' digitList' := by
  induction radices generalizing digitList with
  | nil =>
    rw [List.length_eq_zero_iff.mp sameLength, List.nil_append, List.nil_append, ofDigits_nil,
      Nat.zero_mul, Nat.zero_add]
  | cons radix radices inductionHypothesis => cases digitList with
    | nil => exact absurd sameLength (by simp)
    | cons digit rest =>
      rw [List.cons_append, List.cons_append, ofDigits_cons,
        inductionHypothesis (Nat.succ.inj sameLength), ofDigits_cons, List.prod_append,
        Nat.add_mul, Nat.mul_assoc]
      ac_rfl

/-- Digits of a concatenation of radices: the high part holds the quotient, the low part
the remainder, by the product of the low radices. -/
theorem digits_append (radices radices' : List ℕ) (n : ℕ) :
    digits (radices ++ radices') n =
      digits radices (n / radices'.prod) ++ digits radices' (n % radices'.prod) := by
  induction radices generalizing n with
  | nil => rw [List.nil_append, digits_nil, List.nil_append, digits_mod]
  | cons radix radices inductionHypothesis =>
    rw [List.cons_append, digits_cons, digits_cons, inductionHypothesis, List.prod_append,
      List.cons_append, Nat.div_div_eq_div_mul, Nat.mul_comm radices.prod,
      Nat.mod_mul_right_div_self, Nat.mod_mul_right_mod]

/-! ### Lexicographic comparison -/

/-- Dividing out a common modulus compares the quotients first and the remainders
after. -/
theorem compare_eq_then (n m modulus : ℕ) :
    compare n m =
      (compare (n / modulus) (m / modulus)).then (compare (n % modulus) (m % modulus)) := by
  rcases lt_trichotomy (n / modulus) (m / modulus) with less | same | greater
  · rw [Nat.compare_eq_lt.mpr less, Ordering.lt_then]
    exact Nat.compare_eq_lt.mpr (Nat.lt_of_div_lt_div less)
  · rw [same, Nat.compare_eq_eq.mpr rfl, Ordering.eq_then]
    have splitN := Nat.div_add_mod n modulus
    have splitM := Nat.div_add_mod m modulus
    rw [same] at splitN
    generalize modulus * (m / modulus) = high at splitN splitM
    rcases lt_trichotomy (n % modulus) (m % modulus) with lower | equal | higher
    · rw [Nat.compare_eq_lt.mpr lower, Nat.compare_eq_lt.mpr (by omega)]
    · rw [Nat.compare_eq_eq.mpr equal, Nat.compare_eq_eq.mpr (by omega)]
    · rw [Nat.compare_eq_gt.mpr higher, Nat.compare_eq_gt.mpr (by omega)]
  · rw [Nat.compare_eq_gt.mpr greater, Ordering.gt_then]
    exact Nat.compare_eq_gt.mpr (Nat.lt_of_div_lt_div greater)

/-- Lexicographic comparison of digit tuples is numeric comparison. -/
theorem compare_digits (radices : List ℕ) (n m : ℕ) (smallN : n < radices.prod)
    (smallM : m < radices.prod) :
    compare (digits radices n) (digits radices m) = compare n m := by
  induction radices generalizing n m with
  | nil =>
    rw [List.prod_nil, Nat.lt_one_iff] at smallN smallM
    rw [smallN, smallM]
    rfl
  | cons radix radices inductionHypothesis =>
    rw [List.prod_cons] at smallN smallM
    have positive : 0 < radices.prod := Nat.pos_of_mul_pos_left (Nat.lt_of_le_of_lt
      (Nat.zero_le n) smallN)
    rw [digits_cons, digits_cons, List.compare_cons_cons,
      Nat.mod_eq_of_lt (Nat.div_lt_of_lt_mul (Nat.mul_comm radix _ ▸ smallN)),
      Nat.mod_eq_of_lt (Nat.div_lt_of_lt_mul (Nat.mul_comm radix _ ▸ smallM)),
      inductionHypothesis _ _ (Nat.mod_lt _ positive) (Nat.mod_lt _ positive),
      ← compare_eq_then n m]

theorem compare_append {α : Type} [Ord α] (front front' back back' : List α)
    (sameLength : front.length = front'.length) :
    compare (front ++ back) (front' ++ back') =
      (compare front front').then (compare back back') := by
  induction front generalizing front' with
  | nil =>
    rw [List.length_eq_zero_iff.mp sameLength.symm]
    rfl
  | cons head tail inductionHypothesis => cases front' with
    | nil => exact absurd sameLength (by simp)
    | cons head' tail' =>
      rw [List.cons_append, List.cons_append, List.compare_cons_cons, List.compare_cons_cons,
        inductionHypothesis tail' (Nat.succ.inj sameLength), Ordering.then_assoc]

/-- A decoder strictly monotone in the code within each part, that puts every value of a
smaller part below every value of a larger one, orders its values as it orders the pairs of
part and code, lexicographically. -/
theorem compare_decode {α β γ : Type} [LinearOrder α] [LinearOrder β] [LinearOrder γ]
    (decode : β → γ → α) (parts : Set β) (codes : Set γ)
    (within : ∀ part ∈ parts, StrictMonoOn (decode part) codes)
    (across : ∀ {part part' code code'}, part ∈ parts → part' ∈ parts → part < part' →
      code ∈ codes → code' ∈ codes → decode part code < decode part' code')
    {part part' : β} {code code' : γ} (inside : part ∈ parts) (inside' : part' ∈ parts)
    (member : code ∈ codes) (member' : code' ∈ codes) :
    compare (decode part code) (decode part' code') =
      (compare part part').then (compare code code') := by
  rcases lt_trichotomy part part' with less | same | greater
  · rw [compare_lt_iff_lt.mpr less, Ordering.lt_then]
    exact compare_lt_iff_lt.mpr (across inside inside' less member member')
  · rw [same, compare_eq_iff_eq.mpr rfl, Ordering.eq_then, ← cmp_eq_compare, ← cmp_eq_compare]
    exact (within part' inside').cmp_map_eq member member'
  · rw [compare_gt_iff_gt.mpr greater, Ordering.gt_then]
    exact compare_gt_iff_gt.mpr (across inside' inside greater member' member)

/-- A number with a low part of `code` units of `scale` below `unit` compares with another as
the pairs of its multiple of `unit` and its code. -/
theorem compare_mul_add {unit : ℤ} {scale : ℕ} (positive : 0 < scale) {q q' : ℤ}
    {code code' : ℕ} (small : code * scale < unit) (small' : code' * scale < unit) :
    compare (q * unit + code * scale) (q' * unit + code' * scale) =
      (compare q q').then (compare code code') := by
  let codes : Set ℕ := {code | (code : ℤ) * scale < unit}
  have within : ∀ part ∈ (Set.univ : Set ℤ),
      StrictMonoOn (fun code : ℕ => part * unit + code * scale) codes := by
    intro part _ code _ code' _ less
    have grows : code * scale < code' * scale := Nat.mul_lt_mul_of_pos_right less positive
    have grows' : (code : ℤ) * scale < code' * scale := by exact_mod_cast grows
    simp only
    omega
  refine compare_decode (fun (part : ℤ) (code : ℕ) => part * unit + code * scale) Set.univ
    codes within ?_ trivial trivial small small'
  intro part part' code code' _ _ less member member'
  have member : (code : ℤ) * scale < unit := member
  have nonneg : 0 ≤ (code : ℤ) * scale := by positivity
  have nonneg' : 0 ≤ (code' : ℤ) * scale := by positivity
  have step : (part + 1) * unit ≤ part' * unit :=
    Int.mul_le_mul_of_nonneg_right (by omega) (by omega)
  linarith

/-- Lexicographic comparison of bounded digit tuples of the same radices is numeric
comparison. -/
theorem compare_of_bounded {radices xs ys : List ℕ} (boundedX : Bounded radices xs)
    (boundedY : Bounded radices ys) :
    compare xs ys = compare (ofDigits radices xs) (ofDigits radices ys) := by
  conv_lhs => rw [← digits_ofDigits boundedX, ← digits_ofDigits boundedY]
  exact compare_digits radices _ _ (ofDigits_lt boundedX) (ofDigits_lt boundedY)

/-- Zeros against a digit string that ends in a non-zero digit, padded to the same
length: the zeros are the smaller. -/
theorem compare_replicate_zero_append (ys : List ℕ) (padX padY : ℕ)
    (endY : ∀ nonempty : ys ≠ [], ys.getLast nonempty ≠ 0)
    (sameLength : padX = ys.length + padY) :
    compare (List.replicate padX 0) (ys ++ List.replicate padY 0) = compare [] ys := by
  induction ys generalizing padX with
  | nil =>
    rw [List.length_nil, Nat.zero_add] at sameLength
    rw [sameLength, List.nil_append]
    exact Std.compare_eq_iff_eq.mpr rfl
  | cons y ys inductionHypothesis =>
    obtain ⟨padX, rfl⟩ : ∃ rest, padX = rest + 1 :=
      ⟨padX - 1, by rw [List.length_cons] at sameLength; omega⟩
    rw [List.cons_append, List.replicate_succ, List.compare_cons_cons, List.compare_nil_cons]
    rcases Nat.eq_zero_or_pos y with zero | positive
    · -- a leading zero of `ys` is matched; the rest of `ys` still ends in a non-zero digit
      have endTail : ∀ nonempty : ys ≠ [], ys.getLast nonempty ≠ 0 := fun nonempty =>
        List.getLast_cons nonempty ▸ endY (List.cons_ne_nil y ys)
      have tailNonempty : ys ≠ [] := by
        rintro rfl
        exact endY (List.cons_ne_nil y []) zero
      rw [zero, Nat.compare_eq_eq.mpr rfl, Ordering.eq_then,
        inductionHypothesis padX endTail (by rw [List.length_cons] at sameLength; omega)]
      obtain ⟨head, tail, rfl⟩ := List.exists_cons_of_ne_nil tailNonempty
      exact List.compare_nil_cons
    · rw [Nat.compare_eq_lt.mpr positive, Ordering.lt_then]

/-- Zeros appended to two digit strings that end in a non-zero digit, up to a common length,
do not change their lexicographic order. -/
theorem compare_append_zeros (xs ys : List ℕ) (padX padY : ℕ)
    (endX : ∀ nonempty : xs ≠ [], xs.getLast nonempty ≠ 0)
    (endY : ∀ nonempty : ys ≠ [], ys.getLast nonempty ≠ 0)
    (sameLength : xs.length + padX = ys.length + padY) :
    compare (xs ++ List.replicate padX 0) (ys ++ List.replicate padY 0) = compare xs ys := by
  induction xs generalizing ys with
  | nil =>
    rw [List.nil_append]
    exact compare_replicate_zero_append ys padX padY endY (by simpa using sameLength)
  | cons x xs inductionHypothesis => cases ys with
    | nil =>
      rw [Std.OrientedOrd.eq_swap, List.nil_append,
        compare_replicate_zero_append (x :: xs) padY padX endX (by simpa using sameLength.symm),
        ← Std.OrientedOrd.eq_swap]
    | cons y ys =>
      have endTail : ∀ {zs : List ℕ} {z : ℕ}, (∀ nonempty : z :: zs ≠ [],
          (z :: zs).getLast nonempty ≠ 0) → ∀ nonempty : zs ≠ [], zs.getLast nonempty ≠ 0 :=
        fun endZ nonempty => List.getLast_cons nonempty ▸ endZ (List.cons_ne_nil _ _)
      rw [List.cons_append, List.cons_append, List.compare_cons_cons, List.compare_cons_cons,
        inductionHypothesis ys (endTail endX) (endTail endY)
          (by simp only [List.length_cons] at sameLength; omega)]

/-! ### A constant radix -/

/-- The number a list of digits denotes in the constant radix `base`, most significant
first. -/
def value (base : ℕ) (digitList : List ℕ) : ℕ :=
  ofDigits (List.replicate digitList.length base) digitList

@[simp] theorem value_nil (base : ℕ) : value base [] = 0 := rfl

theorem value_cons (base digit : ℕ) (rest : List ℕ) :
    value base (digit :: rest) = digit * base ^ rest.length + value base rest := by
  rw [value, List.length_cons, List.replicate_succ, ofDigits_cons, List.prod_replicate]
  rfl

theorem value_append (base : ℕ) (front back : List ℕ) :
    value base (front ++ back) = value base front * base ^ back.length + value base back := by
  rw [value, List.length_append, List.replicate_add, ofDigits_append List.length_replicate.symm,
    List.prod_replicate]
  rfl

theorem value_replicate_zero (base count : ℕ) : value base (List.replicate count 0) = 0 := by
  induction count with
  | zero => rfl
  | succ count inductionHypothesis =>
    rw [List.replicate_succ, value_cons, inductionHypothesis, Nat.zero_mul]

theorem value_lt (base : ℕ) (digitList : List ℕ) (small : ∀ digit ∈ digitList, digit < base) :
    value base digitList < base ^ digitList.length := by
  induction digitList with
  | nil => exact Nat.one_pos
  | cons digit rest inductionHypothesis =>
    have below := inductionHypothesis fun other member => small other (List.mem_cons_of_mem _ member)
    have top : digit + 1 ≤ base := small digit List.mem_cons_self
    rw [value_cons, List.length_cons, Nat.pow_succ]
    calc digit * base ^ rest.length + value base rest
        < digit * base ^ rest.length + base ^ rest.length := Nat.add_lt_add_left below _
      _ = (digit + 1) * base ^ rest.length := by rw [Nat.succ_mul]
      _ ≤ base * base ^ rest.length := Nat.mul_le_mul_right _ top
      _ = base ^ rest.length * base := Nat.mul_comm _ _

/-- A digit string denotes zero exactly when all its digits are zero. -/
theorem value_eq_zero_iff {base : ℕ} (positive : 0 < base) (digitList : List ℕ) :
    value base digitList = 0 ↔ ∀ digit ∈ digitList, digit = 0 := by
  induction digitList with
  | nil => simp
  | cons digit rest inductionHypothesis =>
    have weight : 0 < base ^ rest.length := Nat.pow_pos positive
    rw [value_cons, Nat.add_eq_zero_iff, Nat.mul_eq_zero, inductionHypothesis, List.forall_mem_cons]
    simp only [Nat.ne_of_gt weight, or_false]

theorem bounded_replicate_iff (base : ℕ) (digitList : List ℕ) :
    Bounded (List.replicate digitList.length base) digitList ↔
      ∀ digit ∈ digitList, digit < base := by
  induction digitList with
  | nil => exact ⟨fun _ _ member => absurd member List.not_mem_nil, fun _ => trivial⟩
  | cons digit rest inductionHypothesis =>
    rw [List.length_cons, List.replicate_succ, bounded_cons, inductionHypothesis,
      List.forall_mem_cons]

/-- Lexicographic comparison of equally long digit strings below a common radix is numeric
comparison. -/
theorem compare_eq_compare_value (base : ℕ) (xs ys : List ℕ) (sameLength : xs.length = ys.length)
    (smallX : ∀ digit ∈ xs, digit < base) (smallY : ∀ digit ∈ ys, digit < base) :
    compare xs ys = compare (value base xs) (value base ys) := by
  have boundedX := (bounded_replicate_iff base xs).mpr smallX
  have boundedY := (bounded_replicate_iff base ys).mpr smallY
  rw [sameLength] at boundedX
  rw [value, value, sameLength]
  exact compare_of_bounded boundedX boundedY

theorem value_replicate_zero_append (base count : ℕ) (digitList : List ℕ) :
    value base (List.replicate count 0 ++ digitList) = value base digitList := by
  rw [value_append, value_replicate_zero, Nat.zero_mul, Nat.zero_add]

theorem value_append_replicate_zero (base count : ℕ) (digitList : List ℕ) :
    value base (digitList ++ List.replicate count 0) = value base digitList * base ^ count := by
  rw [value_append, value_replicate_zero, Nat.add_zero, List.length_replicate]

/-! ### Big-endian bytes -/

/-- `width` bytes of `n`, most significant first: `n` modulo `256 ^ width` in radix `256`. -/
def bytes (width n : ℕ) : List ℕ := digits (List.replicate width 256) n

@[simp] theorem length_bytes (width n : ℕ) : (bytes width n).length = width := by
  rw [bytes, length_digits, List.length_replicate]

theorem prod_replicate_256 (width : ℕ) : (List.replicate width 256).prod = 256 ^ width :=
  List.prod_replicate width 256

theorem bytes_zero_width (n : ℕ) : bytes 0 n = [] := rfl

theorem bytes_succ (width n : ℕ) :
    bytes (width + 1) n = n / 256 ^ width % 256 :: bytes width (n % 256 ^ width) := by
  rw [bytes, List.replicate_succ, digits_cons, prod_replicate_256]
  rfl

/-- Reading `width` bytes of `n` back gives `n` modulo `256 ^ width`. -/
theorem value_bytes (width n : ℕ) : value 256 (bytes width n) = n % 256 ^ width := by
  rw [value, length_bytes, bytes, ofDigits_digits, prod_replicate_256]

/-- Writing back the number a byte string denotes gives the byte string. -/
theorem bytes_value {xs : List ℕ} (small : ∀ byte ∈ xs, byte < 256) :
    bytes xs.length (value 256 xs) = xs := by
  rw [bytes, value]
  exact digits_ofDigits ((bounded_replicate_iff 256 xs).mpr small)

theorem bytes_of_zero (width : ℕ) : bytes width 0 = List.replicate width 0 := by
  rw [bytes, digits_zero, List.length_replicate]

theorem byte_lt_of_mem {width n byte : ℕ} (member : byte ∈ bytes width n) : byte < 256 := by
  induction width generalizing n with
  | zero => exact absurd member (List.not_mem_nil)
  | succ width inductionHypothesis =>
    rw [bytes_succ, List.mem_cons] at member
    rcases member with head | tail
    · rw [head]
      exact Nat.mod_lt _ (by norm_num)
    · exact inductionHypothesis tail

/-- Lexicographic comparison of equal-width byte strings is numeric comparison. -/
theorem compare_bytes (width n m : ℕ) (smallN : n < 256 ^ width) (smallM : m < 256 ^ width) :
    compare (bytes width n) (bytes width m) = compare n m := by
  rw [bytes, bytes]
  exact compare_digits _ n m (prod_replicate_256 width ▸ smallN)
    (prod_replicate_256 width ▸ smallM)

/-- A number that fits in `width` bytes, written in `extra + width` bytes, has `extra` zero
bytes in front. -/
theorem bytes_add (extra width n : ℕ) (small : n < 256 ^ width) :
    bytes (extra + width) n = List.replicate extra 0 ++ bytes width n := by
  rw [bytes, List.replicate_add, digits_append, prod_replicate_256, Nat.div_eq_of_lt small,
    digits_zero, List.length_replicate, Nat.mod_eq_of_lt small]
  rfl

/-- The byte-wise complement of a byte string denotes the complementary number. -/
theorem value_map_complement (xs : List ℕ) (small : ∀ byte ∈ xs, byte < 256) :
    value 256 (xs.map (255 - ·)) = 256 ^ xs.length - 1 - value 256 xs := by
  induction xs with
  | nil => rfl
  | cons byte rest inductionHypothesis =>
    have restSmall : ∀ byte ∈ rest, byte < 256 := fun other member =>
      small other (List.mem_cons_of_mem _ member)
    have top := small byte List.mem_cons_self
    have below := value_lt 256 rest restSmall
    have scaled : byte * 256 ^ rest.length ≤ 255 * 256 ^ rest.length :=
      Nat.mul_le_mul_right _ (by omega)
    rw [List.map_cons, value_cons, value_cons, List.length_map, inductionHypothesis restSmall,
      List.length_cons, Nat.pow_succ, Nat.sub_mul]
    omega

/-- Complementing every byte of two equally long byte strings turns their order round. -/
theorem compare_map_complement (xs ys : List ℕ) (sameLength : xs.length = ys.length)
    (smallX : ∀ byte ∈ xs, byte < 256) (smallY : ∀ byte ∈ ys, byte < 256) :
    compare (xs.map (255 - ·)) (ys.map (255 - ·)) = compare ys xs := by
  induction xs generalizing ys with
  | nil => cases ys with
    | nil => rfl
    | cons _ _ => exact absurd sameLength (by simp)
  | cons x xs inductionHypothesis => cases ys with
    | nil => exact absurd sameLength (by simp)
    | cons y ys =>
      have boundX := smallX x List.mem_cons_self
      have boundY := smallY y List.mem_cons_self
      rw [List.map_cons, List.map_cons, List.compare_cons_cons, List.compare_cons_cons,
        inductionHypothesis ys (Nat.succ.inj sameLength)
          (fun byte member => smallX byte (List.mem_cons_of_mem _ member))
          (fun byte member => smallY byte (List.mem_cons_of_mem _ member))]
      congr 1
      rcases lt_trichotomy x y with less | same | greater
      · rw [Nat.compare_eq_gt.mpr (by omega), Nat.compare_eq_gt.mpr less]
      · rw [same, Nat.compare_eq_eq.mpr rfl, Nat.compare_eq_eq.mpr rfl]
      · rw [Nat.compare_eq_lt.mpr (by omega), Nat.compare_eq_lt.mpr greater]

/-! ### Reading digits into a bounded variable -/

/-- The test C code makes before it adds a digit to an unsigned variable whose largest value is
`limit`: against `limit / base` and `limit % base`, the test fails exactly when the new value
`i * base + d` would pass `limit`. -/
theorem cutoff_iff {base limit i d : ℕ} (positive : 0 < base) (digit : d < base) :
    (i > limit / base ∨ (i = limit / base ∧ d > limit % base)) ↔ limit < i * base + d := by
  have split := Nat.div_add_mod limit base
  constructor
  · rintro (above | ⟨rfl, past⟩)
    · have : (limit / base + 1) * base ≤ i * base := Nat.mul_le_mul_right _ above
      rw [Nat.succ_mul] at this
      have := Nat.mod_lt limit positive
      nlinarith
    · rw [Nat.mul_comm] at split
      omega
  · intro past
    rcases lt_trichotomy i (limit / base) with below | same | above
    · have : (i + 1) * base ≤ limit / base * base := Nat.mul_le_mul_right _ below
      rw [Nat.succ_mul] at this
      rw [Nat.mul_comm] at split
      omega
    · subst same
      rw [Nat.mul_comm] at split
      omega
    · exact .inl above

/-- Digits added to a value, most significant first, never make it smaller. -/
theorem le_foldl_mul_add {base : ℕ} (positive : 0 < base) (digit : ℕ → ℕ) (run : List ℕ)
    (i : ℕ) : i ≤ run.foldl (fun v c => v * base + digit c) i := by
  induction run generalizing i with
  | nil => exact le_refl i
  | cons c run inductionHypothesis =>
    calc i ≤ i * base + digit c := Nat.le_add_right_of_le (Nat.le_mul_of_pos_right i positive)
      _ ≤ _ := inductionHypothesis _

end Positional
