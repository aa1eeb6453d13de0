/-
The sort keys of numeric columns (`sql/field.cc`, `sql/filesort.cc`). An integer field
stores its number in two's complement, least significant byte first, and its `sort_string`
writes the bytes most significant first with the sign bit inverted when the field is signed,
so that `memcmp` on two keys orders them as `cmp` orders the numbers. `FLOAT` and `DOUBLE`
fields store the IEEE 754 pattern of the number; `change_double_for_sort` and
`Field_float::sort_string` write both zeros as `0x80 00 ..`, complement every byte of a
negative number, and set the sign bit of a positive one with its exponent raised by one.

Bytes are natural numbers below `256` and the host is little-endian. A `float` or a
`double` stands for the rational number its pattern stands for, as `BinaryFloat.finiteValue`
reads it; the theorems are about finite values, where C's `<` on floating-point numbers is the
order of those rationals.
-/

import MariaDB.Library.BinaryFloat
import MariaDB.Decimal.BinFormat

namespace MariaDB.Sql

/-! ### Stored values -/

/-- The `width` bytes that a field stores at `ptr`. -/
structure StoredValue (width : ℕ) where
  ptr : List ℕ
  length_eq : ptr.length = width
  byte_lt : ∀ byte ∈ ptr, byte < 256

/-- `uint<width>korr`: `width` bytes, least significant first. -/
def uintKorr (width : ℕ) (ptr : List ℕ) : ℕ := Positional.value 256 (ptr.take width).reverse

/-- `sint<width>korr`: the same bytes as a two's-complement number. -/
def sintKorr (width : ℕ) (ptr : List ℕ) : ℤ :=
  if 128 * 256 ^ (width - 1) ≤ uintKorr width ptr then (uintKorr width ptr : ℤ) - 256 ^ width
  else uintKorr width ptr

/-- `(a < b) ? -1 : (a > b) ? 1 : 0`, the result of every `cmp` below. -/
def threeWayCmp {α : Type} [LinearOrder α] (a b : α) : ℤ :=
  if a < b then -1 else if a > b then 1 else 0

theorem compare_threeWayCmp {α : Type} [LinearOrder α] (a b : α) :
    compare (threeWayCmp a b) 0 = compare a b := by
  unfold threeWayCmp
  rcases lt_trichotomy a b with less | same | greater
  · rw [if_pos less, compare_lt_iff_lt.mpr less]
    rfl
  · subst same
    rw [if_neg (lt_irrefl a), if_neg (lt_irrefl a), compare_eq_iff_eq.mpr rfl]
    exact (compare_eq_iff_eq.mpr rfl).symm
  · rw [if_neg (not_lt.mpr greater.le), if_pos greater, compare_gt_iff_gt.mpr greater]
    rfl

/-- The stored bytes, most significant first. -/
theorem reverse_take (width : ℕ) (stored : StoredValue width) :
    (stored.ptr.take width).reverse = stored.ptr.reverse := by
  rw [List.take_of_length_le (le_of_eq stored.length_eq)]

theorem byte_lt_of_mem_reverse {width : ℕ} (stored : StoredValue width) {byte : ℕ}
    (member : byte ∈ stored.ptr.reverse) : byte < 256 :=
  stored.byte_lt byte (List.mem_reverse.mp member)

theorem uintKorr_lt {width : ℕ} (stored : StoredValue width) :
    uintKorr width stored.ptr < 256 ^ width := by
  have bound := Positional.value_lt 256 stored.ptr.reverse fun _ member =>
    byte_lt_of_mem_reverse stored member
  rw [List.length_reverse, stored.length_eq] at bound
  rw [uintKorr, reverse_take]
  exact bound

/-! ### Integer fields -/

/-- The `cmp` of the integer fields of `width` bytes: the stored numbers, read unsigned or
signed by `unsigned_flag`. -/
def intFieldCmp (width : ℕ) (unsignedFlag : Bool) (aPtr bPtr : List ℕ) : ℤ :=
  if unsignedFlag then threeWayCmp (uintKorr width aPtr) (uintKorr width bPtr)
  else threeWayCmp (sintKorr width aPtr) (sintKorr width bPtr)

/-- The `sort_string` of the integer fields of `width` bytes: the stored bytes most
significant first, with the sign bit inverted when the field is signed. -/
def intFieldSortString (width : ℕ) (unsignedFlag : Bool) (ptr : List ℕ) : List ℕ :=
  match (ptr.take width).reverse with
  | [] => []
  | top :: rest => (if unsignedFlag then top else top ^^^ 128) :: rest

/-- `Field_tiny::cmp`. -/
def FieldTiny.cmp (unsignedFlag : Bool) (aPtr bPtr : List ℕ) : ℤ :=
  intFieldCmp 1 unsignedFlag aPtr bPtr

/-- `Field_tiny::sort_string`. -/
def FieldTiny.sortString (unsignedFlag : Bool) (ptr : List ℕ) : List ℕ :=
  intFieldSortString 1 unsignedFlag ptr

/-- `Field_short::cmp`. -/
def FieldShort.cmp (unsignedFlag : Bool) (aPtr bPtr : List ℕ) : ℤ :=
  intFieldCmp 2 unsignedFlag aPtr bPtr

/-- `Field_short::sort_string`. -/
def FieldShort.sortString (unsignedFlag : Bool) (ptr : List ℕ) : List ℕ :=
  intFieldSortString 2 unsignedFlag ptr

/-- `Field_medium::cmp`. -/
def FieldMedium.cmp (unsignedFlag : Bool) (aPtr bPtr : List ℕ) : ℤ :=
  intFieldCmp 3 unsignedFlag aPtr bPtr

/-- `Field_medium::sort_string`. -/
def FieldMedium.sortString (unsignedFlag : Bool) (ptr : List ℕ) : List ℕ :=
  intFieldSortString 3 unsignedFlag ptr

/-- `Field_long::cmp`. -/
def FieldLong.cmp (unsignedFlag : Bool) (aPtr bPtr : List ℕ) : ℤ :=
  intFieldCmp 4 unsignedFlag aPtr bPtr

/-- `Field_long::sort_string`. -/
def FieldLong.sortString (unsignedFlag : Bool) (ptr : List ℕ) : List ℕ :=
  intFieldSortString 4 unsignedFlag ptr

/-- `Field_longlong::cmp`. -/
def FieldLonglong.cmp (unsignedFlag : Bool) (aPtr bPtr : List ℕ) : ℤ :=
  intFieldCmp 8 unsignedFlag aPtr bPtr

/-- `Field_longlong::sort_string`. -/
def FieldLonglong.sortString (unsignedFlag : Bool) (ptr : List ℕ) : List ℕ :=
  intFieldSortString 8 unsignedFlag ptr

section IntegerKeys

variable {width : ℕ}

theorem xor_128_lt {byte : ℕ} (small : byte < 256) : byte ^^^ 128 < 256 :=
  Nat.xor_lt_two_pow (n := 8) small (by norm_num)

theorem length_intFieldSortString (unsignedFlag : Bool) (stored : StoredValue width) :
    (intFieldSortString width unsignedFlag stored.ptr).length = width := by
  unfold intFieldSortString
  rw [reverse_take]
  have length : stored.ptr.reverse.length = width := by
    rw [List.length_reverse, stored.length_eq]
  split
  · rename_i empty
    rw [empty] at length
    exact length
  · rename_i top rest reversed
    rw [reversed] at length
    exact length

theorem byte_lt_of_mem_intFieldSortString (unsignedFlag : Bool) (stored : StoredValue width)
    {byte : ℕ} (member : byte ∈ intFieldSortString width unsignedFlag stored.ptr) :
    byte < 256 := by
  unfold intFieldSortString at member
  rw [reverse_take] at member
  split at member
  · exact absurd member List.not_mem_nil
  · rename_i top rest reversed
    have topSmall := byte_lt_of_mem_reverse stored (reversed ▸ List.mem_cons_self)
    rcases List.mem_cons.mp member with head | tail
    · rw [head]
      cases unsignedFlag
      · exact xor_128_lt topSmall
      · exact topSmall
    · exact byte_lt_of_mem_reverse stored (reversed ▸ List.mem_cons_of_mem _ tail)

/-- The key of an unsigned field is the stored number. -/
theorem value_intFieldSortString_unsigned (stored : StoredValue width) :
    Positional.value 256 (intFieldSortString width true stored.ptr) = uintKorr width stored.ptr := by
  unfold intFieldSortString uintKorr
  split <;> rename_i reversed <;> rw [reversed]
  rfl

/-- The key of a signed field is the stored number moved up by half the range. -/
theorem value_intFieldSortString_signed (positive : 0 < width) (stored : StoredValue width) :
    (Positional.value 256 (intFieldSortString width false stored.ptr) : ℤ) =
      sintKorr width stored.ptr + 128 * 256 ^ (width - 1) := by
  obtain ⟨top, rest, reversed⟩ : ∃ top rest, stored.ptr.reverse = top :: rest := by
    cases h : stored.ptr.reverse with
    | nil =>
      have length : stored.ptr.reverse.length = width := by
        rw [List.length_reverse, stored.length_eq]
      rw [h, List.length_nil] at length
      omega
    | cons top rest => exact ⟨top, rest, rfl⟩
  have restLength : rest.length = width - 1 := by
    have length : stored.ptr.reverse.length = width := by
      rw [List.length_reverse, stored.length_eq]
    rw [reversed, List.length_cons] at length
    omega
  have topSmall := byte_lt_of_mem_reverse stored (reversed ▸ List.mem_cons_self)
  have restSmall : ∀ byte ∈ rest, byte < 256 := fun byte member =>
    byte_lt_of_mem_reverse stored (reversed ▸ List.mem_cons_of_mem _ member)
  have restBelow := Positional.value_lt 256 rest restSmall
  have unsigned : uintKorr width stored.ptr = top * 256 ^ (width - 1) + Positional.value 256 rest := by
    rw [uintKorr, reverse_take, reversed, Positional.value_cons, restLength]
  have whole : (256 : ℤ) ^ width = 256 * 256 ^ (width - 1) := by
    rw [← pow_succ', Nat.sub_add_cancel positive]
  have image : intFieldSortString width false stored.ptr = (top ^^^ 128) :: rest := by
    rw [intFieldSortString, reverse_take, reversed]
    rfl
  rw [image, Positional.value_cons, restLength, sintKorr, unsigned]
  rw [restLength] at restBelow
  by_cases high : 128 ≤ top
  · -- a negative number: the sign bit is cleared and half the range is added
    have scaled : 128 * 256 ^ (width - 1) ≤ top * 256 ^ (width - 1) :=
      Nat.mul_le_mul_right _ high
    rw [Decimal.xor_0x80_of_ge high topSmall, if_pos (by omega), Nat.sub_mul]
    push_cast [Nat.cast_sub scaled]
    rw [whole]
    ring
  · -- a non-negative number: the sign bit is set
    have scaled : top * 256 ^ (width - 1) + 256 ^ (width - 1) ≤ 128 * 256 ^ (width - 1) := by
      rw [← Nat.succ_mul]
      exact Nat.mul_le_mul_right _ (by omega)
    rw [Decimal.xor_0x80_of_lt (by omega), if_neg (by omega)]
    push_cast
    ring

/-- `memcmp` on the keys of two values of an integer field is the field's `cmp`. -/
theorem compare_intFieldSortString (positive : 0 < width) (unsignedFlag : Bool)
    (a b : StoredValue width) :
    compare (intFieldSortString width unsignedFlag a.ptr)
        (intFieldSortString width unsignedFlag b.ptr) =
      compare (intFieldCmp width unsignedFlag a.ptr b.ptr) 0 := by
  rw [Positional.compare_eq_compare_value 256 _ _
      (by rw [length_intFieldSortString, length_intFieldSortString])
      (fun _ member => byte_lt_of_mem_intFieldSortString unsignedFlag a member)
      (fun _ member => byte_lt_of_mem_intFieldSortString unsignedFlag b member),
    intFieldCmp]
  cases unsignedFlag
  · rw [if_neg Bool.false_ne_true, compare_threeWayCmp, ← cmp_eq_compare, ← cmp_eq_compare,
      ← (Nat.strictMono_cast (α := ℤ)).cmp_map_eq, value_intFieldSortString_signed positive,
      value_intFieldSortString_signed positive, cmp_add_right]
  · rw [if_pos rfl, compare_threeWayCmp, value_intFieldSortString_unsigned,
      value_intFieldSortString_unsigned]

end IntegerKeys

/-! ### Floating-point fields -/

/-- `FLT_MANT_DIG`: the significand of a `float`, hidden bit included. -/
def fltMantDig : ℕ := 24

/-- `DBL_MANT_DIG`: the significand of a `double`, hidden bit included. -/
def dblMantDig : ℕ := 53

/-- `FLT_EXP_DIG`: `sizeof(float)*8-FLT_MANT_DIG`. -/
def fltExpDig : ℕ := 4 * 8 - fltMantDig

/-- `DBL_EXP_DIG`: `sizeof(double)*8-DBL_MANT_DIG`. -/
def dblExpDig : ℕ := 8 * 8 - dblMantDig

/-- The trailing significand of a number of `width` bytes with `expDig` exponent bits: every
bit below the exponent field. -/
def floatFractionBits (width expDig : ℕ) : ℕ := 8 * width - 1 - expDig

/-- The number that the `width` bytes at `ptr` stand for as a floating-point number with
`expDig` exponent bits. -/
def floatValue (width expDig : ℕ) (ptr : List ℕ) : ℚ :=
  BinaryFloat.finiteValue expDig (floatFractionBits width expDig) (uintKorr width ptr)

/-- The `width` bytes at `ptr` are a finite number: neither an infinity nor a NaN. -/
def IsFiniteFloat (width expDig : ℕ) (ptr : List ℕ) : Prop :=
  BinaryFloat.IsFinite expDig (floatFractionBits width expDig) (uintKorr width ptr)

instance (width expDig : ℕ) (ptr : List ℕ) : Decidable (IsFiniteFloat width expDig ptr) :=
  inferInstanceAs (Decidable (BinaryFloat.IsFinite _ _ _))

/-- `float4get`. -/
def float4get (ptr : List ℕ) : ℚ := floatValue 4 fltExpDig ptr

/-- `float8get`. -/
def float8get (ptr : List ℕ) : ℚ := floatValue 8 dblExpDig ptr

/-- The body of `change_double_for_sort` and of `Field_float::sort_string` on a little-endian
host, for the `width` bytes at `ptr` of a number with `expDig` exponent bits. -/
def sortFloatBytes (width expDig : ℕ) (ptr : List ℕ) : List ℕ :=
  if floatValue width expDig ptr = 0 then 128 :: List.replicate (width - 1) 0
  else
    match (ptr.take width).reverse with
    | top :: next :: rest =>
      if top &&& 128 ≠ 0 then (top :: next :: rest).map (· ^^^ 255)
      else
        -- `exp_part` is a `ushort`: the sum is taken modulo `2 ^ 16`
        let expPart := ((top <<< 8 ||| next ||| 32768) + 1 <<< (16 - 1 - expDig)) % 2 ^ 16
        expPart >>> 8 :: expPart % 256 :: rest
    | tmp => tmp

/-- `change_double_for_sort(nr, to)`, for the bytes of `nr`. -/
def changeDoubleForSort (nr : List ℕ) : List ℕ := sortFloatBytes 8 dblExpDig nr

/-- `Field_float::cmp`. -/
def FieldFloat.cmp (aPtr bPtr : List ℕ) : ℤ := threeWayCmp (float4get aPtr) (float4get bPtr)

/-- `Field_float::sort_string`. -/
def FieldFloat.sortString (ptr : List ℕ) : List ℕ := sortFloatBytes 4 fltExpDig ptr

/-- `Field_double::cmp`. -/
def FieldDouble.cmp (aPtr bPtr : List ℕ) : ℤ := threeWayCmp (float8get aPtr) (float8get bPtr)

/-- `Field_double::sort_string`: `float8get` copies the bytes to `nr` for
`change_double_for_sort`. -/
def FieldDouble.sortString (ptr : List ℕ) : List ℕ := changeDoubleForSort ptr

section FloatKeys

variable {w expDig : ℕ}

/-- `tmp[0] & 128` tests the sign bit. -/
theorem and_128_eq_zero_iff {byte : ℕ} (small : byte < 256) : byte &&& 128 = 0 ↔ byte < 128 := by
  rw [show (128 : ℕ) = 2 ^ 7 from rfl, Nat.and_two_pow]
  by_cases low : byte < 2 ^ 7
  · rw [Nat.testBit_lt_two_pow low]
    simp only [Bool.toNat_false, Nat.zero_mul, true_iff]
    exact low
  · obtain ⟨rest, rfl⟩ : ∃ rest, byte = 2 ^ 7 + rest := ⟨byte - 2 ^ 7, by omega⟩
    rw [Nat.testBit_two_pow_add_eq, Nat.testBit_lt_two_pow (show rest < 2 ^ 7 by omega)]
    simp only [Bool.not_false, Bool.toNat_true, Nat.one_mul]
    omega

/-- `tmp[i] ^ (uchar) 255` complements a byte. -/
theorem xor_255_eq {byte : ℕ} (small : byte < 256) : byte ^^^ 255 = 255 - byte := by
  apply Nat.eq_of_testBit_eq
  intro i
  rw [show 255 - byte = 2 ^ 8 - (byte + 1) by omega, Nat.testBit_two_pow_sub_succ small,
    Nat.testBit_xor, show (255 : ℕ) = 2 ^ 8 - 1 from rfl, Nat.testBit_two_pow_sub_one]
  by_cases low : i < 8
  · simp [low]
  · -- no bit of a byte lies at or above the eighth
    have wide : 2 ^ 8 ≤ 2 ^ i := Nat.pow_le_pow_right (by norm_num) (by omega)
    have high : byte.testBit i = false := Nat.testBit_lt_two_pow (by omega)
    simp [low, high]

/-- The top sixteen bits of a non-negative number with the sign bit set and one added to
the exponent field, before the cast to `ushort`. -/
theorem expPart_eq {top next : ℕ} (topSmall : top < 128) (nextSmall : next < 256) :
    (top <<< 8 ||| next ||| 32768) + 1 <<< (16 - 1 - expDig) =
      256 * top + next + 32768 + 2 ^ (15 - expDig) := by
  have bytes : top <<< 8 ||| next = 256 * top + next := by
    rw [← Nat.shiftLeft_add_eq_or_of_lt (show next < 2 ^ 8 by omega), Nat.shiftLeft_eq,
      Nat.mul_comm]
  have signBit : 256 * top + next ||| 2 ^ 15 = 256 * top + next + 2 ^ 15 :=
    Nat.or_two_pow_eq_add_of_lt (by omega)
  rw [bytes, show (32768 : ℕ) = 2 ^ 15 from rfl, signBit, Nat.one_shiftLeft]

/-- The stored bytes of a number of `w + 2` bytes, most significant first. -/
theorem reverse_eq_cons_cons (stored : StoredValue (w + 2)) :
    ∃ top next rest, stored.ptr.reverse = top :: next :: rest ∧ rest.length = w := by
  have length : stored.ptr.reverse.length = w + 2 := by
    rw [List.length_reverse, stored.length_eq]
  rcases reversed : stored.ptr.reverse with _ | ⟨top, _ | ⟨next, rest⟩⟩
  · rw [reversed, List.length_nil] at length
    omega
  · rw [reversed, List.length_singleton] at length
    omega
  · rw [reversed, List.length_cons, List.length_cons] at length
    exact ⟨top, next, rest, rfl, by omega⟩

theorem length_sortFloatBytes (stored : StoredValue (w + 2)) :
    (sortFloatBytes (w + 2) expDig stored.ptr).length = w + 2 := by
  obtain ⟨top, next, rest, reversed, restLength⟩ := reverse_eq_cons_cons stored
  unfold sortFloatBytes
  split_ifs
  · rw [List.length_cons, List.length_replicate]
    omega
  · rw [reverse_take, reversed]
    dsimp only
    split_ifs <;> simp [restLength]

theorem byte_lt_of_mem_sortFloatBytes (stored : StoredValue (w + 2)) {byte : ℕ}
    (member : byte ∈ sortFloatBytes (w + 2) expDig stored.ptr) : byte < 256 := by
  obtain ⟨top, next, rest, reversed, -⟩ := reverse_eq_cons_cons stored
  have small : ∀ byte ∈ top :: next :: rest, byte < 256 := fun byte member =>
    byte_lt_of_mem_reverse stored (reversed ▸ member)
  unfold sortFloatBytes at member
  split_ifs at member
  · rcases List.mem_cons.mp member with head | zero
    · omega
    · rw [List.eq_of_mem_replicate zero]
      omega
  · rw [reverse_take, reversed] at member
    dsimp only at member
    split_ifs at member
    · obtain ⟨original, mem, rfl⟩ := List.mem_map.mp member
      exact Nat.xor_lt_two_pow (n := 8) (small original mem) (by norm_num)
    · rcases List.mem_cons.mp member with high | member
      · rw [high, Nat.shiftRight_eq_div_pow]
        exact Nat.div_lt_of_lt_mul (Nat.mod_lt _ (by norm_num))
      rcases List.mem_cons.mp member with low | tail
      · rw [low]
        exact Nat.mod_lt _ (by norm_num)
      · exact small byte (List.mem_cons_of_mem _ (List.mem_cons_of_mem _ tail))

/-- The fields of a number of `w + 2` bytes with at most fifteen exponent bits, weighed in
bytes: the sign bit, the whole width, and the least bit of the exponent field. -/
theorem fieldWeights (expSmall : expDig ≤ 15) :
    2 ^ (expDig + floatFractionBits (w + 2) expDig) = 32768 * 256 ^ w ∧
      2 ^ (expDig + floatFractionBits (w + 2) expDig + 1) = 256 ^ (w + 2) ∧
      2 ^ floatFractionBits (w + 2) expDig = 2 ^ (15 - expDig) * 256 ^ w := by
  have bytes : ∀ n, 2 ^ (8 * n) = 256 ^ n := fun n => by rw [pow_mul]; rfl
  have width : expDig + floatFractionBits (w + 2) expDig = 8 * w + 15 := by
    unfold floatFractionBits
    omega
  have fraction : floatFractionBits (w + 2) expDig = 15 - expDig + 8 * w := by
    unfold floatFractionBits
    omega
  refine ⟨?_, ?_, ?_⟩
  · rw [width, pow_add, bytes, Nat.mul_comm]
    rfl
  · rw [width, show 8 * w + 15 + 1 = 8 * (w + 2) by ring, bytes]
  · rw [fraction, pow_add, bytes]

/-- The bytes written for a positive number: the top two bytes hold the sign bit and the
exponent field raised by one. -/
theorem value_expPart {top next : ℕ} (rest : List ℕ) (topSmall : top < 128) (nextSmall : next < 256)
    (room : 256 * top + next + 2 ^ (15 - expDig) < 32768) :
    Positional.value 256
        ((((top <<< 8 ||| next ||| 32768) + 1 <<< (16 - 1 - expDig)) % 2 ^ 16) >>> 8 ::
          ((top <<< 8 ||| next ||| 32768) + 1 <<< (16 - 1 - expDig)) % 2 ^ 16 % 256 :: rest) =
      (256 * top + next + 32768 + 2 ^ (15 - expDig)) * 256 ^ rest.length +
        Positional.value 256 rest := by
  have fits : 256 * top + next + 32768 + 2 ^ (15 - expDig) < 2 ^ 16 := by
    generalize 256 * top + next = fields at room ⊢
    rw [show (2 : ℕ) ^ 16 = 65536 from rfl]
    omega
  rw [expPart_eq topSmall nextSmall, Nat.mod_eq_of_lt fits, Positional.value_cons,
    Positional.value_cons, List.length_cons, pow_succ, Nat.shiftRight_eq_div_pow,
    show (2 : ℕ) ^ 8 = 256 from rfl]
  generalize 256 * top + next + 32768 + 2 ^ (15 - expDig) = expPart
  have split := Nat.div_add_mod' expPart 256
  calc expPart / 256 * (256 ^ rest.length * 256) + (expPart % 256 * 256 ^ rest.length +
        Positional.value 256 rest)
      = (expPart / 256 * 256 + expPart % 256) * 256 ^ rest.length + Positional.value 256 rest := by
        ring
    _ = expPart * 256 ^ rest.length + Positional.value 256 rest := by rw [split]

/-- The bytes written for a finite number denote its key. -/
theorem value_sortFloatBytes (expSmall : expDig ≤ 15) (stored : StoredValue (w + 2))
    (finite : IsFiniteFloat (w + 2) expDig stored.ptr) :
    Positional.value 256 (sortFloatBytes (w + 2) expDig stored.ptr) =
      BinaryFloat.sortKey expDig (floatFractionBits (w + 2) expDig) (uintKorr (w + 2) stored.ptr) := by
  obtain ⟨signWeight, fullWeight, hiddenWeight⟩ := fieldWeights (w := w) expSmall
  obtain ⟨top, next, rest, reversed, restLength⟩ := reverse_eq_cons_cons stored
  have small : ∀ byte ∈ top :: next :: rest, byte < 256 := fun byte member =>
    byte_lt_of_mem_reverse stored (reversed ▸ member)
  have topSmall := small top List.mem_cons_self
  have nextSmall := small next (List.mem_cons_of_mem _ List.mem_cons_self)
  have restBelow : Positional.value 256 rest < 256 ^ w := restLength ▸
    Positional.value_lt 256 rest fun byte member =>
      small byte (List.mem_cons_of_mem _ (List.mem_cons_of_mem _ member))
  have whole : Positional.value 256 (top :: next :: rest) = uintKorr (w + 2) stored.ptr := by
    rw [uintKorr, reverse_take, reversed]
  have bits : uintKorr (w + 2) stored.ptr = (256 * top + next) * 256 ^ w + Positional.value 256 rest := by
    rw [← whole, Positional.value_cons, Positional.value_cons, List.length_cons, restLength, pow_succ]
    ring
  unfold sortFloatBytes
  by_cases zero : floatValue (w + 2) expDig stored.ptr = 0
  · -- both zeros: `0x80` and zero bytes
    have magnitudeZero := (BinaryFloat.finiteValue_eq_zero_iff _).mp zero
    rw [if_pos zero, BinaryFloat.sortKey, if_pos magnitudeZero, Positional.value_cons,
      List.length_replicate, Positional.value_replicate_zero, signWeight,
      show w + 2 - 1 = w + 1 by omega, pow_succ]
    ring
  have magnitudeNonzero : BinaryFloat.magnitude expDig (floatFractionBits (w + 2) expDig)
      (uintKorr (w + 2) stored.ptr) ≠ 0 := fun magnitudeZero =>
    zero ((BinaryFloat.finiteValue_eq_zero_iff _).mpr magnitudeZero)
  rw [if_neg zero, reverse_take, reversed, BinaryFloat.sortKey, if_neg magnitudeNonzero]
  dsimp only
  by_cases low : top < 128
  · -- a positive number: the sign bit is set and the exponent field raised by one
    have scaled : (256 * top + next) * 256 ^ w ≤ 32767 * 256 ^ w :=
      Nat.mul_le_mul_right _ (by omega)
    have positive : BinaryFloat.negative expDig (floatFractionBits (w + 2) expDig)
        (uintKorr (w + 2) stored.ptr) = false := by
      rw [BinaryFloat.negative, signWeight, decide_eq_false_iff_not]
      omega
    have magnitude : BinaryFloat.magnitude expDig (floatFractionBits (w + 2) expDig)
        (uintKorr (w + 2) stored.ptr) = uintKorr (w + 2) stored.ptr := by
      rw [BinaryFloat.magnitude, signWeight, Nat.mod_eq_of_lt (by omega)]
    -- finiteness leaves room in the top sixteen bits for the raised exponent
    have room : 256 * top + next + 2 ^ (15 - expDig) < 32768 := by
      have exponentRoom : (2 ^ expDig - 1) * 2 ^ (15 - expDig) + 2 ^ (15 - expDig) = 32768 := by
        rw [← Nat.succ_mul, Nat.succ_eq_add_one, Nat.sub_add_cancel Nat.one_le_two_pow,
          ← pow_add, Nat.add_sub_cancel' expSmall]
        rfl
      have bound : (256 * top + next) * 256 ^ w < (2 ^ expDig - 1) * 2 ^ (15 - expDig) * 256 ^ w := by
        unfold IsFiniteFloat BinaryFloat.IsFinite at finite
        rw [magnitude, hiddenWeight, bits, ← Nat.mul_assoc] at finite
        omega
      have fieldsLess := Nat.lt_of_mul_lt_mul_right bound
      generalize (2 ^ expDig - 1) * 2 ^ (15 - expDig) = below at exponentRoom fieldsLess
      generalize 256 * top + next = fields at fieldsLess ⊢
      omega
    have clear : ¬top &&& 128 ≠ 0 := by
      rw [not_not, and_128_eq_zero_iff topSmall]
      exact low
    rw [if_neg clear, positive, if_neg Bool.false_ne_true,
      value_expPart rest low nextSmall room, restLength, signWeight, hiddenWeight, bits]
    ring
  · -- a negative number: every byte is complemented
    have high : top &&& 128 ≠ 0 := by rw [Ne, and_128_eq_zero_iff topSmall]; exact low
    have scaled : 128 * 256 * 256 ^ w ≤ (256 * top + next) * 256 ^ w :=
      Nat.mul_le_mul_right _ (by omega)
    have negative : BinaryFloat.negative expDig (floatFractionBits (w + 2) expDig)
        (uintKorr (w + 2) stored.ptr) = true := by
      rw [BinaryFloat.negative, signWeight, decide_eq_true_iff]
      omega
    have complement : (top :: next :: rest).map (· ^^^ 255) = (top :: next :: rest).map (255 - ·) :=
      List.map_congr_left fun byte member => xor_255_eq (small byte member)
    rw [if_pos high, complement, Positional.value_map_complement _ small, whole, negative,
      if_pos rfl, fullWeight, List.length_cons, List.length_cons, restLength]

/-- `memcmp` on the keys of two finite numbers of `w + 2` bytes orders them as their values. -/
theorem compare_sortFloatBytes (expSmall : expDig ≤ 15) (a b : StoredValue (w + 2))
    (finiteA : IsFiniteFloat (w + 2) expDig a.ptr) (finiteB : IsFiniteFloat (w + 2) expDig b.ptr) :
    compare (sortFloatBytes (w + 2) expDig a.ptr) (sortFloatBytes (w + 2) expDig b.ptr) =
      compare (floatValue (w + 2) expDig a.ptr) (floatValue (w + 2) expDig b.ptr) := by
  obtain ⟨-, fullWeight, -⟩ := fieldWeights (w := w) expSmall
  have wordA : uintKorr (w + 2) a.ptr < 2 ^ (expDig + floatFractionBits (w + 2) expDig + 1) :=
    fullWeight ▸ uintKorr_lt a
  have wordB : uintKorr (w + 2) b.ptr < 2 ^ (expDig + floatFractionBits (w + 2) expDig + 1) :=
    fullWeight ▸ uintKorr_lt b
  rw [Positional.compare_eq_compare_value 256 _ _
      (by rw [length_sortFloatBytes, length_sortFloatBytes])
      (fun _ member => byte_lt_of_mem_sortFloatBytes a member)
      (fun _ member => byte_lt_of_mem_sortFloatBytes b member),
    value_sortFloatBytes expSmall a finiteA, value_sortFloatBytes expSmall b finiteB,
    BinaryFloat.compare_sortKey wordA wordB]
  rfl

end FloatKeys

/-! ### The order of the keys -/

/-- For the integer fields of every width and signedness, and for `FLOAT` and `DOUBLE` fields
holding finite values, `memcmp` on the sort keys of two stored values has the sign of the
field's `cmp`; the keys that `change_double_for_sort` writes for finite `double`s order them
as numbers, both zeros alike. -/
theorem sort_string_order :
    (∀ (unsignedFlag : Bool) (a b : StoredValue 1),
      compare (FieldTiny.sortString unsignedFlag a.ptr) (FieldTiny.sortString unsignedFlag b.ptr) =
        compare (FieldTiny.cmp unsignedFlag a.ptr b.ptr) 0) ∧
    (∀ (unsignedFlag : Bool) (a b : StoredValue 2),
      compare (FieldShort.sortString unsignedFlag a.ptr) (FieldShort.sortString unsignedFlag b.ptr) =
        compare (FieldShort.cmp unsignedFlag a.ptr b.ptr) 0) ∧
    (∀ (unsignedFlag : Bool) (a b : StoredValue 3),
      compare (FieldMedium.sortString unsignedFlag a.ptr)
          (FieldMedium.sortString unsignedFlag b.ptr) =
        compare (FieldMedium.cmp unsignedFlag a.ptr b.ptr) 0) ∧
    (∀ (unsignedFlag : Bool) (a b : StoredValue 4),
      compare (FieldLong.sortString unsignedFlag a.ptr) (FieldLong.sortString unsignedFlag b.ptr) =
        compare (FieldLong.cmp unsignedFlag a.ptr b.ptr) 0) ∧
    (∀ (unsignedFlag : Bool) (a b : StoredValue 8),
      compare (FieldLonglong.sortString unsignedFlag a.ptr)
          (FieldLonglong.sortString unsignedFlag b.ptr) =
        compare (FieldLonglong.cmp unsignedFlag a.ptr b.ptr) 0) ∧
    (∀ a b : StoredValue 4, IsFiniteFloat 4 fltExpDig a.ptr → IsFiniteFloat 4 fltExpDig b.ptr →
      compare (FieldFloat.sortString a.ptr) (FieldFloat.sortString b.ptr) =
        compare (FieldFloat.cmp a.ptr b.ptr) 0) ∧
    (∀ a b : StoredValue 8, IsFiniteFloat 8 dblExpDig a.ptr → IsFiniteFloat 8 dblExpDig b.ptr →
      compare (FieldDouble.sortString a.ptr) (FieldDouble.sortString b.ptr) =
        compare (FieldDouble.cmp a.ptr b.ptr) 0) ∧
    (∀ nr nr' : StoredValue 8, IsFiniteFloat 8 dblExpDig nr.ptr →
      IsFiniteFloat 8 dblExpDig nr'.ptr →
      compare (changeDoubleForSort nr.ptr) (changeDoubleForSort nr'.ptr) =
        compare (float8get nr.ptr) (float8get nr'.ptr)) := by
  have expSmall : fltExpDig ≤ 15 ∧ dblExpDig ≤ 15 := by decide
  refine ⟨fun unsignedFlag a b => compare_intFieldSortString (by decide) unsignedFlag a b,
    fun unsignedFlag a b => compare_intFieldSortString (by decide) unsignedFlag a b,
    fun unsignedFlag a b => compare_intFieldSortString (by decide) unsignedFlag a b,
    fun unsignedFlag a b => compare_intFieldSortString (by decide) unsignedFlag a b,
    fun unsignedFlag a b => compare_intFieldSortString (by decide) unsignedFlag a b, ?_, ?_, ?_⟩
  · intro a b finiteA finiteB
    rw [FieldFloat.cmp, compare_threeWayCmp]
    exact compare_sortFloatBytes (w := 2) expSmall.1 a b finiteA finiteB
  · intro a b finiteA finiteB
    rw [FieldDouble.cmp, compare_threeWayCmp]
    exact compare_sortFloatBytes (w := 6) expSmall.2 a b finiteA finiteB
  · intro nr nr' finite finite'
    exact compare_sortFloatBytes (w := 6) expSmall.2 nr nr' finite finite'

/-- `1.0` is `3F F0 00 ..`: the sign bit set and the exponent field raised by one. -/
example : changeDoubleForSort [0, 0, 0, 0, 0, 0, 240, 63] = [192, 0, 0, 0, 0, 0, 0, 0] := by
  decide +kernel

/-- `-1.0f` below `1.0f`, and the two zeros of a `double` alike. -/
theorem sort_string_order_signedZero :
    compare (FieldFloat.sortString [0, 0, 128, 191]) (FieldFloat.sortString [0, 0, 128, 63]) =
        compare (FieldFloat.cmp [0, 0, 128, 191] [0, 0, 128, 63]) 0 ∧
      compare (FieldDouble.sortString [0, 0, 0, 0, 0, 0, 0, 128])
          (FieldDouble.sortString [0, 0, 0, 0, 0, 0, 0, 0]) =
        compare (FieldDouble.cmp [0, 0, 0, 0, 0, 0, 0, 128] [0, 0, 0, 0, 0, 0, 0, 0]) 0 ∧
      compare (changeDoubleForSort [0, 0, 0, 0, 0, 0, 0, 128])
          (changeDoubleForSort [0, 0, 0, 0, 0, 0, 0, 0]) =
        compare (float8get [0, 0, 0, 0, 0, 0, 0, 128]) (float8get [0, 0, 0, 0, 0, 0, 0, 0]) :=
  ⟨sort_string_order.2.2.2.2.2.1 ⟨[0, 0, 128, 191], rfl, by decide⟩ ⟨[0, 0, 128, 63], rfl, by decide⟩
      (by decide) (by decide),
    sort_string_order.2.2.2.2.2.2.1 ⟨[0, 0, 0, 0, 0, 0, 0, 128], rfl, by decide⟩
      ⟨[0, 0, 0, 0, 0, 0, 0, 0], rfl, by decide⟩ (by decide) (by decide),
    sort_string_order.2.2.2.2.2.2.2 ⟨[0, 0, 0, 0, 0, 0, 0, 128], rfl, by decide⟩
      ⟨[0, 0, 0, 0, 0, 0, 0, 0], rfl, by decide⟩ (by decide) (by decide)⟩

end MariaDB.Sql
