/-
The compressed integers of InnoDB's `mach0data.inl`.

A 32-bit integer is written in one to five bytes, big-endian, and the leading one bits of the
first byte say how many: `0nnnnnnn` holds 7 bits, `10nnnnnn` and one more byte 14,
`110nnnnn` and two more 21, `1110nnnn` and three more 28, and `11110000` is followed by the
whole value in four bytes. A 64-bit integer is written either as the compressed high half and
four plain bytes of the low half (`mach_u64_write_compressed`), or, "much compressed", as the
compressed value when it fits in 32 bits and otherwise as a marker byte `0xFF` followed by the
compressed high and low halves.

Memory is modelled as a function from addresses to bytes and a `byte*` as an address; a writer
returns the memory after its stores and the size it returns, a reader that advances its
pointer returns the address after what it read. The debug assertions `ut_ad` are not modelled.
Every reader that advances its pointer is shown to take back what its writer wrote, at any
address and whatever follows in memory, and to advance by exactly the size the writer returned;
every writer changes no byte outside that size.
-/

import MariaDB.Library.ByteStore

namespace MariaDB.Mach

open ByteStore (store load load_store store_of_outside load_congr toNat_store_self)

/-! ### Fixed-width big-endian integers -/

/-- `mach_write_to_1`. -/
def machWriteTo1 (mem : ℕ → UInt8) (b n : ℕ) : ℕ → UInt8 :=
  Function.update mem b n.toUInt8

/-- `mach_write_to_2`: the most significant byte at the lowest address. -/
def machWriteTo2 (mem : ℕ → UInt8) (b n : ℕ) : ℕ → UInt8 :=
  let mem := Function.update mem b (n >>> 8).toUInt8
  Function.update mem (b + 1) n.toUInt8

/-- `mach_write_to_3`. -/
def machWriteTo3 (mem : ℕ → UInt8) (b n : ℕ) : ℕ → UInt8 :=
  let mem := Function.update mem b (n >>> 16).toUInt8
  let mem := Function.update mem (b + 1) (n >>> 8).toUInt8
  Function.update mem (b + 2) n.toUInt8

/-- `mach_write_to_4`. -/
def machWriteTo4 (mem : ℕ → UInt8) (b n : ℕ) : ℕ → UInt8 :=
  let mem := Function.update mem b (n >>> 24).toUInt8
  let mem := Function.update mem (b + 1) (n >>> 16).toUInt8
  let mem := Function.update mem (b + 2) (n >>> 8).toUInt8
  Function.update mem (b + 3) n.toUInt8

/-- `mach_read_from_1`. -/
def machReadFrom1 (mem : ℕ → UInt8) (b : ℕ) : ℕ := (mem b).toNat

/-- `mach_read_from_2`. -/
def machReadFrom2 (mem : ℕ → UInt8) (b : ℕ) : ℕ :=
  (mem b).toNat <<< 8 ||| (mem (b + 1)).toNat

/-- `mach_read_from_3`. -/
def machReadFrom3 (mem : ℕ → UInt8) (b : ℕ) : ℕ :=
  (mem b).toNat <<< 16 ||| (mem (b + 1)).toNat <<< 8 ||| (mem (b + 2)).toNat

/-- `mach_read_from_4`. -/
def machReadFrom4 (mem : ℕ → UInt8) (b : ℕ) : ℕ :=
  (mem b).toNat <<< 24 ||| (mem (b + 1)).toNat <<< 16 ||| (mem (b + 2)).toNat <<< 8 |||
    (mem (b + 3)).toNat

section Fixed

variable (mem : ℕ → UInt8) (b : ℕ)

theorem machWriteTo1_eq (n : ℕ) : machWriteTo1 mem b n = store mem b 1 n := rfl

theorem machWriteTo2_eq (n : ℕ) : machWriteTo2 mem b n = store mem b 2 n := rfl

theorem machWriteTo3_eq (n : ℕ) : machWriteTo3 mem b n = store mem b 3 n := rfl

theorem machWriteTo4_eq (n : ℕ) : machWriteTo4 mem b n = store mem b 4 n := rfl

theorem machReadFrom2_eq : machReadFrom2 mem b = load mem b 2 := by
  rw [machReadFrom2, BitFields.shiftLeft_lor_eq_add _ 8 (UInt8.toNat_lt _)]
  simp only [load]
  omega

theorem machReadFrom3_eq : machReadFrom3 mem b = load mem b 3 := by
  rw [machReadFrom3, BitFields.bytes_lor_three _ (UInt8.toNat_lt _) (UInt8.toNat_lt _)]
  simp only [load, Nat.add_assoc, Nat.reduceAdd]
  omega

theorem machReadFrom4_eq : machReadFrom4 mem b = load mem b 4 := by
  rw [machReadFrom4,
    BitFields.bytes_lor_four _ (UInt8.toNat_lt _) (UInt8.toNat_lt _) (UInt8.toNat_lt _)]
  simp only [load, Nat.add_assoc, Nat.reduceAdd]
  omega

end Fixed

/-! ### Compressed 32-bit integers -/

/-- `mach_write_compressed`: the memory after its stores and the size it returns. -/
def machWriteCompressed (mem : ℕ → UInt8) (b n : ℕ) : (ℕ → UInt8) × ℕ :=
  if n < 0x80 then
    -- 0nnnnnnn (7 bits)
    (machWriteTo1 mem b n, 1)
  else if n < 0x4000 then
    -- 10nnnnnn nnnnnnnn (14 bits)
    (machWriteTo2 mem b (n ||| 0x8000), 2)
  else if n < 0x200000 then
    -- 110nnnnn nnnnnnnn nnnnnnnn (21 bits)
    (machWriteTo3 mem b (n ||| 0xC00000), 3)
  else if n < 0x10000000 then
    -- 1110nnnn nnnnnnnn nnnnnnnn nnnnnnnn (28 bits)
    (machWriteTo4 mem b (n ||| 0xE0000000), 4)
  else
    -- 11110000 nnnnnnnn nnnnnnnn nnnnnnnn nnnnnnnn (32 bits)
    (machWriteTo4 (machWriteTo1 mem b 0xF0) (b + 1) n, 5)

/-- `mach_get_compressed_size`. -/
def machGetCompressedSize (n : ℕ) : ℕ :=
  if n < 0x80 then 1
  else if n < 0x4000 then 2
  else if n < 0x200000 then 3
  else if n < 0x10000000 then 4
  else 5

/-- `mach_read_compressed`. -/
def machReadCompressed (mem : ℕ → UInt8) (b : ℕ) : ℕ :=
  let val := machReadFrom1 mem b
  if val < 0x80 then val
  else if val < 0xC0 then machReadFrom2 mem b &&& 0x3FFF
  else if val < 0xE0 then machReadFrom3 mem b &&& 0x1FFFFF
  else if val < 0xF0 then machReadFrom4 mem b &&& 0xFFFFFFF
  else machReadFrom4 mem (b + 1)

/-- `mach_read_next_compressed`: the value, cast to `ib_uint32_t`, and the address after it. -/
def machReadNextCompressed (mem : ℕ → UInt8) (b : ℕ) : ℕ × ℕ :=
  let val := machReadFrom1 mem b
  let read : ℕ × ℕ :=
    if val < 0x80 then (val, b + 1)
    else if val < 0xC0 then (machReadFrom2 mem b &&& 0x3FFF, b + 2)
    else if val < 0xE0 then (machReadFrom3 mem b &&& 0x1FFFFF, b + 3)
    else if val < 0xF0 then (machReadFrom4 mem b &&& 0xFFFFFFF, b + 4)
    else (machReadFrom4 mem (b + 1), b + 5)
  (read.1 % 2 ^ 32, read.2)

section Compressed

variable {mem : ℕ → UInt8} {b n : ℕ}

/-- `mach_write_compressed` stores the value with its length bits added, big-endian. -/
theorem machWriteCompressed_eq (mem : ℕ → UInt8) (b n : ℕ) : machWriteCompressed mem b n =
    if n < 0x80 then (store mem b 1 n, 1)
    else if n < 0x4000 then (store mem b 2 (0x8000 + n), 2)
    else if n < 0x200000 then (store mem b 3 (0xC00000 + n), 3)
    else if n < 0x10000000 then (store mem b 4 (0xE0000000 + n), 4)
    else (store (store mem b 1 0xF0) (b + 1) 4 n, 5) := by
  rw [machWriteCompressed, machWriteTo1_eq, machWriteTo2_eq, machWriteTo3_eq, machWriteTo4_eq,
    machWriteTo4_eq, machWriteTo1_eq]
  split_ifs with one two three four
  · rfl
  · rw [Nat.lor_comm, BitFields.lor_eq_add_of_lt 14 rfl (by omega)]
  · rw [Nat.lor_comm, BitFields.lor_eq_add_of_lt 21 rfl (by omega)]
  · rw [Nat.lor_comm, BitFields.lor_eq_add_of_lt 28 rfl (by omega)]
  · rfl

/-- `mach_read_next_compressed` reads the value below the length bits of the first byte. -/
theorem machReadNextCompressed_eq (mem : ℕ → UInt8) (b : ℕ) : machReadNextCompressed mem b =
    if (mem b).toNat < 0x80 then ((mem b).toNat, b + 1)
    else if (mem b).toNat < 0xC0 then (load mem b 2 % 2 ^ 14, b + 2)
    else if (mem b).toNat < 0xE0 then (load mem b 3 % 2 ^ 21, b + 3)
    else if (mem b).toNat < 0xF0 then (load mem b 4 % 2 ^ 28, b + 4)
    else (load mem (b + 1) 4, b + 5) := by
  have word := @ByteStore.load_lt mem (b + 1) 4
  have byte := UInt8.toNat_lt (mem b)
  rw [machReadNextCompressed, machReadFrom1, machReadFrom2_eq, machReadFrom3_eq,
    machReadFrom4_eq, machReadFrom4_eq, BitFields.and_mask_eq_mod _ 0x3FFF 14 rfl,
    BitFields.and_mask_eq_mod _ 0x1FFFFF 21 rfl, BitFields.and_mask_eq_mod _ 0xFFFFFFF 28 rfl]
  split_ifs <;> simp only [Prod.mk.injEq, and_true] <;> omega

/-- `mach_read_compressed` reads what `mach_read_next_compressed` reads. -/
theorem machReadCompressed_eq (mem : ℕ → UInt8) (b : ℕ) :
    machReadCompressed mem b = (machReadNextCompressed mem b).1 := by
  have word := @ByteStore.load_lt mem (b + 1) 4
  have byte := UInt8.toNat_lt (mem b)
  rw [machReadNextCompressed_eq, machReadCompressed, machReadFrom1, machReadFrom2_eq,
    machReadFrom3_eq, machReadFrom4_eq, machReadFrom4_eq, BitFields.and_mask_eq_mod _ 0x3FFF 14 rfl,
    BitFields.and_mask_eq_mod _ 0x1FFFFF 21 rfl, BitFields.and_mask_eq_mod _ 0xFFFFFFF 28 rfl]
  split_ifs <;> rfl

theorem machWriteCompressed_size (mem : ℕ → UInt8) (b n : ℕ) :
    (machWriteCompressed mem b n).2 = machGetCompressedSize n := by
  rw [machWriteCompressed_eq, machGetCompressedSize]
  split_ifs <;> rfl

/-- `mach_write_compressed` changes no byte outside the size it returns. -/
theorem machWriteCompressed_of_outside {q : ℕ}
    (outside : q < b ∨ b + machGetCompressedSize n ≤ q) :
    (machWriteCompressed mem b n).1 q = mem q := by
  rw [machWriteCompressed_eq]
  rw [machGetCompressedSize] at outside
  split_ifs at outside ⊢ <;> dsimp only
  · exact store_of_outside outside
  · exact store_of_outside outside
  · exact store_of_outside outside
  · exact store_of_outside outside
  · rw [store_of_outside (by omega), store_of_outside (by omega)]

theorem lt_machReadNextCompressed (mem : ℕ → UInt8) (b : ℕ) :
    b < (machReadNextCompressed mem b).2 := by
  rw [machReadNextCompressed_eq]
  split_ifs <;> simp

/-- `mach_read_next_compressed` reads no byte at or beyond the address it returns. -/
theorem machReadNextCompressed_congr {mem' : ℕ → UInt8}
    (agree : ∀ k, b + k < (machReadNextCompressed mem b).2 → mem' (b + k) = mem (b + k)) :
    machReadNextCompressed mem' b = machReadNextCompressed mem b := by
  have first : mem' b = mem b := agree 0 (lt_machReadNextCompressed mem b)
  rw [machReadNextCompressed_eq mem] at agree
  rw [machReadNextCompressed_eq, machReadNextCompressed_eq, first]
  split_ifs at agree ⊢
  · rfl
  · rw [@load_congr mem' mem b 2 fun k below => agree k (by simp only; omega)]
  · rw [@load_congr mem' mem b 3 fun k below => agree k (by simp only; omega)]
  · rw [@load_congr mem' mem b 4 fun k below => agree k (by simp only; omega)]
  · have shifted : ∀ k < 4, mem' (b + 1 + k) = mem (b + 1 + k) := fun k below => by
      rw [Nat.add_assoc]
      exact agree (1 + k) (by simp only; omega)
    rw [load_congr shifted]

/-- What `mach_write_compressed` wrote, `mach_read_next_compressed` reads back, stopping after
the size `mach_get_compressed_size` gives. -/
theorem machReadNextCompressed_machWriteCompressed (small : n < 2 ^ 32) :
    machReadNextCompressed (machWriteCompressed mem b n).1 b =
      (n, b + machGetCompressedSize n) := by
  rw [machWriteCompressed_eq, machGetCompressedSize]
  split_ifs with one two three four <;> dsimp only
  · rw [machReadNextCompressed_eq, toNat_store_self]
    simp only [Nat.reducePow, Nat.div_one]
    split_ifs <;> simp only [Prod.mk.injEq, and_true] <;> omega
  all_goals try rw [machReadNextCompressed_eq, toNat_store_self, load_store]
  all_goals try simp only [Nat.reducePow]
  · split_ifs <;> simp only [Prod.mk.injEq, and_true] <;> omega
  · split_ifs <;> simp only [Prod.mk.injEq, and_true] <;> omega
  · split_ifs <;> simp only [Prod.mk.injEq, and_true] <;> omega
  · have marker : store (store mem b 1 0xF0) (b + 1) 4 n b = store mem b 1 0xF0 b :=
      store_of_outside (by omega)
    rw [machReadNextCompressed_eq, marker, toNat_store_self, load_store]
    simp only [Nat.reducePow, Nat.div_one]
    split_ifs <;> simp only [Prod.mk.injEq, and_true] <;> omega

/-- The round trip whatever follows the written bytes in memory. -/
theorem machReadNextCompressed_of_written {mem' : ℕ → UInt8} (small : n < 2 ^ 32)
    (agree : ∀ k < machGetCompressedSize n,
      mem' (b + k) = (machWriteCompressed mem b n).1 (b + k)) :
    machReadNextCompressed mem' b = (n, b + machGetCompressedSize n) := by
  have written := @machReadNextCompressed_machWriteCompressed mem b n small
  rw [machReadNextCompressed_congr fun k below => agree k (by rw [written] at below; omega),
    written]

end Compressed

/-! ### 64-bit integers -/

/-- `mach_u64_write_compressed`: the high half compressed, then the low half in four bytes. -/
def machU64WriteCompressed (mem : ℕ → UInt8) (b n : ℕ) : (ℕ → UInt8) × ℕ :=
  let high := machWriteCompressed mem b (n >>> 32)
  (machWriteTo4 high.1 (b + high.2) n, high.2 + 4)

/-- `mach_u64_read_next_compressed`. -/
def machU64ReadNextCompressed (mem : ℕ → UInt8) (b : ℕ) : ℕ × ℕ :=
  let high := machReadNextCompressed mem b
  ((high.1 <<< 32) % 2 ^ 64 ||| machReadFrom4 mem high.2, high.2 + 4)

/-- `mach_u64_write_much_compressed`: the compressed value if it fits in 32 bits, else the
marker `0xFF` and the compressed halves. -/
def machU64WriteMuchCompressed (mem : ℕ → UInt8) (b n : ℕ) : (ℕ → UInt8) × ℕ :=
  if n >>> 32 = 0 then machWriteCompressed mem b n
  else
    let mem := Function.update mem b 0xFF
    let high := machWriteCompressed mem (b + 1) (n >>> 32)
    let size := 1 + high.2
    let low := machWriteCompressed high.1 (b + size) (n &&& 0xFFFFFFFF)
    (low.1, size + low.2)

/-- `mach_u64_read_much_compressed`. -/
def machU64ReadMuchCompressed (mem : ℕ → UInt8) (b : ℕ) : ℕ :=
  if mem b ≠ 0xFF then machReadCompressed mem b
  else
    let high := machReadNextCompressed mem (b + 1)
    (high.1 <<< 32) % 2 ^ 64 ||| machReadCompressed mem high.2

/-- `mach_read_next_much_compressed`: the cases of `mach_read_next_compressed` written out again,
with the marker `0xFF` in place of the first byte's last case. -/
def machReadNextMuchCompressed (mem : ℕ → UInt8) (b : ℕ) : ℕ × ℕ :=
  let val := machReadFrom1 mem b
  if val < 0x80 then (val, b + 1)
  else if val < 0xC0 then (machReadFrom2 mem b &&& 0x3FFF, b + 2)
  else if val < 0xE0 then (machReadFrom3 mem b &&& 0x1FFFFF, b + 3)
  else if val < 0xF0 then (machReadFrom4 mem b &&& 0xFFFFFFF, b + 4)
  else if val = 0xF0 then (machReadFrom4 mem (b + 1), b + 5)
  else
    -- 11111111 followed by up to 64 bits
    let high := machReadNextCompressed mem (b + 1)
    let low := machReadNextCompressed mem high.2
    ((high.1 <<< 32) % 2 ^ 64 ||| low.1, low.2)

section Wide

variable {mem : ℕ → UInt8} {b n : ℕ}

/-- The two halves put back together, as the readers of 64-bit integers do. -/
theorem halves_lor (small : n < 2 ^ 64) : ((n >>> 32) <<< 32) % 2 ^ 64 ||| n % 2 ^ 32 = n := by
  have aligned : (n >>> 32) <<< 32 = n / 2 ^ 32 * 2 ^ 32 := by
    rw [Nat.shiftLeft_eq, Nat.shiftRight_eq_div_pow]
  rw [aligned, Nat.mod_eq_of_lt (by omega),
    BitFields.lor_eq_add_of_lt 32 (Nat.mul_mod_left _ _) (Nat.mod_lt _ (by omega))]
  omega

theorem machU64WriteCompressed_size (mem : ℕ → UInt8) (b n : ℕ) :
    (machU64WriteCompressed mem b n).2 = machGetCompressedSize (n >>> 32) + 4 := by
  rw [machU64WriteCompressed, machWriteCompressed_size]

/-- `mach_u64_write_compressed` changes no byte outside the size it returns. -/
theorem machU64WriteCompressed_of_outside {q : ℕ}
    (outside : q < b ∨ b + machGetCompressedSize (n >>> 32) + 4 ≤ q) :
    (machU64WriteCompressed mem b n).1 q = mem q := by
  rw [machU64WriteCompressed]
  dsimp only
  rw [machWriteTo4_eq, machWriteCompressed_size, store_of_outside (by omega),
    machWriteCompressed_of_outside (by omega)]

/-- What `mach_u64_write_compressed` wrote, `mach_u64_read_next_compressed` reads back. -/
theorem machU64ReadNextCompressed_machU64WriteCompressed (small : n < 2 ^ 64) :
    machU64ReadNextCompressed (machU64WriteCompressed mem b n).1 b =
      (n, b + machGetCompressedSize (n >>> 32) + 4) := by
  have highSmall : n >>> 32 < 2 ^ 32 := by rw [Nat.shiftRight_eq_div_pow]; omega
  have high : machReadNextCompressed (machU64WriteCompressed mem b n).1 b =
      (n >>> 32, b + machGetCompressedSize (n >>> 32)) := by
    refine @machReadNextCompressed_of_written mem b (n >>> 32) _ highSmall fun k below => ?_
    rw [machU64WriteCompressed]
    dsimp only
    rw [machWriteTo4_eq, machWriteCompressed_size, store_of_outside (by omega)]
  have low : machReadFrom4 (machU64WriteCompressed mem b n).1
      (b + machGetCompressedSize (n >>> 32)) = n % 2 ^ 32 := by
    rw [machReadFrom4_eq, machU64WriteCompressed]
    dsimp only
    rw [machWriteTo4_eq, machWriteCompressed_size, load_store]
    rfl
  rw [machU64ReadNextCompressed, high]
  dsimp only
  rw [low, halves_lor small]

/-- The first byte of a compressed 32-bit integer is at most `0xF0`. -/
theorem machWriteCompressed_first_le (small : n < 2 ^ 32) :
    ((machWriteCompressed mem b n).1 b).toNat ≤ 0xF0 := by
  rw [machWriteCompressed_eq]
  split_ifs <;> dsimp only
  all_goals try rw [toNat_store_self]
  all_goals try simp only [Nat.reducePow]
  · omega
  · omega
  · omega
  · omega
  · rw [store_of_outside (by omega), toNat_store_self]
    simp only [Nat.reducePow]
    omega

/-- On a first byte up to `0xF0` the much-compressed reader reads as the compressed one. -/
theorem machReadNextMuchCompressed_of_le (first : (mem b).toNat ≤ 0xF0) :
    machReadNextMuchCompressed mem b = machReadNextCompressed mem b := by
  have word := @ByteStore.load_lt mem (b + 1) 4
  rw [machReadNextCompressed_eq, machReadNextMuchCompressed, machReadFrom1, machReadFrom2_eq,
    machReadFrom3_eq, machReadFrom4_eq, machReadFrom4_eq,
    BitFields.and_mask_eq_mod _ 0x3FFF 14 rfl, BitFields.and_mask_eq_mod _ 0x1FFFFF 21 rfl,
    BitFields.and_mask_eq_mod _ 0xFFFFFFF 28 rfl]
  split_ifs <;> first | rfl | omega

/-- `mach_u64_write_much_compressed` changes no byte outside the size it returns. -/
theorem machU64WriteMuchCompressed_of_outside {q : ℕ}
    (outside : q < b ∨ b + (machU64WriteMuchCompressed mem b n).2 ≤ q) :
    (machU64WriteMuchCompressed mem b n).1 q = mem q := by
  rw [machU64WriteMuchCompressed] at outside ⊢
  split_ifs at outside ⊢
  · rw [machWriteCompressed_size] at outside
    exact machWriteCompressed_of_outside outside
  · dsimp only at outside ⊢
    rw [machWriteCompressed_size, machWriteCompressed_size] at outside
    rw [machWriteCompressed_of_outside (by rw [machWriteCompressed_size]; omega),
      machWriteCompressed_of_outside (by omega), Function.update_of_ne (by omega)]

theorem machU64WriteMuchCompressed_of_fits (fits : n >>> 32 = 0) :
    machU64WriteMuchCompressed mem b n = machWriteCompressed mem b n := if_pos fits

/-- What `mach_u64_write_much_compressed` writes for a value above 32 bits: the marker, the
compressed high half after it and the compressed low half after that, up to the size it
returns. -/
theorem machU64WriteMuchCompressed_of_wide (small : n < 2 ^ 64) (wide : n >>> 32 ≠ 0) :
    (machU64WriteMuchCompressed mem b n).1 b = 0xFF ∧
    machReadNextCompressed (machU64WriteMuchCompressed mem b n).1 (b + 1) =
      (n >>> 32, b + 1 + machGetCompressedSize (n >>> 32)) ∧
    machReadNextCompressed (machU64WriteMuchCompressed mem b n).1
        (b + 1 + machGetCompressedSize (n >>> 32)) =
      (n % 2 ^ 32, b + (machU64WriteMuchCompressed mem b n).2) := by
  have highSmall : n >>> 32 < 2 ^ 32 := by rw [Nat.shiftRight_eq_div_pow]; omega
  have lowHalf : n &&& 0xFFFFFFFF = n % 2 ^ 32 := BitFields.and_mask_eq_mod _ _ 32 rfl
  have lowSmall : n % 2 ^ 32 < 2 ^ 32 := Nat.mod_lt _ (by omega)
  rw [machU64WriteMuchCompressed, if_neg wide, lowHalf]
  dsimp only
  -- the marker, the high half and the low half, each after the one before
  have highSize := machWriteCompressed_size (Function.update mem b 0xFF) (b + 1) (n >>> 32)
  refine ⟨?marker, ?high, ?low⟩
  case marker =>
    rw [machWriteCompressed_of_outside (Or.inl (by omega)),
      machWriteCompressed_of_outside (Or.inl (by omega))]
    exact Function.update_self b 0xFF mem
  case high =>
    exact machReadNextCompressed_of_written highSmall fun k below =>
      machWriteCompressed_of_outside (Or.inl (by omega))
  case low =>
    rw [← highSize, Nat.add_assoc b 1, machReadNextCompressed_machWriteCompressed lowSmall]
    simp only [machWriteCompressed_size, Nat.add_assoc]

/-- What `mach_u64_write_much_compressed` wrote, `mach_read_next_much_compressed` reads back,
stopping after the size the writer returned. -/
theorem machReadNextMuchCompressed_machU64WriteMuchCompressed (small : n < 2 ^ 64) :
    machReadNextMuchCompressed (machU64WriteMuchCompressed mem b n).1 b =
      (n, b + (machU64WriteMuchCompressed mem b n).2) := by
  by_cases fits : n >>> 32 = 0
  · have narrow : n < 2 ^ 32 := by
      rw [Nat.shiftRight_eq_div_pow, Nat.div_eq_zero_iff] at fits
      omega
    rw [machU64WriteMuchCompressed_of_fits fits,
      machReadNextMuchCompressed_of_le (machWriteCompressed_first_le narrow),
      machReadNextCompressed_machWriteCompressed narrow, machWriteCompressed_size]
  · obtain ⟨marker, readHigh, readLow⟩ := @machU64WriteMuchCompressed_of_wide mem b n small fits
    rw [machReadNextMuchCompressed, machReadFrom1, marker]
    -- the marker takes the last branch
    simp only [UInt8.reduceToNat, Nat.reduceLT, Nat.reduceEqDiff, if_false]
    rw [readHigh]
    dsimp only
    rw [readLow]
    dsimp only
    rw [halves_lor small]

end Wide

end MariaDB.Mach
