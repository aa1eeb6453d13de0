/-
Big-endian integers in a byte-addressed memory.

A memory is a function from addresses to bytes. `store` writes the low `width` bytes of a number
at an address, most significant first, one byte at a time, as C code does through a `byte*`;
`load` reads `width` bytes back as a number. Reading what was stored gives the number modulo
`256 ^ width` (`load_store`), a store leaves every address outside its bytes as it was
(`store_of_outside`) and a load reads nothing outside its bytes (`load_congr`): so a reader that
knows how wide each item is finds the next one right after it, whatever follows in memory.
-/

import MariaDB.Library.BitFields
import MariaDB.Library.Radix

namespace ByteStore

/-- The low `width` bytes of `n` written at `addr`, most significant first, one byte at a
time. -/
def store (mem : ℕ → UInt8) (addr : ℕ) : ℕ → ℕ → ℕ → UInt8
  | 0, _ => mem
  | width + 1, n =>
    store (Function.update mem addr (n >>> (8 * width)).toUInt8) (addr + 1) width n

/-- The `width` bytes at `addr` read as a number, most significant first. -/
def load (mem : ℕ → UInt8) (addr : ℕ) : ℕ → ℕ
  | 0 => 0
  | width + 1 => (mem addr).toNat * 256 ^ width + load mem (addr + 1) width

/-- A byte cut from a number by a shift. -/
@[simp] theorem toNat_toUInt8_shiftRight (n shift : ℕ) :
    ((n >>> shift).toUInt8).toNat = n / 2 ^ shift % 256 := by
  rw [Nat.toUInt8_eq, UInt8.toNat_ofNat', Nat.shiftRight_eq_div_pow]

section Store

variable {mem : ℕ → UInt8} {addr : ℕ}

/-- A store changes nothing outside its `width` bytes. -/
theorem store_of_outside {width n q : ℕ} (outside : q < addr ∨ addr + width ≤ q) :
    store mem addr width n q = mem q := by
  induction width generalizing mem addr with
  | zero => rfl
  | succ width inductionHypothesis =>
    have notHere : q ≠ addr := by omega
    rw [store, inductionHypothesis (by omega), Function.update_of_ne notHere]

/-- The byte a store puts at `addr + k`. -/
theorem store_at {width n k : ℕ} (inside : k < width) :
    store mem addr width n (addr + k) = (n >>> (8 * (width - 1 - k))).toUInt8 := by
  induction width generalizing mem addr k with
  | zero => omega
  | succ width inductionHypothesis =>
    rw [store]
    cases k with
    | zero =>
      rw [store_of_outside (by omega), Nat.add_zero, Function.update_self]
      rfl
    | succ k =>
      rw [show addr + (k + 1) = addr + 1 + k by omega, inductionHypothesis (by omega)]
      congr 3
      omega

/-- The first byte a store puts down. -/
@[simp] theorem toNat_store_self {width n : ℕ} :
    (store mem addr (width + 1) n addr).toNat = n / 256 ^ width % 256 := by
  have first := @store_at mem addr (width + 1) n 0 (Nat.succ_pos width)
  have weight : 2 ^ (8 * width) = 256 ^ width := by rw [Nat.pow_mul]
  simp only [Nat.add_zero, Nat.add_sub_cancel, Nat.sub_zero] at first
  rw [first, toNat_toUInt8_shiftRight, weight]

end Store

section Load

variable {mem mem' : ℕ → UInt8} {addr : ℕ}

/-- A load reads only its `width` bytes. -/
theorem load_congr {width : ℕ} (agree : ∀ k < width, mem (addr + k) = mem' (addr + k)) :
    load mem addr width = load mem' addr width := by
  induction width generalizing addr with
  | zero => rfl
  | succ width inductionHypothesis =>
    have first : mem addr = mem' addr := agree 0 (Nat.succ_pos _)
    have rest : load mem (addr + 1) width = load mem' (addr + 1) width :=
      inductionHypothesis fun k below => by
        rw [Nat.add_assoc, Nat.add_comm 1 k]
        exact agree (k + 1) (by omega)
    rw [load, load, first, rest]

theorem load_lt (width : ℕ) : load mem addr width < 256 ^ width := by
  induction width generalizing addr with
  | zero => exact Nat.one_pos
  | succ width inductionHypothesis =>
    have byte : (mem addr).toNat < 256 := UInt8.toNat_lt _
    have rest := @inductionHypothesis (addr + 1)
    rw [load, Nat.pow_succ]
    calc (mem addr).toNat * 256 ^ width + load mem (addr + 1) width
        < (mem addr).toNat * 256 ^ width + 256 ^ width := Nat.add_lt_add_left rest _
      _ = ((mem addr).toNat + 1) * 256 ^ width := by rw [Nat.succ_mul]
      _ ≤ 256 * 256 ^ width := Nat.mul_le_mul_right _ byte
      _ = 256 ^ width * 256 := Nat.mul_comm _ _

/-- A load lies in the range its first byte picks out. -/
theorem load_succ_bounds (mem : ℕ → UInt8) (addr width : ℕ) :
    (mem addr).toNat * 256 ^ width ≤ load mem addr (width + 1) ∧
      load mem addr (width + 1) < ((mem addr).toNat + 1) * 256 ^ width := by
  have rest := @load_lt mem (addr + 1) width
  rw [load, Nat.succ_mul]
  omega

/-- Reading what was stored gives the number modulo `256 ^ width`. -/
theorem load_store (width n : ℕ) : load (store mem addr width n) addr width = n % 256 ^ width := by
  induction width generalizing mem addr with
  | zero => rw [load, Nat.pow_zero, Nat.mod_one]
  | succ width inductionHypothesis =>
    have top : store (Function.update mem addr (n >>> (8 * width)).toUInt8) (addr + 1) width n addr =
        (n >>> (8 * width)).toUInt8 := by
      rw [store_of_outside (by omega), Function.update_self]
    have weight : 2 ^ (8 * width) = 256 ^ width := by rw [Nat.pow_mul]
    rw [store, load, top, inductionHypothesis, toNat_toUInt8_shiftRight, weight, Nat.pow_succ,
      Nat.mod_mul, Nat.add_comm, Nat.mul_comm]

end Load

/-! ### Byte strings -/

/-- A byte string seen as memory: its bytes from address zero on, and zero beyond its end. -/
def ofList (log : List UInt8) : ℕ → UInt8 := fun a => log.getD a 0

/-- The low `width` bytes of `n` as a byte string, most significant first. -/
def bytes (width n : ℕ) : List UInt8 := (Positional.bytes width n).map Nat.toUInt8

@[simp] theorem length_bytes (width n : ℕ) : (bytes width n).length = width := by
  rw [bytes, List.length_map, Positional.length_bytes]

theorem map_toNat_bytes (width n : ℕ) :
    (bytes width n).map UInt8.toNat = Positional.bytes width n := by
  rw [bytes, List.map_map]
  refine (List.map_congr_left fun byte member => ?_).trans (List.map_id _)
  have small : byte < 2 ^ 8 := Positional.byte_lt_of_mem member
  rw [Function.comp_apply, Nat.toUInt8_eq, UInt8.toNat_ofNat', Nat.mod_eq_of_lt small, id]

theorem bytes_succ (width n : ℕ) :
    bytes (width + 1) n = (n / 256 ^ width % 256).toUInt8 :: bytes width (n % 256 ^ width) := by
  rw [bytes, Positional.bytes_succ, List.map_cons]
  rfl

@[simp] theorem bytes_zero (n : ℕ) : bytes 0 n = [] := rfl

/-- Only the low `width` bytes of `n` are written. -/
theorem bytes_mod (width n : ℕ) : bytes width (n % 256 ^ width) = bytes width n := by
  rw [bytes, bytes, Positional.bytes, ← Positional.prod_replicate_256, Positional.digits_mod]
  rfl

/-- The first byte of `n` is `n` shifted right by the width of the rest, as C code cuts it. -/
theorem bytes_succ_shiftRight (width n : ℕ) :
    bytes (width + 1) n = (n >>> (8 * width)).toUInt8 :: bytes width n := by
  have weight : 2 ^ (8 * width) = 256 ^ width := by rw [Nat.pow_mul]
  have byte : (n / 256 ^ width % 256).toUInt8 = (n / 256 ^ width).toUInt8 := by
    rw [Nat.toUInt8_eq, Nat.toUInt8_eq, UInt8.ofNat_mod_size]
  rw [bytes_succ, bytes_mod, byte, Nat.shiftRight_eq_div_pow, weight]

/-- A load from a byte string reads the number its bytes denote. -/
theorem load_ofList {log : List UInt8} {pos width : ℕ} (inside : pos + width ≤ log.length) :
    load (ofList log) pos width =
      Positional.value 256 (((log.drop pos).take width).map UInt8.toNat) := by
  induction width generalizing pos with
  | zero => rw [load, List.take_zero, List.map_nil, Positional.value_nil]
  | succ width inductionHypothesis =>
    have here : pos < log.length := by omega
    have split : (log.drop pos).take (width + 1) = log[pos] :: (log.drop (pos + 1)).take width := by
      rw [List.drop_eq_getElem_cons here, List.take_succ_cons]
    have first : ofList log pos = log[pos] := by
      rw [ofList, List.getD_eq_getElem _ _ here]
    rw [load, split, List.map_cons, Positional.value_cons, inductionHypothesis (by omega), first,
      List.length_map, List.length_take, List.length_drop, Nat.min_eq_left (by omega)]

/-- What a load reads from bytes of `n` laid down in a byte string. -/
theorem load_ofList_bytes (pre rest : List UInt8) (width n : ℕ) :
    load (ofList (pre ++ bytes width n ++ rest)) pre.length width = n % 256 ^ width := by
  have inside : pre.length + width ≤ (pre ++ bytes width n ++ rest).length := by
    simp only [List.length_append, length_bytes]
    omega
  have laid : ((pre ++ bytes width n ++ rest).drop pre.length).take width = bytes width n := by
    rw [List.append_assoc, List.drop_left, List.take_left' (length_bytes width n)]
  rw [load_ofList inside, laid, map_toNat_bytes, Positional.value_bytes]

/-- The first byte of bytes of `n` laid down in a byte string. -/
theorem toNat_getD_bytes (pre rest : List UInt8) (width n : ℕ) :
    ((pre ++ bytes (width + 1) n ++ rest).getD pre.length 0).toNat = n / 256 ^ width % 256 := by
  rw [bytes_succ, List.append_assoc, List.cons_append, List.getD_append_right _ _ _ _
    (Nat.le_refl _), Nat.sub_self, List.getD_cons_zero, Nat.toUInt8_eq, UInt8.toNat_ofNat']
  exact Nat.mod_mod _ _

/-- The bytes of what a load reads from a byte string are the bytes it read. -/
theorem bytes_load {log : List UInt8} {pos width : ℕ} (inside : pos + width ≤ log.length) :
    bytes width (load (ofList log) pos width) = (log.drop pos).take width := by
  have length : (((log.drop pos).take width).map UInt8.toNat).length = width := by
    rw [List.length_map, List.length_take, List.length_drop]
    omega
  have small : ∀ byte ∈ ((log.drop pos).take width).map UInt8.toNat, byte < 256 := by
    intro byte member
    obtain ⟨original, -, rfl⟩ := List.mem_map.mp member
    exact UInt8.toNat_lt original
  have denoted := Positional.bytes_value small
  rw [length] at denoted
  rw [load_ofList inside, bytes, denoted, List.map_map]
  refine (List.map_congr_left fun byte _ => ?_).trans (List.map_id _)
  rw [Function.comp_apply, Nat.toUInt8_eq, UInt8.ofNat_toNat, id]

end ByteStore
