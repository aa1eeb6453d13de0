/-
The variable-length integers of InnoDB's redo log records (`mtr0log.h`).

`mlog_encode_varint` writes an integer below `MLOG_DECODE_ERROR` in one to five bytes. The
leading one bits of the first byte give the length, `mlog_decode_varint_length` counts them,
and each length starts at its own least integer (`MIN_2BYTE` to `MIN_5BYTE`), so that no
integer has two encodings. `mlog_decode_varint` (modelled with the record parse in `Record`)
reads the bytes at its position as a big-endian number and takes off the length bits.

Both directions go through the byte-string view of `ByteStore`: the encoder lays down
`ByteStore.bytes` of the integer with its length bits added, the decoder reads
`ByteStore.load`s. The round trip is then that reading laid-down bytes gives the number back
(`load_ofList_bytes`), and the uniqueness of the encoding that the bytes of what was read are
the bytes that were there (`bytes_load`).
-/

import MariaDB.Redo.Record
import MariaDB.Mach.Compressed

namespace MariaDB.Redo

open ByteStore (ofList bytes load bytes_succ load_ofList_bytes toNat_getD_bytes bytes_load)
open Mach

/-- `mlog_encode_varint`: the bytes it writes; the pointer it returns is past them. The `goto`s
into the tail of the five-byte case are written out in each case. -/
def encodeVarint (i : ℕ) : List UInt8 :=
  if i < minTwoByte then [i.toUInt8]
  else if i < minThreeByte then
    let i := i - minTwoByte
    [(0x80 : UInt8) ||| (i >>> 8).toUInt8, i.toUInt8]
  else if i < minFourByte then
    let i := i - minThreeByte
    [(0xc0 : UInt8) ||| (i >>> 16).toUInt8, (i >>> 8).toUInt8, i.toUInt8]
  else if i < minFiveByte then
    let i := i - minFourByte
    [(0xe0 : UInt8) ||| (i >>> 24).toUInt8, (i >>> 16).toUInt8, (i >>> 8).toUInt8, i.toUInt8]
  else
    let i := i - minFiveByte
    [0xf0, (i >>> 24).toUInt8, (i >>> 16).toUInt8, (i >>> 8).toUInt8, i.toUInt8]

/-! ### The length of an encoding -/

/-- `mlog_decode_varint_length` counts the leading one bits of the first byte, plus one. -/
theorem decodeVarintLength_classes : ∀ k < 256, decodeVarintLength (UInt8.ofNat k) =
    if k < 0x80 then 1 else if k < 0xc0 then 2 else if k < 0xe0 then 3 else if k < 0xf0 then 4
    else if k < 0xf8 then 5 else if k < 0xfc then 6 else if k < 0xfe then 7
    else if k < 0xff then 8 else 9 := by
  decide +kernel

theorem decodeVarintLength_eq (first : UInt8) : decodeVarintLength first =
    if first.toNat < 0x80 then 1 else if first.toNat < 0xc0 then 2
    else if first.toNat < 0xe0 then 3 else if first.toNat < 0xf0 then 4
    else if first.toNat < 0xf8 then 5 else if first.toNat < 0xfc then 6
    else if first.toNat < 0xfe then 7 else if first.toNat < 0xff then 8 else 9 := by
  rw [← decodeVarintLength_classes first.toNat (UInt8.toNat_lt first), UInt8.ofNat_toNat]

/-! ### Bytes and their sums -/

theorem toUInt8_eq_of_mod {a b : ℕ} (same : a % 256 = b % 256) : a.toUInt8 = b.toUInt8 := by
  apply UInt8.toNat_inj.mp
  rw [Nat.toUInt8_eq, Nat.toUInt8_eq, UInt8.toNat_ofNat', UInt8.toNat_ofNat']
  exact same

/-- Length bits or-ed onto a byte of the payload make the byte of the sum. -/
theorem tag_lor_toUInt8 (tag : UInt8) {x : ℕ} (width : ℕ) (aligned : tag.toNat % 2 ^ width = 0)
    (small : x < 2 ^ width) (fits : tag.toNat + x < 2 ^ 8) :
    tag ||| x.toUInt8 = (tag.toNat + x).toUInt8 := by
  apply UInt8.toNat_inj.mp
  rw [UInt8.toNat_or, Nat.toUInt8_eq, Nat.toUInt8_eq, UInt8.toNat_ofNat', UInt8.toNat_ofNat',
    Nat.mod_eq_of_lt (by omega), Nat.mod_eq_of_lt fits,
    BitFields.lor_eq_add_of_lt width aligned small]

theorem minimums : minTwoByte = 128 ∧ minThreeByte = 16512 ∧ minFourByte = 2113664 ∧
    minFiveByte = 270549120 := ⟨rfl, rfl, rfl, rfl⟩

/-! ### The encoder and the decoder as sums -/

/-- `mlog_encode_varint` lays down the integer less the least of its length, with the length
bits added, big-endian; the five-byte encoding is the marker `0xf0` and four bytes. -/
theorem encodeVarint_eq (i : ℕ) : encodeVarint i =
    if i < minTwoByte then bytes 1 i
    else if i < minThreeByte then bytes 2 (0x8000 + (i - minTwoByte))
    else if i < minFourByte then bytes 3 (0xC00000 + (i - minThreeByte))
    else if i < minFiveByte then bytes 4 (0xE0000000 + (i - minFourByte))
    else 0xf0 :: bytes 4 (i - minFiveByte) := by
  have least := minimums
  rw [encodeVarint]
  split_ifs with one two three four
  all_goals simp only [ByteStore.bytes_succ_shiftRight, ByteStore.bytes_zero, List.cons.injEq,
    and_true, Nat.reduceMul, Nat.shiftRight_zero]
  · rw [tag_lor_toUInt8 0x80 6 rfl (by rw [Nat.shiftRight_eq_div_pow]; omega)
      (by simp only [UInt8.reduceToNat, Nat.shiftRight_eq_div_pow]; omega)]
    refine ⟨toUInt8_eq_of_mod ?_, toUInt8_eq_of_mod ?_⟩ <;>
      (try simp only [UInt8.reduceToNat, Nat.reducePow, Nat.shiftRight_eq_div_pow]) <;> omega
  · rw [tag_lor_toUInt8 0xc0 5 rfl (by rw [Nat.shiftRight_eq_div_pow]; omega)
      (by simp only [UInt8.reduceToNat, Nat.shiftRight_eq_div_pow]; omega)]
    refine ⟨toUInt8_eq_of_mod ?_, toUInt8_eq_of_mod ?_, toUInt8_eq_of_mod ?_⟩ <;>
      (try simp only [UInt8.reduceToNat, Nat.reducePow, Nat.shiftRight_eq_div_pow]) <;> omega
  · rw [tag_lor_toUInt8 0xe0 4 rfl (by rw [Nat.shiftRight_eq_div_pow]; omega)
      (by simp only [UInt8.reduceToNat, Nat.shiftRight_eq_div_pow]; omega)]
    refine ⟨toUInt8_eq_of_mod ?_, toUInt8_eq_of_mod ?_, toUInt8_eq_of_mod ?_,
      toUInt8_eq_of_mod ?_⟩ <;>
      (try simp only [UInt8.reduceToNat, Nat.reducePow, Nat.shiftRight_eq_div_pow]) <;> omega

/-- `mlog_decode_varint` reads the bytes at its position as a big-endian number and takes off
the length bits. -/
theorem decodeVarint_eq (log : List UInt8) (pos : ℕ) : decodeVarint log pos =
    if (log.getD pos 0).toNat < minTwoByte then (log.getD pos 0).toNat
    else if (log.getD pos 0).toNat < 0xc0 then minTwoByte + load (ofList log) pos 2 % 2 ^ 14
    else if (log.getD pos 0).toNat < 0xe0 then minThreeByte + load (ofList log) pos 3 % 2 ^ 21
    else if (log.getD pos 0).toNat < 0xf0 then minFourByte + load (ofList log) pos 4 % 2 ^ 28
    else if (log.getD pos 0).toNat = 0xf0 then
      if load (ofList log) (pos + 1) 4 ≤ decodeError - minFiveByte then
        minFiveByte + load (ofList log) (pos + 1) 4
      else decodeError
    else decodeError := by
  have byte : ∀ k, (log.getD (pos + k) 0).toNat < 2 ^ 8 := fun k => UInt8.toNat_lt _
  simp only [decodeVarint, Nat.add_zero]
  rw [BitFields.and_mask_eq_mod _ 0x7f 7 rfl, BitFields.and_mask_eq_mod _ 0x3f 6 rfl,
    BitFields.and_mask_eq_mod _ 0x1f 5 rfl, BitFields.shiftLeft_lor_eq_add _ 8 (byte 1),
    BitFields.bytes_lor_three _ (byte 1) (byte 2),
    BitFields.bytes_lor_four _ (byte 1) (byte 2) (byte 3),
    BitFields.bytes_lor_four _ (byte 2) (byte 3) (byte 4)]
  simp only [load, ofList, Nat.add_assoc, Nat.reduceAdd, Nat.reducePow, Nat.mul_one,
    Nat.add_zero]
  have first := UInt8.toNat_lt (log.getD pos 0)
  have second := byte 1
  have third := byte 2
  have fourth := byte 3
  have least := minimums
  -- the two sides test the same first byte in the same order
  refine ite_congr rfl (fun _ => rfl) fun _ => ite_congr rfl (fun _ => ?_) fun _ =>
    ite_congr rfl (fun _ => ?_) fun _ => ite_congr rfl (fun _ => ?_) fun _ => rfl
  all_goals omega

/-! ### The decoder on each first byte -/

section Classes

variable {log : List UInt8} {pos : ℕ}

/-- A first byte `0nnnnnnn` is the integer. -/
theorem varint_of_one (one : (log.getD pos 0).toNat < 0x80) :
    decodeVarintLength (log.getD pos 0) = 1 ∧ decodeVarint log pos = (log.getD pos 0).toNat :=
  ⟨by rw [decodeVarintLength_eq, if_pos one],
    by rw [decodeVarint_eq, if_pos (show (log.getD pos 0).toNat < minTwoByte from one)]⟩

/-- A first byte `10nnnnnn` starts two bytes above `MIN_2BYTE`. -/
theorem varint_of_two (lower : 0x80 ≤ (log.getD pos 0).toNat)
    (upper : (log.getD pos 0).toNat < 0xc0) :
    decodeVarintLength (log.getD pos 0) = 2 ∧
      decodeVarint log pos = minTwoByte + load (ofList log) pos 2 % 2 ^ 14 :=
  ⟨by rw [decodeVarintLength_eq, if_neg (by omega), if_pos upper],
    by rw [decodeVarint_eq, if_neg (show ¬ (log.getD pos 0).toNat < minTwoByte from
      Nat.not_lt.mpr lower), if_pos upper]⟩

/-- A first byte `110nnnnn` starts three bytes above `MIN_3BYTE`. -/
theorem varint_of_three (lower : 0xc0 ≤ (log.getD pos 0).toNat)
    (upper : (log.getD pos 0).toNat < 0xe0) :
    decodeVarintLength (log.getD pos 0) = 3 ∧
      decodeVarint log pos = minThreeByte + load (ofList log) pos 3 % 2 ^ 21 :=
  ⟨by rw [decodeVarintLength_eq, if_neg (by omega), if_neg (by omega), if_pos upper],
    by rw [decodeVarint_eq, if_neg (show ¬ (log.getD pos 0).toNat < minTwoByte from
      Nat.not_lt.mpr (Nat.le_trans (by decide) lower)), if_neg (by omega), if_pos upper]⟩

/-- A first byte `1110nnnn` starts four bytes above `MIN_4BYTE`. -/
theorem varint_of_four (lower : 0xe0 ≤ (log.getD pos 0).toNat)
    (upper : (log.getD pos 0).toNat < 0xf0) :
    decodeVarintLength (log.getD pos 0) = 4 ∧
      decodeVarint log pos = minFourByte + load (ofList log) pos 4 % 2 ^ 28 :=
  ⟨by rw [decodeVarintLength_eq, if_neg (by omega), if_neg (by omega), if_neg (by omega),
      if_pos upper],
    by rw [decodeVarint_eq, if_neg (show ¬ (log.getD pos 0).toNat < minTwoByte from
      Nat.not_lt.mpr (Nat.le_trans (by decide) lower)), if_neg (by omega), if_neg (by omega),
      if_pos upper]⟩

/-- The marker `0xf0` is followed by four bytes above `MIN_5BYTE`; those that would reach
`MLOG_DECODE_ERROR` are rejected. -/
theorem varint_of_five (marker : (log.getD pos 0).toNat = 0xf0) :
    decodeVarintLength (log.getD pos 0) = 5 ∧
      decodeVarint log pos = if load (ofList log) (pos + 1) 4 ≤ decodeError - minFiveByte then
        minFiveByte + load (ofList log) (pos + 1) 4 else decodeError := by
  have least := minimums
  constructor
  · rw [decodeVarintLength_eq, marker, if_neg (by omega), if_neg (by omega), if_neg (by omega),
      if_neg (by omega), if_pos (by omega)]
  · rw [decodeVarint_eq, marker, if_neg (by omega), if_neg (by omega), if_neg (by omega),
      if_neg (by omega), if_pos rfl]

/-- A first byte above `0xf0` is rejected. -/
theorem decodeVarint_of_beyond (beyond : 0xf0 < (log.getD pos 0).toNat) :
    decodeVarint log pos = decodeError := by
  rw [decodeVarint_eq, if_neg (show ¬ (log.getD pos 0).toNat < minTwoByte from
    Nat.not_lt.mpr (Nat.le_trans (by decide) (Nat.le_of_lt beyond))), if_neg (by omega),
    if_neg (by omega), if_neg (by omega), if_neg (by omega)]

end Classes

/-! ### The round trip -/

/-- `mlog_decode_varint` reads back what `mlog_encode_varint` wrote, whatever stands before and
after it. -/
theorem decodeVarint_encodeVarint {i : ℕ} (small : i < decodeError) (pre rest : List UInt8) :
    decodeVarint (pre ++ encodeVarint i ++ rest) pre.length = i := by
  have least := minimums
  have error : decodeError = 4294967295 := rfl
  rw [encodeVarint_eq]
  split_ifs with one two three four
  · -- 0nnnnnnn
    have first : ((pre ++ bytes 1 i ++ rest).getD pre.length 0).toNat = i % 256 := by
      rw [toNat_getD_bytes pre rest 0 i, Nat.pow_zero, Nat.div_one]
    rw [(varint_of_one (by omega)).2, first]
    omega
  · -- 10nnnnnn nnnnnnnn
    have first : ((pre ++ bytes 2 (0x8000 + (i - minTwoByte)) ++ rest).getD pre.length 0).toNat =
        (0x8000 + (i - minTwoByte)) / 256 % 256 := toNat_getD_bytes pre rest 1 _
    rw [(@varint_of_two (pre ++ bytes 2 _ ++ rest) pre.length (by omega) (by omega)).2,
      load_ofList_bytes]
    omega
  · -- 110nnnnn nnnnnnnn nnnnnnnn
    have first : ((pre ++ bytes 3 (0xC00000 + (i - minThreeByte)) ++ rest).getD pre.length 0).toNat =
        (0xC00000 + (i - minThreeByte)) / 65536 % 256 := toNat_getD_bytes pre rest 2 _
    rw [(@varint_of_three (pre ++ bytes 3 _ ++ rest) pre.length (by omega) (by omega)).2,
      load_ofList_bytes]
    omega
  · -- 1110nnnn nnnnnnnn nnnnnnnn nnnnnnnn
    have first : ((pre ++ bytes 4 (0xE0000000 + (i - minFourByte)) ++ rest).getD pre.length 0).toNat =
        (0xE0000000 + (i - minFourByte)) / 16777216 % 256 := toNat_getD_bytes pre rest 3 _
    rw [(@varint_of_four (pre ++ bytes 4 _ ++ rest) pre.length (by omega) (by omega)).2,
      load_ofList_bytes]
    omega
  · -- 11110000 nnnnnnnn nnnnnnnn nnnnnnnn nnnnnnnn
    have marker : ((pre ++ 0xf0 :: bytes 4 (i - minFiveByte) ++ rest).getD pre.length 0).toNat =
        0xf0 := by
      rw [List.append_assoc, List.cons_append, List.getD_append_right _ _ _ _ (Nat.le_refl _),
        Nat.sub_self, List.getD_cons_zero]
      rfl
    have shifted : pre ++ 0xf0 :: bytes 4 (i - minFiveByte) ++ rest =
        pre ++ [0xf0] ++ bytes 4 (i - minFiveByte) ++ rest := by
      rw [List.append_assoc pre [0xf0], List.singleton_append]
    have after : pre.length + 1 = (pre ++ [0xf0]).length := by
      rw [List.length_append, List.length_singleton]
    rw [(varint_of_five marker).2, shifted, after, load_ofList_bytes]
    simp only [Nat.reducePow]
    rw [if_pos (by omega)]
    omega

/-- `mlog_encode_varint` writes one to five bytes, as many as `mlog_decode_varint_length` reads
off the first of them. -/
theorem length_encodeVarint (i : ℕ) :
    (encodeVarint i).length = decodeVarintLength ((encodeVarint i).headD 0) ∧
      1 ≤ (encodeVarint i).length ∧ (encodeVarint i).length ≤ 5 := by
  have least := minimums
  rw [encodeVarint_eq]
  split_ifs with one two three four
  all_goals simp only [bytes_succ, List.headD_cons, List.length_cons, ByteStore.length_bytes,
    decodeVarintLength_eq, Nat.toUInt8_eq, UInt8.toNat_ofNat', UInt8.reduceToNat, Nat.reducePow]
  · rw [if_pos (by omega)]
    omega
  · rw [if_neg (by omega), if_pos (by omega)]
    omega
  · rw [if_neg (by omega), if_neg (by omega), if_pos (by omega)]
    omega
  · rw [if_neg (by omega), if_neg (by omega), if_neg (by omega), if_pos (by omega)]
    omega
  · rw [if_neg (by omega), if_neg (by omega), if_neg (by omega), if_neg (by omega),
      if_pos (by omega)]
    omega

/-! ### Every accepted encoding is the encoding -/

/-- An encoding that `mlog_decode_varint` accepts is the one `mlog_encode_varint` writes for the
value it reads, so no integer has two. -/
theorem encodeVarint_decodeVarint {log : List UInt8} {pos : ℕ}
    (accepted : decodeVarint log pos ≠ decodeError)
    (inside : pos + decodeVarintLength (log.getD pos 0) ≤ log.length) :
    (log.drop pos).take (decodeVarintLength (log.getD pos 0)) =
      encodeVarint (decodeVarint log pos) := by
  have least := minimums
  have error : decodeError = 4294967295 := rfl
  have firstByte : ofList log pos = log.getD pos 0 := rfl
  -- the cases of the first byte, as the decoder tells them apart
  obtain one | one := Nat.lt_or_ge (log.getD pos 0).toNat 0x80
  · obtain ⟨length, value⟩ := varint_of_one one
    rw [length] at inside ⊢
    rw [value, encodeVarint_eq, if_pos (by omega), ← bytes_load (by omega)]
    refine congrArg (bytes 1) ?_
    simp only [load, firstByte, Nat.pow_zero, Nat.mul_one, Nat.add_zero]
  obtain two | two := Nat.lt_or_ge (log.getD pos 0).toNat 0xc0
  · obtain ⟨length, value⟩ := varint_of_two one two
    have range := ByteStore.load_succ_bounds (ofList log) pos 1
    simp only [firstByte, Nat.reducePow, Nat.reduceAdd] at range
    rw [length] at inside ⊢
    rw [value, encodeVarint_eq, if_neg (by omega), if_pos (by omega), ← bytes_load (by omega)]
    refine congrArg (bytes 2) ?_
    omega
  obtain three | three := Nat.lt_or_ge (log.getD pos 0).toNat 0xe0
  · obtain ⟨length, value⟩ := varint_of_three two three
    have range := ByteStore.load_succ_bounds (ofList log) pos 2
    simp only [firstByte, Nat.reducePow, Nat.reduceAdd] at range
    rw [length] at inside ⊢
    rw [value, encodeVarint_eq, if_neg (by omega), if_neg (by omega), if_pos (by omega),
      ← bytes_load (by omega)]
    refine congrArg (bytes 3) ?_
    omega
  obtain four | four := Nat.lt_or_ge (log.getD pos 0).toNat 0xf0
  · obtain ⟨length, value⟩ := varint_of_four three four
    have range := ByteStore.load_succ_bounds (ofList log) pos 3
    simp only [firstByte, Nat.reducePow, Nat.reduceAdd] at range
    rw [length] at inside ⊢
    rw [value, encodeVarint_eq, if_neg (by omega), if_neg (by omega), if_neg (by omega),
      if_pos (by omega), ← bytes_load (by omega)]
    refine congrArg (bytes 4) ?_
    omega
  obtain five | beyond := Nat.lt_or_ge (log.getD pos 0).toNat 0xf1
  · have marker : (log.getD pos 0).toNat = 0xf0 := by omega
    obtain ⟨length, value⟩ := varint_of_five marker
    rw [value] at accepted ⊢
    have fits : load (ofList log) (pos + 1) 4 ≤ decodeError - minFiveByte := by
      by_contra exceeds
      rw [if_neg exceeds] at accepted
      exact accepted rfl
    have here : pos < log.length := by omega
    have head : log[pos] = 0xf0 := by
      apply UInt8.toNat_inj.mp
      rw [← List.getD_eq_getElem _ 0 here, marker]
      rfl
    rw [length] at inside ⊢
    rw [if_pos fits, encodeVarint_eq, if_neg (by omega), if_neg (by omega), if_neg (by omega),
      if_neg (by omega), Nat.add_sub_cancel_left, bytes_load (by omega),
      List.drop_eq_getElem_cons here, List.take_succ_cons, head]
  · exact absurd (decodeVarint_of_beyond beyond) accepted

/-! ### The integer codecs of InnoDB -/

/-- The redo log varints round-trip and are self-delimiting, and every encoding the decoder
accepts is the encoding of its value; the compressed 32-bit integers of `mach0data`, the 64-bit
ones and the much-compressed ones are read back by their readers, which advance by exactly the
size the writer returned, and the writers change nothing beyond that size. -/
theorem innodb_varint_codecs_round_trip :
    (∀ i < decodeError,
      (encodeVarint i).length = decodeVarintLength ((encodeVarint i).headD 0) ∧
        1 ≤ (encodeVarint i).length ∧ (encodeVarint i).length ≤ 5 ∧
        ∀ pre rest : List UInt8, decodeVarint (pre ++ encodeVarint i ++ rest) pre.length = i) ∧
    (∀ (log : List UInt8) (pos : ℕ), decodeVarint log pos ≠ decodeError →
      pos + decodeVarintLength (log.getD pos 0) ≤ log.length →
      (log.drop pos).take (decodeVarintLength (log.getD pos 0)) =
        encodeVarint (decodeVarint log pos)) ∧
    (∀ (mem : ℕ → UInt8) (b n : ℕ), n < 2 ^ 32 →
      (machWriteCompressed mem b n).2 = machGetCompressedSize n ∧
        (∀ q, q < b ∨ b + machGetCompressedSize n ≤ q → (machWriteCompressed mem b n).1 q = mem q) ∧
        machReadCompressed (machWriteCompressed mem b n).1 b = n ∧
        machReadNextCompressed (machWriteCompressed mem b n).1 b =
          (n, b + machGetCompressedSize n)) ∧
    (∀ (mem : ℕ → UInt8) (b n : ℕ), n < 2 ^ 64 →
      (∀ q, q < b ∨ b + (machU64WriteCompressed mem b n).2 ≤ q →
          (machU64WriteCompressed mem b n).1 q = mem q) ∧
        machU64ReadNextCompressed (machU64WriteCompressed mem b n).1 b =
          (n, b + (machU64WriteCompressed mem b n).2)) ∧
    (∀ (mem : ℕ → UInt8) (b n : ℕ), n < 2 ^ 64 →
      (∀ q, q < b ∨ b + (machU64WriteMuchCompressed mem b n).2 ≤ q →
          (machU64WriteMuchCompressed mem b n).1 q = mem q) ∧
        machReadNextMuchCompressed (machU64WriteMuchCompressed mem b n).1 b =
          (n, b + (machU64WriteMuchCompressed mem b n).2)) := by
  refine ⟨fun i small => ⟨(length_encodeVarint i).1, (length_encodeVarint i).2.1,
      (length_encodeVarint i).2.2, fun pre rest => decodeVarint_encodeVarint small pre rest⟩,
    fun log pos accepted inside => encodeVarint_decodeVarint accepted inside, ?_, ?_, ?_⟩
  · intro mem b n small
    refine ⟨machWriteCompressed_size mem b n, fun q outside => machWriteCompressed_of_outside outside,
      ?_, machReadNextCompressed_machWriteCompressed small⟩
    rw [machReadCompressed_eq, machReadNextCompressed_machWriteCompressed small]
  · intro mem b n small
    rw [machU64WriteCompressed_size, ← Nat.add_assoc]
    exact ⟨fun q outside => machU64WriteCompressed_of_outside (by omega),
      machU64ReadNextCompressed_machU64WriteCompressed small⟩
  · intro mem b n small
    exact ⟨fun q outside => machU64WriteMuchCompressed_of_outside outside,
      machReadNextMuchCompressed_machU64WriteMuchCompressed small⟩

/-- The codecs at a few values: a two-byte and the least five-byte redo varint, the accepted
string `81 00`, a three-byte compressed integer, and 64-bit integers above 32 bits. -/
theorem innodb_varint_codecs_round_trip_samples :
    decodeVarint ([0x00] ++ encodeVarint 0x1234 ++ [0xff]) 1 = 0x1234 ∧
    decodeVarint (encodeVarint minFiveByte ++ []) 0 = minFiveByte ∧
    ([0x81, 0x00].drop 0).take (decodeVarintLength 0x81) =
      encodeVarint (decodeVarint [0x81, 0x00] 0) ∧
    machReadNextCompressed (machWriteCompressed (fun _ => 0) 0 0x12345).1 0 =
      (0x12345, machGetCompressedSize 0x12345) ∧
    machU64ReadNextCompressed (machU64WriteCompressed (fun _ => 0) 0 (2 ^ 40 + 7)).1 0 =
      (2 ^ 40 + 7, 0 + (machU64WriteCompressed (fun _ => 0) 0 (2 ^ 40 + 7)).2) ∧
    machReadNextMuchCompressed (machU64WriteMuchCompressed (fun _ => 0) 0 (2 ^ 33)).1 0 =
      (2 ^ 33, 0 + (machU64WriteMuchCompressed (fun _ => 0) 0 (2 ^ 33)).2) :=
  ⟨(innodb_varint_codecs_round_trip.1 0x1234 (by decide)).2.2.2 [0x00] [0xff],
    (innodb_varint_codecs_round_trip.1 minFiveByte (by decide)).2.2.2 [] [],
    innodb_varint_codecs_round_trip.2.1 [0x81, 0x00] 0 (by decide) (by decide),
    (innodb_varint_codecs_round_trip.2.2.1 (fun _ => 0) 0 0x12345 (by decide)).2.2.2,
    (innodb_varint_codecs_round_trip.2.2.2.1 (fun _ => 0) 0 (2 ^ 40 + 7) (by decide)).2,
    (innodb_varint_codecs_round_trip.2.2.2.2 (fun _ => 0) 0 (2 ^ 33) (by decide)).2⟩

end MariaDB.Redo
