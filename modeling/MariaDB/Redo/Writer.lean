/-
The writers of a mini-transaction in `mtr0log.h`: what `mtr_t` appends to its log for each
change of a page, and what the pointer overloads write into the page frame.

`log_write` lays down the header of a record: the type, the same-page flag, the length, the
page identifier unless the record is for the page of the record before it, and for `WRITE`,
`MEMSET` and `MEMMOVE` the byte offset, relative to `m_last_offset` on the same page. A record
of more than fifteen bytes after its first byte has a zero length nibble and the length as a
variable-length integer, counted from the sixteenth byte and grown by the bytes of its own
encoding. The writers put the body after the header and move `m_last_offset` past the bytes
they change. A mini-transaction on a predefined tablespace ends with a zero byte.

The repeated-string overload of `mtr_t::memset` logs a `MEMSET` record whose replay fills all
`len` bytes of the target with the pattern, but its loop on the frame steps by `len` where it
should step by `size`: it copies the pattern once and leaves the rest of the target as it was.
-/

import MariaDB.Redo.Apply
import MariaDB.Redo.Varint

namespace MariaDB.Redo

/-! ### Records and the log state -/

/-- The record type in the first byte of a record, `mrec_type_t`. -/
def RecordType.toByte : RecordType → UInt8
  | .freePage => 0
  | .initPage => 0x10
  | .extended => 0x20
  | .write => 0x30
  | .memset => 0x40
  | .memmove => 0x50
  | .reserved => 0x60
  | .option => 0x70

/-- `page_id_t`: a tablespace and a page in it. -/
structure PageId where
  space : ℕ
  page : ℕ
  deriving DecidableEq, Repr

/-- The log state of `mtr_t`: the bytes of `m_log`, the page of the last record (`m_last`) and
the byte offset where it ended (`m_last_offset`, a `uint16_t`). -/
structure Mtr where
  log : List UInt8
  last : Option PageId
  lastOffset : ℕ
  deriving DecidableEq, Repr

/-- `mtr_t::start`. -/
def Mtr.start : Mtr := ⟨[], none, 0⟩

/-- The length of a record in the long form: the bytes from the sixteenth on, and then one or
two more when its own encoding takes two or three bytes. -/
def longLength (len headerEnd : ℕ) : ℕ :=
  let len := len + headerEnd - 15
  if len ≥ minThreeByte - 1 then len + 2 else if len ≥ minTwoByte then len + 1 else len

/-- `mtr_t::log_write<type>` for a record of `len` more bytes on the page `id`: the header it
lays down, and `m_last` after it. The buffer page is never null for the writers here. -/
def Mtr.logWrite (mtr : Mtr) (type : RecordType) (id : PageId) (len offset : ℕ) :
    List UInt8 × Option PageId :=
  let haveLen := type ≠ .initPage ∧ type ≠ .freePage
  let haveOffset := type = .write ∨ type = .memset ∨ type = .memmove
  -- `max_len < 1 + 5 + 5` exactly when the record is for the page of the last one
  let (samePage, offset) :=
    if ¬ haveLen then (false, offset)
    else if ¬ haveOffset then (mtr.last = some id, offset)
    else if mtr.last = some id ∧ mtr.lastOffset ≤ offset then (true, offset - mtr.lastOffset)
    else (false, offset)
  let flag : UInt8 := if samePage then 0x80 else 0
  let ids := if samePage then [] else encodeVarint id.space ++ encodeVarint id.page
  if haveOffset then
    let offsetBytes := encodeVarint offset
    let headerEnd := 1 + ids.length + offsetBytes.length
    if headerEnd + len > 16 then
      ((type.toByte ||| flag) :: encodeVarint (longLength len headerEnd) ++ ids ++ offsetBytes,
        some id)
    else ((type.toByte ||| flag ||| (headerEnd + len - 1).toUInt8) :: ids ++ offsetBytes, some id)
  else
    let headerEnd := 1 + ids.length
    if len ≥ 3 ∧ headerEnd + len > 16 then
      ((type.toByte ||| flag) :: encodeVarint (longLength len headerEnd) ++ ids, some id)
    else ((type.toByte ||| flag ||| (headerEnd + len - 1).toUInt8) :: ids, some id)

/-- The bytes `mlog_encode_varint` takes for a length below `MIN_4BYTE`. -/
def varintWidth (len : ℕ) : ℕ :=
  if len < minTwoByte then 1 else if len < minThreeByte then 2 else 3

/-! ### The writers -/

/-- `mtr_t::memset(const buf_block_t &b, ofs, len, val)`: the `MEMSET` record of a byte. -/
def Mtr.memsetLog (mtr : Mtr) (id : PageId) (ofs len : ℕ) (val : UInt8) : Mtr :=
  let (header, last) := mtr.logWrite .memset id (varintWidth len + 1) ofs
  ⟨mtr.log ++ header ++ encodeVarint len ++ [val], last, (ofs + len) % 2 ^ 16⟩

/-- `mtr_t::memset(const buf_block_t *b, ofs, len, val)`: `len` copies of `val` in the frame,
and the record. -/
def Mtr.memset (mtr : Mtr) (id : PageId) (frame : List UInt8) (ofs len : ℕ) (val : UInt8) :
    Mtr × List UInt8 :=
  (mtr.memsetLog id ofs len val, copyBytes frame ofs (List.replicate len val))

/-- `mtr_t::memset(const buf_block_t &b, ofs, len, str, size)`: the `MEMSET` record of a
pattern of `size` bytes repeated over `len` bytes. -/
def Mtr.memsetStringLog (mtr : Mtr) (id : PageId) (ofs len : ℕ) (str : List UInt8)
    (size : ℕ) : Mtr :=
  let (header, last) := mtr.logWrite .memset id (varintWidth len + size) ofs
  ⟨mtr.log ++ header ++ encodeVarint len ++ str.take size, last, (ofs + len) % 2 ^ 16⟩

/-- The loop of the repeated-string `mtr_t::memset` on the frame: `memcpy(ofs + s + frame,
str, size)` while `s < len`, then `s+= len`. -/
def memsetStringLoop (ofs len size : ℕ) (str : List UInt8) (s : ℕ) (frame : List UInt8) :
    ℕ × List UInt8 :=
  if s < len then
    memsetStringLoop ofs len size str (s + len) (copyBytes frame (ofs + s) (str.take size))
  else (s, frame)
termination_by len - s

/-- `mtr_t::memset(const buf_block_t *b, ofs, len, str, size)`: the loop, the copy of the
`len - s` bytes left, and the record. -/
def Mtr.memsetString (mtr : Mtr) (id : PageId) (frame : List UInt8) (ofs len : ℕ)
    (str : List UInt8) (size : ℕ) : Mtr × List UInt8 :=
  let (s, frame) := memsetStringLoop ofs len size str 0 frame
  (mtr.memsetStringLog id ofs len str size, copyBytes frame (ofs + s) (str.take (len - s)))

/-- `mtr_t::memcpy_low`: the `WRITE` record of `data` at `offset`. Whether the data goes into
the same buffer as the header does not change the bytes. -/
def Mtr.memcpyLow (mtr : Mtr) (id : PageId) (offset : ℕ) (data : List UInt8) : Mtr :=
  let (header, last) := mtr.logWrite .write id data.length offset
  ⟨mtr.log ++ header ++ data, last, (offset + data.length) % 2 ^ 16⟩

/-- `mtr_t::write_type`: whether a write that changes nothing is expected (`MAYBE_NOP`), and
whether the bytes are logged without comparing them with the frame first (`FORCED`). -/
inductive WriteType
  | normal
  | maybeNop
  | forced
  deriving DecidableEq, Repr

/-- How many bytes at the front of two strings agree. -/
def commonPrefix : List UInt8 → List UInt8 → ℕ
  | a :: as, b :: bs => if a = b then commonPrefix as bs + 1 else 0
  | _, _ => 0

/-- `mtr_t::memcpy(const buf_block_t &b, ulint offset, ulint len)`: the `WRITE` record of the
`len` bytes that the frame holds at `offset`. -/
def Mtr.memcpyFrame (mtr : Mtr) (id : PageId) (frame : List UInt8) (offset len : ℕ) : Mtr :=
  mtr.memcpyLow id offset ((frame.drop offset).take len)

/-- `mtr_t::memcpy<w>(b, dest, str, len)`: unless the write is forced, the bytes that the frame
already holds are stepped over, and nothing is written or logged when all of them are; the
rest is copied into the frame and logged from there. -/
def Mtr.memcpy (w : WriteType) (mtr : Mtr) (id : PageId) (frame : List UInt8) (dest : ℕ)
    (str : List UInt8) : Mtr × List UInt8 :=
  let same := if w ≠ .forced then commonPrefix ((frame.drop dest).take str.length) str else 0
  if w ≠ .forced ∧ same = str.length then (mtr, frame)
  else
    let frame := copyBytes frame (dest + same) (str.drop same)
    (mtr.memcpyFrame id frame (dest + same) (str.length - same), frame)

/-- `mtr_t::write<l, w>(b, ptr, val)`: the `l` bytes of `val`, most significant first, as
`mach_write_to_<l>` lays them down; unless forced, the bytes the frame already holds are
stepped over and nothing happens when all of them are. All `l` bytes are copied, and the
record starts at the first one that differs. -/
def Mtr.write (l : ℕ) (w : WriteType) (mtr : Mtr) (id : PageId) (frame : List UInt8)
    (offset val : ℕ) : Mtr × List UInt8 :=
  let buf := ByteStore.bytes l val
  let same := if w ≠ .forced then commonPrefix ((frame.drop offset).take l) buf else 0
  if w ≠ .forced ∧ same = l then (mtr, frame)
  else
    let frame := copyBytes frame offset buf
    (mtr.memcpyLow id (offset + same) ((frame.drop (offset + same)).take (l - same)), frame)

/-- `mtr_t::memmove`: the `MEMMOVE` record of a copy of `len` bytes from `s` to `d` on the
page, the source offset relative to `d` with its sign in the lowest bit. -/
def Mtr.memmove (mtr : Mtr) (id : PageId) (d s len : ℕ) : Mtr :=
  let s := (if s > d then (s - d) <<< 1 else (d - s) <<< 1 ||| 1) - 2
  let (header, last) := mtr.logWrite .memmove id (varintWidth len + varintWidth s) d
  ⟨mtr.log ++ header ++ encodeVarint len ++ encodeVarint s, last, (d + len) % 2 ^ 16⟩

/-- `mtr_t::commit` on a predefined tablespace: the log with its end marker. -/
def Mtr.commit (mtr : Mtr) : List UInt8 := mtr.log ++ [0]

/-! ### The repeated-string `memset` on the frame -/

section MemsetString

variable {ofs len size : ℕ} {str frame : List UInt8}

/-- The loop runs once: after its first round `s` is `len`. -/
theorem memsetStringLoop_zero (positive : 0 < len) :
    memsetStringLoop ofs len size str 0 frame = (len, copyBytes frame ofs (str.take size)) := by
  rw [memsetStringLoop, if_pos positive, Nat.zero_add, Nat.add_zero, memsetStringLoop,
    if_neg (Nat.lt_irrefl len)]

/-- The pointer overload writes the pattern once at `ofs` and leaves the other `len - size`
bytes of the target as they were. -/
theorem memsetString_frame (mtr : Mtr) (id : PageId) (positive : 0 < len) :
    (mtr.memsetString id frame ofs len str size).2 = copyBytes frame ofs (str.take size) := by
  dsimp only [Mtr.memsetString]
  rw [memsetStringLoop_zero positive]
  dsimp only
  rw [Nat.sub_self, List.take_zero, copyBytes_nil]

end MemsetString

/-- A repeated-string `memset` of the pattern `AA BB` over the four bytes from 96 on page 1 of
the system tablespace, a 16 KiB page of zeros, in a fresh mini-transaction: the log is one
`MEMSET` record that `parse` accepts, and replaying it fills the four bytes with `AA BB AA BB`;
the writer itself leaves `AA BB 00 00`. -/
theorem memsetString_replay_diverges :
    (Mtr.start.memsetString ⟨0, 1⟩ (List.replicate 16384 0) 96 4 [0xaa, 0xbb] 2).1.commit =
        [0x46, 0x00, 0x01, 0x60, 0x04, 0xaa, 0xbb, 0x00] ∧
      parse ⟨16384, false, fun _ => true, fun _ _ => false⟩
          [0x46, 0x00, 0x01, 0x60, 0x04, 0xaa, 0xbb, 0x00] =
        .parsed [⟨0, 1, [0x46, 0x00, 0x01, 0x60, 0x04, 0xaa, 0xbb]⟩] 8 ∧
      (∀ fuel, applyRecords false 16384 0 1 (fuel + 3)
          [[0x46, 0x00, 0x01, 0x60, 0x04, 0xaa, 0xbb]] (List.replicate 16384 0) 0 =
        .ok (copyBytes (List.replicate 16384 0) 96 [0xaa, 0xbb, 0xaa, 0xbb], 100)) ∧
      (Mtr.start.memsetString ⟨0, 1⟩ (List.replicate 16384 0) 96 4 [0xaa, 0xbb] 2).2 =
        copyBytes (List.replicate 16384 0) 96 [0xaa, 0xbb] ∧
      copyBytes (List.replicate 16384 0) 96 [0xaa, 0xbb] ≠
        copyBytes (List.replicate 16384 0) 96 [0xaa, 0xbb, 0xaa, 0xbb] := by
  have record : ∀ fuel frame, applyRecord false 16384 0 1 fuel
      [0x46, 0x00, 0x01, 0x60, 0x04, 0xaa, 0xbb] frame 0 =
        (applyMemset 96 4 2 [0xaa, 0xbb] fuel frame).map fun frame => (frame, 100) :=
    fun _ _ => rfl
  refine ⟨by decide, by decide, fun fuel => ?replay, memsetString_frame _ _ (by decide),
    ?differ⟩
  case replay =>
    rw [applyRecords, record, applyMemset_fill (by decide) (by decide) (by decide)
      (by rw [List.length_replicate]; decide) (by omega)]
    rfl
  case differ =>
    -- the bytes 98 and 99 of the page tell the two frames apart
    intro same
    have window := congrArg (fun frame => (frame.drop 96).take 4) same
    have inside : 96 ≤ (List.replicate 16384 (0 : UInt8)).length := by
      rw [List.length_replicate]
      decide
    simp only [drop_copyBytes inside,
      List.drop_replicate, List.length_cons, List.length_nil, List.take_append,
      List.take_replicate, Nat.reduceAdd, Nat.reduceSub, List.take_succ_cons,
      List.take_zero] at window
    simp at window

end MariaDB.Redo
