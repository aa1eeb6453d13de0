/-
Dynamic-column blobs in the numeric format (mysys/ma_dyncol.c).

A blob is a fixed header (a flags byte whose low two bits are the offset size less one, and
the column count in two bytes), one header entry per stored column sorted by column number
(the number in two bytes, then the value's type less one in the low three bits and the
value's offset in the data pool above them, in `offset_size` bytes), and the data pool with
the values one after the other. A value's length is where the next value starts, or the end
of the pool for the last one. A NULL value is not stored.

`mariadb_dyncol_get_num` looks a column up by `bsearch` over the entries, comparing the
key written with `int2store`: only its low 16 bits take part, so every number with the same
low 16 bits finds the same column (`mariadbDyncolGetNum_mod`).

The model takes apart integers, doubles (as their 64 bits), strings (with the number of
their character set) and packed dynamic-column values. Decimals and temporal values, and
lookups in the names format, are outside it: there the reading functions answer `none`.
-/

import Mathlib
import MariaDB.Library.BinarySearch

namespace MariaDB.Dyncol

/-! ### Types, values and results -/

/-- `enum_dyncol_func_result`; `ER_DYNCOL_NO` is `ER_DYNCOL_OK`. -/
inductive DyncolFuncResult
  | ok | yes | format | limit | resource | data | unknownCharset | truncated
  deriving DecidableEq, Repr

/-- `enum_dynamic_column_type`, in the order of its codes `0 .. 9`. -/
inductive DynamicColumnType
  | null | int | uint | double | string | decimal | datetime | date | time | dyncol
  deriving DecidableEq, Repr

/-- The code of a type, `DYN_COL_NULL` being `0`. -/
def DynamicColumnType.code : DynamicColumnType → ℕ
  | null => 0
  | int => 1
  | uint => 2
  | double => 3
  | string => 4
  | decimal => 5
  | datetime => 6
  | date => 7
  | time => 8
  | dyncol => 9

/-- The type of a code. -/
def DynamicColumnType.ofCode : ℕ → DynamicColumnType
  | 1 => int
  | 2 => uint
  | 3 => double
  | 4 => string
  | 5 => decimal
  | 6 => datetime
  | 7 => date
  | 8 => time
  | 9 => dyncol
  | _ => null

/-- A `DYNAMIC_COLUMN_VALUE` of the types the model stores and reads: `long_value`,
`ulong_value`, the 64 bits of `double_value`, a string with the number of its character
set, and a packed dynamic-column value. -/
inductive DynamicColumnValue
  | null
  | int (longValue : ℤ)
  | uint (ulongValue : ℕ)
  | double (bits : ℕ)
  | string (charset : ℕ) (value : List UInt8)
  | dyncol (value : List UInt8)
  deriving DecidableEq, Repr

/-- The `type` field of a value. -/
def DynamicColumnValue.type : DynamicColumnValue → DynamicColumnType
  | null => .null
  | int _ => .int
  | uint _ => .uint
  | double _ => .double
  | string _ _ => .string
  | dyncol _ => .dyncol

/-! ### Little-endian numbers -/

/-- The number little-endian bytes denote. -/
def leValue : List UInt8 → ℕ
  | [] => 0
  | b :: rest => b.toNat + 256 * leValue rest

/-- `uint<width>korr`: the number of the first `width` bytes, least significant first. -/
def uintKorr (width : ℕ) (bytes : List UInt8) : ℕ := leValue (bytes.take width)

/-- `int<width>store`: the low `width` bytes of `x`, least significant first. -/
def intStore : ℕ → ℕ → List UInt8
  | 0, _ => []
  | width + 1, x => (x % 256).toUInt8 :: intStore width (x / 256)

/-! ### Values in the data pool -/

/-- The loop of `dynamic_column_uint_store` with `bytes` bytes of the `ulonglong` left:
the bytes of `val` up to its last nonzero one, least significant first. -/
def uintStoreLoop : ℕ → ℕ → List UInt8
  | 0, _ => []
  | bytes + 1, val => if val = 0 then [] else (val % 256).toUInt8 :: uintStoreLoop bytes (val / 256)

/-- `dynamic_column_uint_store`. -/
def uintStore (val : ℕ) : List UInt8 := uintStoreLoop 8 val

/-- The loop of `dynamic_column_var_uint_store`: seven bits a byte, the high bit set on every
byte but the last, at least one byte. -/
def varUintStoreLoop : ℕ → ℕ → List UInt8
  | 0, _ => []
  | bytes + 1, val =>
    let rest := val / 128
    (val % 128 + if rest ≠ 0 then 128 else 0).toUInt8 ::
      if rest ≠ 0 then varUintStoreLoop bytes rest else []

/-- `dynamic_column_var_uint_store`, at most ten bytes for a `ulonglong`. -/
def varUintStore (val : ℕ) : List UInt8 := varUintStoreLoop 10 val

/-- `dynamic_column_var_uint_get`: the number and the count of bytes read, the count `0`
when the data ends before a byte without its high bit. -/
def varUintGet : List UInt8 → ℕ × ℕ
  | [] => (0, 0)
  | b :: rest =>
    if b.toNat < 128 then (b.toNat, 1)
    else
      match varUintGet rest with
      | (_, 0) => (0, 0)
      | (val, length) => (b.toNat % 128 + 128 * val, length + 1)

/-- The `ulonglong` a `longlong` is stored as: `((ulonglong) val << 1) ^ (val < 0 ? ~0 : 0)`. -/
def sintToUint (val : ℤ) : ℕ :=
  if val < 0 then 2 ^ 64 - 1 - (2 * val % 2 ^ 64).toNat else (2 * val % 2 ^ 64).toNat

/-- `dynamic_column_uint_read`: the sum of the bytes shifted into a `ulonglong`. -/
def uintRead (data : List UInt8) : ℕ := leValue data % 2 ^ 64

/-- The `longlong` of `dynamic_column_sint_read`: odd codes are the negative numbers. -/
def sintOfUint (val : ℕ) : ℤ := if val % 2 = 1 then -1 - (val / 2 : ℕ) else (val / 2 : ℕ)

/-- `data_store`: the bytes a value adds to the data pool (`float8store` writes the eight
bytes of a double least significant first). -/
def dataStore : DynamicColumnValue → List UInt8
  | .null => []
  | .int v => uintStore (sintToUint v)
  | .uint v => uintStore v
  | .double bits => intStore 8 bits
  | .string charset value => varUintStore charset ++ value
  | .dyncol value => value

/-- `dynamic_column_value_len`: the bytes `data_store` writes. -/
def dynamicColumnValueLen (value : DynamicColumnValue) : ℕ := (dataStore value).length

/-- `dynamic_column_get_value` on the bytes of a value of type `type`; `none` for the types
the model does not read. A failed read leaves no value. -/
def dynamicColumnGetValue (type : DynamicColumnType) (data : List UInt8) :
    Option (DyncolFuncResult × DynamicColumnValue) :=
  match type with
  | .int => some (.ok, .int (sintOfUint (uintRead data)))
  | .uint => some (.ok, .uint (uintRead data))
  | .double => if data.length ≠ 8 then some (.format, .null) else some (.ok, .double (leValue data))
  | .string =>
    match varUintGet data with
    | (_, 0) => some (.format, .null)
    | (charset, length) => some (.ok, .string charset (data.drop length))
  | .null => some (.ok, .null)
  | .dyncol => some (.ok, .dyncol data)
  | .decimal | .datetime | .date | .time => none

/-! ### Header entries -/

/-- `type_and_offset_store_num`: `(offset << 3) | (type - 1)` in `offset_size` bytes, or
`none` (the source's `TRUE`) when the offset reaches the reserved all-ones value. -/
def typeAndOffsetStoreNum (offsetSize : ℕ) (type : DynamicColumnType) (offset : ℕ) :
    Option (List UInt8) :=
  let val := offset * 8 ||| (type.code - 1)
  match offsetSize with
  | 1 => if offset ≥ 0x1f then none else some [val.toUInt8]
  | 2 => if offset ≥ 0x1fff then none else some (intStore 2 val)
  | 3 => if offset ≥ 0x1fffff then none else some (intStore 3 val)
  | 4 => if offset ≥ 0x1fffffff then none else some (intStore 4 val)
  | _ => none

/-- `type_and_offset_read_num`: the type `(val & 7) + 1` and the offset `val >> 3`, or
`none` when the offset reaches the reserved value. -/
def typeAndOffsetReadNum (place : List UInt8) (offsetSize : ℕ) :
    Option (DynamicColumnType × ℕ) :=
  let read (val lim : ℕ) := if val / 8 ≥ lim then none else some (.ofCode (val % 8 + 1), val / 8)
  match offsetSize with
  | 1 => read (uintKorr 1 place) 0x1f
  | 2 => read (uintKorr 2 place) 0x1fff
  | 3 => read (uintKorr 3 place) 0x1fffff
  | 4 => read (uintKorr 4 place) 0x1fffffff
  | _ => none

/-- `dynamic_column_offset_bytes_num`: the offset size for a data pool of `dataLength` bytes,
`5` (`MAX_OFFSET_LENGTH + 1`) when none fits. -/
def dynamicColumnOffsetBytesNum (dataLength : ℕ) : ℕ :=
  if dataLength < 0x1f then 1
  else if dataLength < 0x1fff then 2
  else if dataLength < 0x1fffff then 3
  else if dataLength < 0x1fffffff then 4
  else 5

/-- `MAX_OFFSET_LENGTH`. -/
def maxOffsetLength : ℕ := 4

/-! ### Creating a blob -/

/-- What `calc_var_sizes` computes for the numeric format. -/
structure VarSizes where
  columnCount : ℕ
  dataSize : ℕ
  offsetSize : ℕ
  deriving DecidableEq, Repr

/-- `calc_var_sizes` for the numeric format: the stored (non-NULL) columns are counted and
their values measured; a data pool that needs `MAX_OFFSET_LENGTH` offset bytes or more is
`ER_DYNCOL_LIMIT`. -/
def calcVarSizes (columns : List (ℕ × DynamicColumnValue)) : Except DyncolFuncResult VarSizes :=
  let stored := columns.filter (fun column => column.2.type ≠ .null)
  let dataSize := (stored.map (fun column => dynamicColumnValueLen column.2)).sum
  let offsetSize := dynamicColumnOffsetBytesNum dataSize
  if offsetSize ≥ maxOffsetLength then .error .limit else .ok ⟨stored.length, dataSize, offsetSize⟩

/-- The loop of `dynamic_new_column_store` over the sorted columns: the header entry
(`put_header_entry_num`) and the data (`data_store`) of each stored column, `offset` being
the data written so far. -/
def storeColumns (offsetSize : ℕ) :
    List (ℕ × DynamicColumnValue) → ℕ → Except DyncolFuncResult (List UInt8 × List UInt8)
  | [], _ => .ok ([], [])
  | (key, value) :: rest, offset =>
    if value.type = .null then storeColumns offsetSize rest offset
    else
      match typeAndOffsetStoreNum offsetSize value.type offset with
      | none => .error .format
      | some typeAndOffset =>
        match storeColumns offsetSize rest (offset + (dataStore value).length) with
        | .error rc => .error rc
        | .ok (entries, data) => .ok (intStore 2 key ++ typeAndOffset ++ entries, dataStore value ++ data)

/-- The checks of `dynamic_new_column_store` on the columns sorted by number: a number above
`UINT_MAX16` (`check_limit_num`) or two equal numbers are `ER_DYNCOL_DATA`. -/
def checkSorted : List (ℕ × DynamicColumnValue) → Bool
  | [] => true
  | [(key, _)] => key ≤ 0xffff
  | (key, _) :: (key', value') :: rest => key ≤ 0xffff && key != key' && checkSorted ((key', value') :: rest)

/-- `dynamic_new_column_store` for the numeric format: no columns give the empty string;
otherwise the columns are sorted by number (`qsort` with `column_sort_num`), checked, and
written after the fixed header (`set_fixed_header_num`). -/
def dynamicNewColumnStore (sizes : VarSizes) (columns : List (ℕ × DynamicColumnValue)) :
    Except DyncolFuncResult (List UInt8) :=
  if columns = [] then .ok []
  else
    let order := columns.insertionSort (fun column column' => column.1 ≤ column'.1)
    if !checkSorted order then .error .data
    else
      match storeColumns sizes.offsetSize order 0 with
      | .error rc => .error rc
      | .ok (entries, data) =>
        .ok ((sizes.offsetSize - 1).toUInt8 :: intStore 2 sizes.columnCount ++ entries ++ data)

/-- `mariadb_dyncol_create_many_num` on the columns `(column_numbers[i], values[i])`. -/
def mariadbDyncolCreateManyNum (columns : List (ℕ × DynamicColumnValue)) :
    Except DyncolFuncResult (List UInt8) :=
  match calcVarSizes columns with
  | .error rc => .error rc
  | .ok sizes => dynamicNewColumnStore sizes columns

/-! ### Reading a blob -/

/-- The fields of `DYN_HEADER` that `init_read_hdr` fills. -/
structure DynHeader where
  names : Bool
  fixedHdr : ℕ
  offsetSize : ℕ
  columnCount : ℕ
  nmpoolSize : ℕ
  entrySize : ℕ
  headerSize : ℕ
  deriving DecidableEq, Repr

/-- `read_fixed_header` and `init_read_hdr`: `none` is `ER_DYNCOL_FORMAT`, for an unknown
flag or a blob shorter than its fixed header. -/
def initReadHdr (str : List UInt8) : Option DynHeader :=
  match str with
  | [] => none
  | flags :: _ =>
    if flags.toNat ≥ 8 then none
    else
      let names := flags.toNat &&& 4 ≠ 0
      let fixedHdr := if names then 5 else 3
      if str.length < fixedHdr then none
      else
        let offsetSize := flags.toNat % 4 + 1 + if names then 1 else 0
        let columnCount := uintKorr 2 (str.drop 1)
        some ⟨names, fixedHdr, offsetSize, columnCount,
          if names then uintKorr 2 (str.drop 3) else 0, 2 + offsetSize,
          (2 + offsetSize) * columnCount⟩

/-- The header entries: `count` slices of `entrySize` bytes. -/
def headerEntries (entrySize count : ℕ) (header : List UInt8) : List (List UInt8) :=
  (List.range count).map fun i => (header.drop (i * entrySize)).take entrySize

/-- `find_entry_num`: `bsearch` for the entry whose number equals the key as `int2store`
writes it, compared by `header_compar_num`. -/
def findEntryNum (entries : List (List UInt8)) (key : ℕ) : Option ℕ :=
  BinarySearch.bsearch (fun entry => compare (uintKorr 2 (intStore 2 key)) (uintKorr 2 entry))
    entries

/-- `DYNCOL_OFFSET_ERROR`. -/
def dyncolOffsetError : ℕ := 0xffffffff

/-- `hdr_interval_length` at entry `i`: its type and offset, and the length up to the next
entry's offset (a `size_t` difference) or to the end of the pool; `none` for
`DYNCOL_OFFSET_ERROR`. -/
def hdrIntervalLength (offsetSize : ℕ) (entries : List (List UInt8)) (dataSize i : ℕ) :
    Option (DynamicColumnType × ℕ × ℕ) :=
  match typeAndOffsetReadNum ((entries.getD i []).drop 2) offsetSize with
  | none => none
  | some (type, offset) =>
    if dataSize < offset then none
    else if i + 1 = entries.length then some (type, offset, dataSize - offset)
    else
      match typeAndOffsetReadNum ((entries.getD (i + 1) []).drop 2) offsetSize with
      | none => none
      | some (_, next) =>
        if dataSize < next then none
        else some (type, offset, ((next : ℤ) - offset) % 2 ^ 64 |>.toNat)

/-- What `find_column` leaves: an error, no column, or the type and the bytes of the
column's value. -/
inductive FoundColumn
  | error
  | absent
  | found (type : DynamicColumnType) (data : List UInt8)
  deriving DecidableEq, Repr

/-- `INT_MAX`. -/
def intMax : ℕ := 2 ^ 31 - 1

/-- `find_column` in the numeric format. -/
def findColumn (str : List UInt8) (hdr : DynHeader) (numkey : ℕ) : FoundColumn :=
  if hdr.fixedHdr + hdr.headerSize > str.length then .error
  else
    let entries := headerEntries hdr.entrySize hdr.columnCount (str.drop hdr.fixedHdr)
    let dataSize := str.length - hdr.fixedHdr - hdr.headerSize
    match findEntryNum entries numkey with
    | none => .absent
    | some i =>
      match hdrIntervalLength hdr.offsetSize entries dataSize i with
      | none => .error
      | some (type, offset, length) =>
        if length = dyncolOffsetError ∨ length > intMax ∨ offset > dataSize then .error
        else .found type (((str.drop (hdr.fixedHdr + hdr.headerSize)).drop offset).take length)

/-- `mariadb_dyncol_get_num`: the result code and the value; `none` outside the model (the
names format, and values of the types the model does not read). After `find_column` fails
the code is still the `ER_DYNCOL_OK` of `init_read_hdr`. -/
def mariadbDyncolGetNum (str : List UInt8) (columnNr : ℕ) :
    Option (DyncolFuncResult × DynamicColumnValue) :=
  if str = [] then some (.ok, .null)
  else
    match initReadHdr str with
    | none => some (.format, .null)
    | some hdr =>
      if hdr.names then none
      else if hdr.columnCount = 0 then some (.ok, .null)
      else
        match findColumn str hdr columnNr with
        | .error | .absent => some (.ok, .null)
        | .found type data => dynamicColumnGetValue type data

/-- `mariadb_dyncol_exists_num`: `ER_DYNCOL_YES` when the column is stored, `ER_DYNCOL_NO`
when not; `none` for the names format. -/
def mariadbDyncolExistsNum (str : List UInt8) (columnNr : ℕ) : Option DyncolFuncResult :=
  if str = [] then some .ok
  else
    match initReadHdr str with
    | none => some .format
    | some hdr =>
      if hdr.names then none
      else if hdr.columnCount = 0 then some .ok
      else
        match findColumn str hdr columnNr with
        | .error => some .format
        | .absent => some .ok
        | .found _ _ => some .yes

/-! ### Only the low 16 bits of a column number are looked up -/

theorem intStore_two_mod (key : ℕ) : intStore 2 (key % 65536) = intStore 2 key := by
  have low : key % 65536 % 256 = key % 256 := by omega
  have high : key % 65536 / 256 % 256 = key / 256 % 256 := by omega
  simp only [intStore, low, high]

theorem findEntryNum_mod (entries : List (List UInt8)) (key : ℕ) :
    findEntryNum entries (key % 65536) = findEntryNum entries key := by
  rw [findEntryNum, findEntryNum, intStore_two_mod]

theorem findColumn_mod (str : List UInt8) (hdr : DynHeader) (key : ℕ) :
    findColumn str hdr (key % 65536) = findColumn str hdr key := by
  simp only [findColumn, findEntryNum_mod]

/-- `mariadb_dyncol_get_num` answers for a column number what it answers for its low 16
bits, whatever the blob. -/
theorem mariadbDyncolGetNum_mod (str : List UInt8) (key : ℕ) :
    mariadbDyncolGetNum str (key % 65536) = mariadbDyncolGetNum str key := by
  simp only [mariadbDyncolGetNum, findColumn_mod]

/-- So does `mariadb_dyncol_exists_num`. -/
theorem mariadbDyncolExistsNum_mod (str : List UInt8) (key : ℕ) :
    mariadbDyncolExistsNum str (key % 65536) = mariadbDyncolExistsNum str key := by
  simp only [mariadbDyncolExistsNum, findColumn_mod]


/-- `COLUMN_GET(COLUMN_CREATE(1, 7), 65537 AS INT)`: the blob of the one column `1` holding
the integer `7` answers for the number `65537`, which it does not hold, with `7`, and
`COLUMN_EXISTS` says it is there. And a packed dynamic-column value stored in the numeric
format comes back as an integer: the type code `9` does not fit the three type bits, and its
high bit lands in the offset. -/
theorem dyncol_num_lookup_diverges :
    mariadbDyncolCreateManyNum [(1, .int 7)] = .ok [0, 1, 0, 1, 0, 0, 14] ∧
      mariadbDyncolGetNum [0, 1, 0, 1, 0, 0, 14] 65537 = some (.ok, .int 7) ∧
      mariadbDyncolExistsNum [0, 1, 0, 1, 0, 0, 14] 65537 = some .yes ∧
      mariadbDyncolCreateManyNum [(1, .dyncol [0, 2])] = .ok [0, 1, 0, 1, 0, 8, 0, 2] ∧
      mariadbDyncolGetNum [0, 1, 0, 1, 0, 8, 0, 2] 1 = some (.ok, .int 1) := by
  refine ⟨rfl, ?_, ?_, rfl, by decide⟩
  · rw [← mariadbDyncolGetNum_mod]
    decide
  · rw [← mariadbDyncolExistsNum_mod]
    decide

end MariaDB.Dyncol
