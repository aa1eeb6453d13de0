/-
The redo log records of InnoDB and the parse of one mini-transaction in `recv_sys_t::parse`.

A mini-transaction is a string of records ended by a zero byte. The first byte of a record
holds the same-page flag (bit 7), the record type (bits 6..4) and the length of the rest
(bits 3..0; 0 means that a variable-length integer follows whose value plus 15 is the length).
A page record names its tablespace and page by two variable-length integers unless it is for
the page of the record before it. `WRITE`, `MEMSET` and `MEMMOVE` go on with a byte offset
relative to where the previous record on the page ended; `MEMSET` and `MEMMOVE` with a target
length; `WRITE` and `MEMSET` end with the bytes to write, `MEMMOVE` with a signed source offset.
`parse` first steps over the records to the zero byte, then checks every record and stores the
page records for the pages they name. File-level records (a first record with the same-page
flag) are outside this model.
-/

import Mathlib

namespace MariaDB.Redo

/-! ### Variable-length integers -/

/-- The loop of `mlog_decode_varint_length`: one more byte for each leading one bit. A byte has
eight bits, so eight rounds shift every bit out. -/
def varintLengthLoop : ℕ → UInt8 → ℕ → ℕ
  | 0, _, len => len
  | rounds + 1, first, len =>
    if first &&& 0x80 = 0 then len else varintLengthLoop rounds (first <<< 1) (len + 1)

/-- `mlog_decode_varint_length`. -/
def decodeVarintLength (first : UInt8) : ℕ := varintLengthLoop 8 first 1

/-- `MIN_2BYTE`, `MIN_3BYTE`, `MIN_4BYTE`, `MIN_5BYTE`: the least integer of each length. -/
def minTwoByte : ℕ := 2 ^ 7

def minThreeByte : ℕ := minTwoByte + 2 ^ 14

def minFourByte : ℕ := minThreeByte + 2 ^ 21

def minFiveByte : ℕ := minFourByte + 2 ^ 28

/-- `MLOG_DECODE_ERROR`, the `uint32_t` with all bits set. -/
def decodeError : ℕ := 2 ^ 32 - 1

/-- `mlog_decode_varint` of the integer at `pos`. -/
def decodeVarint (log : List UInt8) (pos : ℕ) : ℕ :=
  let byte := fun k => (log.getD (pos + k) 0).toNat
  let i := byte 0
  if i < minTwoByte then i
  else if i < 0xc0 then minTwoByte + ((i &&& 0x7f) <<< 8 ||| byte 1)
  else if i < 0xe0 then minThreeByte + ((i &&& 0x3f) <<< 16 ||| byte 1 <<< 8 ||| byte 2)
  else if i < 0xf0 then
    minFourByte + ((i &&& 0x1f) <<< 24 ||| byte 1 <<< 16 ||| byte 2 <<< 8 ||| byte 3)
  else if i = 0xf0 then
    let i := byte 1 <<< 24 ||| byte 2 <<< 16 ||| byte 3 <<< 8 ||| byte 4
    if i ≤ decodeError - minFiveByte then minFiveByte + i else decodeError
  else decodeError

/-! ### Record types -/

/-- `mrec_type_t`, the three type bits of a record's first byte. -/
inductive RecordType
  | freePage
  | initPage
  | extended
  | write
  | memset
  | memmove
  | reserved
  | option
  deriving Repr, DecidableEq

/-- The type of a record from its first byte: `b & 0x70`. -/
def RecordType.ofByte (b : UInt8) : RecordType :=
  match (b &&& 0x70).toNat / 16 with
  | 0 => .freePage
  | 1 => .initPage
  | 2 => .extended
  | 3 => .write
  | 4 => .memset
  | 5 => .memmove
  | 6 => .reserved
  | _ => .option

/-- `FIL_PAGE_TYPE`, where the byte offset stands after `INIT_PAGE` and the page-creating
`EXTENDED` records. -/
def filPageType : ℕ := 24

/-- `TRIM_PAGES`, the `EXTENDED` subtype that truncates an undo tablespace. -/
def trimPages : UInt8 := 10

/-! ### The environment of `parse` -/

/-- What `parse` reads besides the log: `srv_page_size`, whether `innodb_force_recovery` is set,
whether a page record may name a tablespace (a predefined one, one known from a `FILE_` record,
or any before the checkpoint is reached), and whether `TRIM_PAGES` may name a page (an undo
tablespace, at its page count). -/
structure Recovery where
  pageSize : ℕ
  forceRecovery : Bool
  spaceKnown : ℕ → Bool
  trimAllowed : ℕ → ℕ → Bool

/-- A page record as `recv_sys_t::add` stores it: its page and its bytes. -/
structure PageRecord where
  space : ℕ
  page : ℕ
  bytes : List UInt8
  deriving Repr, DecidableEq

/-! ### The end of the mini-transaction -/

/-- How the first loop of `parse` ends: at the zero byte, with a malformed record, or at the
end of the buffer (`return false`: not the whole mini-transaction is there). -/
inductive ScanResult
  | found (zeroAt : ℕ)
  | malformed
  | incomplete
  deriving Repr, DecidableEq

/-- The first loop of `parse`: from `pos`, step over the records to the zero byte. Each round
moves past at least the first byte of a record. -/
def scanEnd (env : Recovery) (log : List UInt8) : ℕ → ℕ → ScanResult
  | 0, _ => .incomplete
  | fuel + 1, pos =>
    if log.length ≤ pos then .incomplete
    else
      let b := log.getD pos 0
      if b = 0 then .found pos
      else if RecordType.ofByte b = .reserved ∧ !env.forceRecovery then .malformed
      else
        let l := pos + 1
        let rlen := (b &&& 0xf).toNat
        if log.length ≤ l + (if rlen = 0 then 16 else rlen) then .incomplete
        else if rlen ≠ 0 then scanEnd env log fuel (l + rlen)
        else
          let lenlen := decodeVarintLength (log.getD l 0)
          if log.length ≤ l + lenlen then .incomplete
          else
            let addlen := decodeVarint log l
            if addlen = decodeError then .malformed
            else scanEnd env log fuel (l + (addlen + 15) % 2 ^ 32)

/-- The start of a record's body and the record's end, as the second loop of `parse` reads its
length: `rlen= addlen + 15 - lenlen` in `uint32_t` after the length bytes. -/
def recordBounds (log : List UInt8) (pos : ℕ) : ℕ × ℕ :=
  let rlen := (log.getD pos 0 &&& 0xf).toNat
  if rlen ≠ 0 then (pos + 1, pos + 1 + rlen)
  else
    let lenlen := decodeVarintLength (log.getD (pos + 1) 0)
    let addlen := decodeVarint log (pos + 1)
    (pos + 1 + lenlen, pos + 1 + lenlen + (addlen + 15 + 2 ^ 32 - lenlen) % 2 ^ 32)

/-! ### The checks of `WRITE`, `MEMSET` and `MEMMOVE` -/

/-- The checks `parse` makes on the body of a `WRITE`, `MEMSET` or `MEMMOVE` record of `rlen`
bytes from `l`: the byte offset where the record leaves the page, or `none` for
`record_corrupted`. The arithmetic on `last_offset` and the source offset is `uint32_t`. -/
def checkRange (env : Recovery) (type : RecordType) (log : List UInt8)
    (l rlen lastOffset : ℕ) : Option ℕ :=
  if rlen = 0 ∨ lastOffset = 1 then none
  else
    let olen := decodeVarintLength (log.getD l 0)
    if rlen ≤ olen ∨ 3 < olen then none
    else
      let offset := decodeVarint log l
      if env.pageSize ≤ offset then none
      else
        let lastOffset := (lastOffset + offset) % 2 ^ 32
        if lastOffset < 8 ∨ env.pageSize ≤ lastOffset then none
        else
          let l := l + olen
          let rlen := rlen - olen
          if type = .write then
            if env.pageSize < rlen + lastOffset then none else some (lastOffset + rlen)
          else
            let llen := decodeVarintLength (log.getD l 0)
            if rlen < llen ∨ 3 < llen then none
            else
              let len := decodeVarint log l
              if env.pageSize < lastOffset + len then none
              else
                let l := l + llen
                let rlen := rlen - llen
                if type = .memset then
                  -- the pattern may be no longer than the target
                  if len < rlen then none else some (lastOffset + len)
                else
                  let slen := decodeVarintLength (log.getD l 0)
                  if slen ≠ rlen ∨ 3 < slen then none
                  else
                    let s := decodeVarint log l
                    let source := if s % 2 = 1 then (lastOffset + 2 ^ 32 - s / 2 - 1) % 2 ^ 32
                      else (lastOffset + s / 2 + 1) % 2 ^ 32
                    if source < 8 ∨ env.pageSize < (source + len) % 2 ^ 32 then none
                    else some (lastOffset + len)

/-! ### The second loop of `parse` -/

/-- What the second loop of `parse` carries from record to record. -/
structure ParseState where
  lastOffset : ℕ
  gotPageOp : Bool
  space : ℕ
  page : ℕ
  records : List PageRecord

/-- How one record of the second loop ends: on to the next record, with the log corrupted, or
at a file-level record. -/
inductive RecordStep
  | next (state : ParseState)
  | corrupted
  | fileLevel

/-- `record_corrupted`: with `innodb_force_recovery` the record is skipped and the next one
must not be for the same page. -/
def recordCorrupted (env : Recovery) (state : ParseState) : RecordStep :=
  if env.forceRecovery then .next { state with lastOffset := 1 } else .corrupted

/-- `page_id_corrupted`: with `innodb_force_recovery` the record is skipped. -/
def pageIdCorrupted (env : Recovery) (state : ParseState) : RecordStep :=
  if env.forceRecovery then .next state else .corrupted

/-- The `same_page:` part of the loop for a page record whose body is `l` to `finish`: the
checks of its type, and the record stored for its page. -/
def parsePageRecord (env : Recovery) (log : List UInt8) (pos l finish : ℕ)
    (state : ParseState) : RecordStep :=
  let rlen := finish - l
  let store := fun (lastOffset : ℕ) =>
    RecordStep.next { state with
      lastOffset := lastOffset,
      records := state.records ++
        [⟨state.space, state.page, (log.drop pos).take (finish - pos)⟩] }
  let checked := fun (type : RecordType) =>
    match checkRange env type log l rlen state.lastOffset with
    | none => recordCorrupted env state
    | some lastOffset => store lastOffset
  match RecordType.ofByte (log.getD pos 0) with
  | .freePage => if rlen ≠ 0 then recordCorrupted env state else store 1
  | .initPage => if rlen ≠ 0 then recordCorrupted env state else store filPageType
  | .extended =>
    if rlen = 0 then recordCorrupted env state
    else if rlen = 1 ∧ log.getD l 0 = trimPages then
      if env.trimAllowed state.space state.page then .next { state with lastOffset := 1 }
      else recordCorrupted env state
    else store filPageType
  | .reserved | .option => .next state
  | .write => checked .write
  | .memset => checked .memset
  | .memmove => checked .memmove

/-- One round of the second loop of `parse` for the record at `pos`: its page identifier
unless it is for the same page, and then its body. -/
def parseRecord (env : Recovery) (log : List UInt8) (pos : ℕ) (state : ParseState) :
    RecordStep :=
  let b := log.getD pos 0
  let (l, finish) := recordBounds log pos
  if b &&& 0x80 ≠ 0 ∧ state.gotPageOp then
    if RecordType.ofByte b = .freePage ∨ RecordType.ofByte b = .initPage then
      recordCorrupted env state
    else parsePageRecord env log pos l finish state
  else
    let state := { state with lastOffset := 0 }
    let idlen := decodeVarintLength (log.getD l 0)
    if 5 < idlen ∨ finish - l ≤ idlen then pageIdCorrupted env state
    else
      let space := decodeVarint log l
      let state := { state with space := space }
      if space = decodeError then pageIdCorrupted env state
      else
        let l := l + idlen
        let idlen := decodeVarintLength (log.getD l 0)
        if 5 < idlen ∨ finish - l < idlen then pageIdCorrupted env state
        else
          let page := decodeVarint log l
          let state := { state with page := page }
          if page = decodeError then pageIdCorrupted env state
          else
            let l := l + idlen
            let gotPageOp := b &&& 0x80 = 0
            let state := { state with gotPageOp := gotPageOp }
            if gotPageOp ∧ !env.spaceKnown space then pageIdCorrupted env state
            else if gotPageOp then parsePageRecord env log pos l finish state
            else if finish - l ≠ 0 then .fileLevel
            else .corrupted

/-- The second loop of `parse`: the records from `pos` to the zero byte. -/
def parseRecords (env : Recovery) (log : List UInt8) : ℕ → ℕ → ParseState → RecordStep
  | 0, _, state => .next state
  | fuel + 1, pos, state =>
    if log.length ≤ pos ∨ log.getD pos 0 = 0 then .next state
    else
      match parseRecord env log pos state with
      | .next state => parseRecords env log fuel (recordBounds log pos).2 state
      | other => other

/-- How `parse` ends on one mini-transaction. -/
inductive ParseResult
  | parsed (records : List PageRecord) (length : ℕ)
  | corrupted
  | incomplete
  | fileLevel
  deriving Repr, DecidableEq

/-- `recv_sys_t::parse` on one mini-transaction at the start of `log`: the page records stored,
and the length of the mini-transaction with its zero byte. -/
def parse (env : Recovery) (log : List UInt8) : ParseResult :=
  match scanEnd env log (log.length + 1) 0 with
  | .incomplete => .incomplete
  | .malformed => .corrupted
  | .found zeroAt =>
    match parseRecords env log (log.length + 1) 0 ⟨0, false, 0, 0, []⟩ with
    | .next state => .parsed state.records (zeroAt + 1)
    | .corrupted => .corrupted
    | .fileLevel => .fileLevel

end MariaDB.Redo
