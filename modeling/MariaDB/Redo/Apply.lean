/-
Applying stored page records to a page frame: `log_phys_t::apply` for the records that
`recv_sys_t::parse` stores.

`apply` checks a record again against the physical page size and then writes it: `WRITE` copies
its bytes, `MEMMOVE` copies within the frame, and `MEMSET` copies its pattern of `rlen` bytes
over and over, `for (s= 0; s < llen; s+= rlen)`, and then the `llen - s` bytes that are left,
a `size_t`. When the pattern length divides the target length this fills the target with the
pattern. `parse` only checks that the pattern is no longer than the target, so it lets through
an empty pattern, for which the loop never ends, and a pattern whose length does not divide the
target length, for which the last round writes past the target and `llen - s` wraps round to
nearly `2^64`.
-/

import MariaDB.Redo.Record

namespace MariaDB.Redo

/-! ### Copies into the frame -/

/-- The frame with `source` written from `dest` on. -/
def copyBytes (frame : List UInt8) (dest : ℕ) (source : List UInt8) : List UInt8 :=
  frame.take dest ++ source ++ frame.drop (dest + source.length)

/-- `memcpy(frame + dest, source, count)`: `none` when it reads past the end of `source` or
writes past the end of the frame. -/
def memcpy (frame : List UInt8) (dest : ℕ) (source : List UInt8) (count : ℕ) :
    Option (List UInt8) :=
  if count ≤ source.length ∧ dest + count ≤ frame.length then
    some (copyBytes frame dest (source.take count))
  else none

section Copy

variable {frame : List UInt8} {dest : ℕ}

theorem length_copyBytes {source : List UInt8} (fits : dest + source.length ≤ frame.length) :
    (copyBytes frame dest source).length = frame.length := by
  rw [copyBytes, List.length_append, List.length_append, List.length_take, List.length_drop]
  omega

theorem copyBytes_nil : copyBytes frame dest [] = frame := by
  rw [copyBytes, List.append_nil, List.length_nil, Nat.add_zero, List.take_append_drop]

/-- Two copies one after the other are one copy of both. -/
theorem copyBytes_copyBytes {front back : List UInt8}
    (fits : dest + front.length + back.length ≤ frame.length) :
    copyBytes (copyBytes frame dest front) (dest + front.length) back =
      copyBytes frame dest (front ++ back) := by
  have frontLength : (frame.take dest ++ front).length = dest + front.length := by
    rw [List.length_append, List.length_take]
    omega
  have split : copyBytes frame dest front =
      (frame.take dest ++ front) ++ frame.drop (dest + front.length) := rfl
  rw [copyBytes, split, List.take_left' frontLength, List.drop_append,
    List.drop_eq_nil_of_le (by rw [frontLength]; omega), List.nil_append, frontLength,
    List.drop_drop, copyBytes, List.length_append]
  simp only [List.append_assoc]
  congr 4
  omega

/-- From the place of a copy on, the frame holds the copy and then what was there after it. -/
theorem drop_copyBytes {source : List UInt8} (inside : dest ≤ frame.length) :
    (copyBytes frame dest source).drop dest = source ++ frame.drop (dest + source.length) := by
  rw [copyBytes, List.append_assoc, List.drop_left' (by rw [List.length_take]; omega)]

/-- Copying the bytes a frame already holds leaves it as it was. -/
theorem copyBytes_self {count : ℕ} (fits : dest + count ≤ frame.length) :
    copyBytes frame dest ((frame.drop dest).take count) = frame := by
  have length : ((frame.drop dest).take count).length = count := by
    rw [List.length_take, List.length_drop]
    omega
  have rest : frame.drop (dest + count) = (frame.drop dest).drop count := by
    rw [List.drop_drop]
  rw [copyBytes, length, rest, List.append_assoc, List.take_append_drop, List.take_append_drop]


theorem memcpy_eq {source : List UInt8} {count : ℕ} (present : count ≤ source.length)
    (fits : dest + count ≤ frame.length) :
    memcpy frame dest source count = some (copyBytes frame dest (source.take count)) := by
  rw [memcpy, if_pos ⟨present, fits⟩]

end Copy

/-- How applying records ends: with the frame and the byte offset for the next record, with the
log found corrupted, with an access outside the record or the frame, with a loop that has not
ended, or at an `EXTENDED` record, whose page operations this model does not follow. -/
inductive Outcome (α : Type)
  | ok (value : α)
  | corrupted
  | outOfBounds
  | outOfFuel
  | unsupported
  deriving Repr, DecidableEq

def Outcome.map {α β : Type} (f : α → β) : Outcome α → Outcome β
  | .ok value => .ok (f value)
  | .corrupted => .corrupted
  | .outOfBounds => .outOfBounds
  | .outOfFuel => .outOfFuel
  | .unsupported => .unsupported

/-! ### The `MEMSET` loop -/

/-- The `MEMSET` loop of `apply` for a pattern of `rlen ≠ 1` bytes read from `source`, into the
target of `len` bytes at `offset`: `memcpy(frame + last_offset + s, l, rlen)` while `s < llen`,
`s` going up by `rlen`, then `memcpy(frame + last_offset + s, l, llen - s)` with `llen - s` a
`size_t`. -/
def memsetLoop (offset len rlen : ℕ) (source : List UInt8) :
    ℕ → ℕ → List UInt8 → Outcome (List UInt8)
  | 0, _, _ => .outOfFuel
  | fuel + 1, s, frame =>
    if s < len then
      match memcpy frame (offset + s) source rlen with
      | none => .outOfBounds
      | some frame => memsetLoop offset len rlen source fuel (s + rlen) frame
    else
      match memcpy frame (offset + s) source (((len : ℤ) - s) % 2 ^ 64).toNat with
      | none => .outOfBounds
      | some frame => .ok frame

/-- The target of `len` bytes filled with `pattern` over and over: byte `i` is
`pattern[i mod r]`. -/
def fillPattern (pattern : List UInt8) (len : ℕ) : List UInt8 :=
  (List.range len).map fun i => pattern.getD (i % pattern.length) 0

section Fill

variable {pattern : List UInt8}

@[simp] theorem length_fillPattern (len : ℕ) : (fillPattern pattern len).length = len := by
  rw [fillPattern, List.length_map, List.length_range]

/-- A whole number of patterns and one pattern more is one pattern longer. -/
theorem fillPattern_add_length {count : ℕ} (whole : pattern.length ∣ count) :
    fillPattern pattern (count + pattern.length) = fillPattern pattern count ++ pattern := by
  rw [fillPattern, List.range_add, List.map_append, ← fillPattern]
  congr 1
  apply List.ext_getElem (by simp)
  intro i below _
  rw [List.length_map, List.length_map, List.length_range] at below
  have position : (count + i) % pattern.length = i := by
    rw [Nat.add_mod, Nat.mod_eq_zero_of_dvd whole, Nat.zero_add, Nat.mod_mod,
      Nat.mod_eq_of_lt below]
  rw [List.getElem_map, List.getElem_map, List.getElem_range, position, List.getD_eq_getElem]

theorem fillPattern_zero : fillPattern pattern 0 = [] := rfl

end Fill

/-- `MEMSET` in `apply`: the loop for a pattern of other than one byte, `memset` for one byte. -/
def applyMemset (offset len rlen : ℕ) (source : List UInt8) (fuel : ℕ) (frame : List UInt8) :
    Outcome (List UInt8) :=
  if rlen ≠ 1 then memsetLoop offset len rlen source fuel 0 frame
  else if offset + len ≤ frame.length then
    .ok (copyBytes frame offset (List.replicate len (source.getD 0 0)))
  else .outOfBounds

section Loop

variable {offset len rlen : ℕ} {source : List UInt8}

/-- From a whole number of patterns written, the loop writes the rest of the target and then,
with nothing left, a copy of no bytes. -/
theorem memsetLoop_of_filled (positive : 0 < rlen) (present : rlen ≤ source.length)
    (divides : rlen ∣ len) {frame : List UInt8} (fits : offset + len ≤ frame.length) :
    ∀ (fuel count : ℕ), rlen ∣ count → count ≤ len → (len - count) / rlen < fuel →
      memsetLoop offset len rlen source fuel count
          (copyBytes frame offset (fillPattern (source.take rlen) count)) =
        .ok (copyBytes frame offset (fillPattern (source.take rlen) len)) := by
  have patternLength : (source.take rlen).length = rlen := List.length_take_of_le present
  intro fuel
  induction fuel with
  | zero => intro count _ _ enough; exact absurd enough (Nat.not_lt_zero _)
  | succ fuel inductionHypothesis =>
    intro count whole countLe enough
    have filledLength : (copyBytes frame offset (fillPattern (source.take rlen) count)).length =
        frame.length := length_copyBytes (by rw [length_fillPattern]; omega)
    rw [memsetLoop]
    by_cases short : count < len
    · -- one more pattern fits before the end of the target
      have next : count + rlen ≤ len := by
        obtain ⟨k, rfl⟩ := whole
        obtain ⟨m, rfl⟩ := divides
        have : k < m := Nat.lt_of_mul_lt_mul_left short
        calc rlen * k + rlen = rlen * (k + 1) := by ring
          _ ≤ rlen * m := Nat.mul_le_mul_left _ this
      rw [if_pos short, memcpy_eq present (by rw [filledLength]; omega)]
      have appended := @copyBytes_copyBytes frame offset (fillPattern (source.take rlen) count)
        (source.take rlen) (by rw [length_fillPattern, patternLength]; omega)
      have grown := @fillPattern_add_length (source.take rlen) count
        (by rw [patternLength]; exact whole)
      rw [length_fillPattern] at appended
      rw [patternLength] at grown
      rw [appended, ← grown]
      refine inductionHypothesis (count + rlen) (Nat.dvd_add whole (Nat.dvd_refl _)) next ?_
      have step : (len - count) / rlen = (len - (count + rlen)) / rlen + 1 := by
        rw [show len - count = len - (count + rlen) + rlen by omega, Nat.add_div_right _ positive]
      omega
    · -- the target is full: the last copy has no bytes
      have full : count = len := by omega
      subst full
      rw [if_neg short, sub_self, Int.zero_emod, Int.toNat_zero,
        memcpy_eq (Nat.zero_le _) (by rw [filledLength]; omega), List.take_zero, copyBytes_nil]

/-- A pattern of `rlen ≥ 1` bytes whose length divides the target length fills the target:
byte `i` of it is `pattern[i mod rlen]`, and the rest of the frame is kept. -/
theorem memsetLoop_fill (positive : 0 < rlen) (present : rlen ≤ source.length)
    (divides : rlen ∣ len) {frame : List UInt8} (fits : offset + len ≤ frame.length) {fuel : ℕ}
    (enough : len / rlen < fuel) :
    memsetLoop offset len rlen source fuel 0 frame =
      .ok (copyBytes frame offset (fillPattern (source.take rlen) len)) := by
  have start := memsetLoop_of_filled positive present divides fits fuel 0 (Nat.dvd_zero _)
    (Nat.zero_le _) (by rwa [Nat.sub_zero])
  rwa [fillPattern_zero, copyBytes_nil] at start

/-- `MEMSET` fills its target with the pattern when the pattern is not empty and its length
divides the target length; a one-byte pattern takes the `memset` branch. -/
theorem applyMemset_fill (positive : 0 < rlen) (present : rlen ≤ source.length)
    (divides : rlen ∣ len) {frame : List UInt8} (fits : offset + len ≤ frame.length) {fuel : ℕ}
    (enough : len / rlen < fuel) :
    applyMemset offset len rlen source fuel frame =
      .ok (copyBytes frame offset (fillPattern (source.take rlen) len)) := by
  unfold applyMemset
  by_cases single : rlen = 1
  · subst single
    rw [if_neg (not_not.mpr rfl), if_pos fits]
    congr 2
    apply List.ext_getElem (by simp)
    intro i _ _
    simp only [fillPattern, List.getElem_map, List.getElem_replicate, List.length_take,
      Nat.min_eq_left present, Nat.mod_one]
    cases source with
    | nil => exact absurd present (by simp)
    | cons first rest => rfl
  · rw [if_pos single]
    exact memsetLoop_fill positive present divides fits enough

/-- An empty pattern never moves the loop on: it copies no bytes again and again. -/
theorem memsetLoop_empty_pattern (positive : 0 < len) {frame : List UInt8}
    (inside : offset ≤ frame.length) :
    ∀ fuel, memsetLoop offset len 0 source fuel 0 frame = .outOfFuel := by
  intro fuel
  induction fuel with
  | zero => rfl
  | succ fuel inductionHypothesis =>
    rw [memsetLoop, if_pos positive, memcpy_eq (Nat.zero_le _) (by omega), List.take_zero,
      copyBytes_nil, Nat.add_zero]
    exact inductionHypothesis

/-- A pattern whose length does not divide the target length never ends well: the last round
goes past the target, and the copy after the loop is of `llen - s < 0` bytes as a `size_t`,
more than the record holds. -/
theorem memsetLoop_overrun (positive : 0 < rlen) (notDivides : ¬ rlen ∣ len)
    (short : source.length + rlen < 2 ^ 64) :
    ∀ (fuel count : ℕ) (frame result : List UInt8), rlen ∣ count → count < len + rlen →
      memsetLoop offset len rlen source fuel count frame ≠ .ok result := by
  intro fuel
  induction fuel with
  | zero => intro count frame result _ _ stopped; cases stopped
  | succ fuel inductionHypothesis =>
    intro count frame result whole below
    rw [memsetLoop]
    by_cases inTarget : count < len
    · rw [if_pos inTarget]
      cases memcpy frame (offset + count) source rlen with
      | none => intro stopped; cases stopped
      | some frame =>
        exact inductionHypothesis (count + rlen) frame result (Nat.dvd_add whole (Nat.dvd_refl _))
          (by omega)
    · -- past the target: `llen - s` wraps round
      have past : len < count := by
        rcases Nat.lt_or_ge len count with less | atMost
        · exact less
        · exact absurd (show count = len by omega ▸ whole) notDivides
      have wrapped : (((len : ℤ) - count) % 2 ^ 64).toNat = 2 ^ 64 - (count - len) := by
        omega
      rw [if_neg inTarget, wrapped, memcpy, if_neg (by omega)]
      intro stopped
      cases stopped

end Loop

/-! ### One record -/

/-- The four bytes of a page number or tablespace identifier, most significant first, as
`mach_write_to_4` writes them. -/
def bigEndian4 (n : ℕ) : List UInt8 :=
  [UInt8.ofNat (n / 2 ^ 24), UInt8.ofNat (n / 2 ^ 16), UInt8.ofNat (n / 2 ^ 8), UInt8.ofNat n]

/-- `INIT_PAGE`: a zero frame with the page number at `FIL_PAGE_OFFSET`, `0xff` in
`FIL_PAGE_PREV` and `FIL_PAGE_NEXT`, and the tablespace at `FIL_PAGE_SPACE_ID`. -/
def initFrame (size space page : ℕ) : List UInt8 :=
  copyBytes (copyBytes (copyBytes (List.replicate size 0) 4 (bigEndian4 page)) 8
    (List.replicate 8 0xff)) 34 (bigEndian4 space)

/-- The body of a `WRITE`, `MEMSET` or `MEMMOVE` record in `apply`, from `l` with `rlen` bytes:
the offset and length checks against the physical size `size`, then the write. `last_offset` is
a `uint16_t`, the source offset of `MEMMOVE` a `uint32_t`. -/
def applyRange (onCorrupted : Outcome (List UInt8 × ℕ)) (size : ℕ) (type : RecordType)
    (record : List UInt8) (l rlen : ℕ) (fuel : ℕ) (frame : List UInt8) (lastOffset : ℕ) :
    Outcome (List UInt8 × ℕ) :=
  if lastOffset = 1 then onCorrupted
  else
    let olen := decodeVarintLength (record.getD l 0)
    if rlen ≤ olen ∨ 3 < olen then onCorrupted
    else
      let offset := decodeVarint record l
      if size ≤ offset then onCorrupted
      else if offset + lastOffset < 8 ∨ size ≤ offset + lastOffset then onCorrupted
      else
        let lastOffset := (lastOffset + offset) % 2 ^ 16
        let l := l + olen
        let rlen := rlen - olen
        if type = .write then
          if size < rlen + lastOffset then onCorrupted
          else match memcpy frame lastOffset (record.drop l) rlen with
            | none => .outOfBounds
            | some frame => .ok (frame, (lastOffset + rlen) % 2 ^ 16)
        else
          let llen := decodeVarintLength (record.getD l 0)
          if rlen < llen ∨ 3 < llen then onCorrupted
          else
            let len := decodeVarint record l
            if size < len + lastOffset then onCorrupted
            else
              let l := l + llen
              let rlen := rlen - llen
              if type = .memset then
                (applyMemset lastOffset len rlen (record.drop l) fuel frame).map
                  fun frame => (frame, (lastOffset + len) % 2 ^ 16)
              else
                let slen := decodeVarintLength (record.getD l 0)
                if slen ≠ rlen ∨ 3 < slen then onCorrupted
                else
                  let s := decodeVarint record l
                  let source := if s % 2 = 1 then (lastOffset + 2 ^ 32 - s / 2 - 1) % 2 ^ 32
                    else (lastOffset + s / 2 + 1) % 2 ^ 32
                  if 8 ≤ source ∧ source + len ≤ size then
                    match memcpy frame lastOffset ((frame.drop source).take len) len with
                    | none => .outOfBounds
                    | some frame => .ok (frame, (lastOffset + len) % 2 ^ 16)
                  else onCorrupted

/-- One record of `log_phys_t::apply` on the frame of page `page` of tablespace `space`, with
the byte offset where the previous record on the page ended. The length of the rest of the
record is a `size_t` here. -/
def applyRecord (forceRecovery : Bool) (size space page fuel : ℕ) (record : List UInt8)
    (frame : List UInt8) (lastOffset : ℕ) : Outcome (List UInt8 × ℕ) :=
  let b := record.getD 0 0
  let onCorrupted : Outcome (List UInt8 × ℕ) :=
    if forceRecovery then .ok (frame, 1) else .corrupted
  let header : ℕ × ℕ :=
    if (b &&& 0xf).toNat ≠ 0 then (1, (b &&& 0xf).toNat)
    else
      let lenlen := decodeVarintLength (record.getD 1 0)
      (1 + lenlen, ((decodeVarint record 1 + 15) % 2 ^ 32 + 2 ^ 64 - lenlen) % 2 ^ 64)
  -- a record for a new page steps over the page identifier `parse` checked
  let body : ℕ × ℕ × ℕ :=
    if b &&& 0x80 = 0 then
      let idlen := decodeVarintLength (record.getD header.1 0)
      let idlen' := decodeVarintLength (record.getD (header.1 + idlen) 0)
      (header.1 + idlen + idlen', (header.2 + 2 ^ 64 - idlen + 2 ^ 64 - idlen') % 2 ^ 64, 0)
    else (header.1, header.2, lastOffset)
  let (l, rlen, lastOffset) := body
  match RecordType.ofByte b with
  | .freePage => .ok (frame, 1)
  | .initPage => if rlen = 0 then .ok (initFrame size space page, filPageType) else onCorrupted
  | .option => .ok (frame, lastOffset)
  | .extended => if page < 3 ∨ rlen = 0 then onCorrupted else .unsupported
  | .reserved => onCorrupted
  | .write => applyRange onCorrupted size .write record l rlen fuel frame lastOffset
  | .memset => applyRange onCorrupted size .memset record l rlen fuel frame lastOffset
  | .memmove => applyRange onCorrupted size .memmove record l rlen fuel frame lastOffset

/-- `apply` over the records stored for a page, in order, the byte offset passed on. -/
def applyRecords (forceRecovery : Bool) (size space page fuel : ℕ) :
    List (List UInt8) → List UInt8 → ℕ → Outcome (List UInt8 × ℕ)
  | [], frame, lastOffset => .ok (frame, lastOffset)
  | record :: rest, frame, lastOffset =>
    match applyRecord forceRecovery size space page fuel record frame lastOffset with
    | .ok (frame, lastOffset) => applyRecords forceRecovery size space page fuel rest frame lastOffset
    | other => other

/-- Records applied one after the other: the second list goes on from where the first ended. -/
theorem applyRecords_append {forceRecovery : Bool} {size space page fuel : ℕ}
    {more : List (List UInt8)} :
    ∀ {records : List (List UInt8)} {frame frame' : List UInt8} {lastOffset lastOffset' : ℕ},
      applyRecords forceRecovery size space page fuel records frame lastOffset =
          .ok (frame', lastOffset') →
      applyRecords forceRecovery size space page fuel (records ++ more) frame lastOffset =
        applyRecords forceRecovery size space page fuel more frame' lastOffset'
  | [], frame, frame', lastOffset, lastOffset', applied => by
    rw [applyRecords] at applied
    cases applied
    rfl
  | record :: rest, frame, frame', lastOffset, lastOffset', applied => by
    rw [List.cons_append, applyRecords]
    rw [applyRecords] at applied
    cases first : applyRecord forceRecovery size space page fuel record frame lastOffset with
    | ok result =>
      rw [first] at applied
      exact applyRecords_append applied
    | _ => rw [first] at applied; cases applied

/-- Two `MEMSET` records for page 1 of the system tablespace at byte 96 that `parse` accepts on
a 16 KiB page: an empty pattern with 16 bytes to fill, for which `apply` never ends, and a
two-byte pattern with 3 bytes to fill, for which `apply` goes out of bounds. -/
theorem parse_apply_memset_unbounded :
    parse ⟨16384, false, fun _ => true, fun _ _ => false⟩ [0x44, 0x00, 0x01, 0x60, 0x10, 0x00] =
        .parsed [⟨0, 1, [0x44, 0x00, 0x01, 0x60, 0x10]⟩] 6 ∧
      (∀ fuel, applyRecords false 16384 0 1 fuel [[0x44, 0x00, 0x01, 0x60, 0x10]]
        (List.replicate 16384 0) 0 = .outOfFuel) ∧
    parse ⟨16384, false, fun _ => true, fun _ _ => false⟩
        [0x46, 0x00, 0x01, 0x60, 0x03, 0xaa, 0xbb, 0x00] =
        .parsed [⟨0, 1, [0x46, 0x00, 0x01, 0x60, 0x03, 0xaa, 0xbb]⟩] 8 ∧
      ∀ fuel result, applyRecords false 16384 0 1 fuel
        [[0x46, 0x00, 0x01, 0x60, 0x03, 0xaa, 0xbb]] (List.replicate 16384 0) 0 ≠ .ok result := by
  have emptyPattern : ∀ fuel frame, applyRecord false 16384 0 1 fuel
      [0x44, 0x00, 0x01, 0x60, 0x10] frame 0 =
        (memsetLoop 96 16 0 [] fuel 0 frame).map fun frame => (frame, 112) := fun _ _ => rfl
  have shortPattern : ∀ fuel frame, applyRecord false 16384 0 1 fuel
      [0x46, 0x00, 0x01, 0x60, 0x03, 0xaa, 0xbb] frame 0 =
        (memsetLoop 96 3 2 [0xaa, 0xbb] fuel 0 frame).map fun frame => (frame, 99) :=
    fun _ _ => rfl
  refine ⟨by decide, fun fuel => ?_, by decide, fun fuel result => ?_⟩
  · rw [applyRecords, emptyPattern, memsetLoop_empty_pattern (by decide)
      (by rw [List.length_replicate]; decide)]
    rfl
  · rw [applyRecords, shortPattern]
    cases loop : memsetLoop 96 3 2 [0xaa, 0xbb] fuel 0 (List.replicate 16384 0) with
    | ok frame =>
      exact absurd loop (@memsetLoop_overrun 96 3 2 [0xaa, 0xbb] (by decide) (by decide)
        (by decide) fuel 0 (List.replicate 16384 0) frame (Nat.dvd_zero 2) (by decide))
    | _ => intro stopped; cases stopped

end MariaDB.Redo
