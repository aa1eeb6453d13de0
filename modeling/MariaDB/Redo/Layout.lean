/-
The layout of the `WRITE`, `MEMSET` and `MEMMOVE` records that the `mtr_t` writers append, and
how the two readers of recovery read it back: the two loops of `recv_sys_t::parse` and
`log_phys_t::apply`.

A record is described by what it does to its page (`Change`): bytes written, a byte repeated,
or bytes copied from elsewhere on the page, from a byte offset. `rangeRecord` lays it down as
`log_write` and the writers do: the first byte with the type, the same-page flag and the length
(or the long form of the length after it), the page identifier unless the record is for the
page of the record before it, the byte offset relative to where that record ended, and the body.
The readers decode each field where it was laid down: the scan steps over the record, the parse
step stores it for its page after the checks of its type, and `apply` writes the change.
-/

import MariaDB.Redo.Writer
import MariaDB.Library.BitFields

namespace MariaDB.Redo

/-! ### What a record does to its page -/

/-- What a `WRITE`, `MEMSET` or `MEMMOVE` record does to its page from a byte offset: write
`data`, write `len` copies of `val`, or copy `len` bytes from `source` on the same page. -/
inductive Change
  | write (data : List UInt8)
  | memset (len : ℕ) (val : UInt8)
  | memmove (len source : ℕ)
  deriving DecidableEq, Repr

namespace Change

/-- The record type of a change. -/
def type : Change → RecordType
  | .write _ => .write
  | .memset .. => .memset
  | .memmove .. => .memmove

/-- How many bytes of the page a change writes. -/
def length : Change → ℕ
  | .write data => data.length
  | .memset len _ => len
  | .memmove len _ => len

/-- The source offset of a `MEMMOVE` to `d` as `mtr_t::memmove` logs it: relative to `d`, the
sign in the lowest bit, less two since the source offset 0 is not possible. -/
def relativeSource (d s : ℕ) : ℕ := (if s > d then (s - d) <<< 1 else (d - s) <<< 1 ||| 1) - 2

/-- The bytes after the byte offset in the record of a change at `offset`. -/
def body (offset : ℕ) : Change → List UInt8
  | .write data => data
  | .memset len val => encodeVarint len ++ [val]
  | .memmove len source => encodeVarint len ++ encodeVarint (relativeSource offset source)

/-- The frame after the change at `offset`. -/
def apply (offset : ℕ) (frame : List UInt8) : Change → List UInt8
  | .write data => copyBytes frame offset data
  | .memset len val => copyBytes frame offset (List.replicate len val)
  | .memmove len source => copyBytes frame offset ((frame.drop source).take len)

/-- The source of a `MEMMOVE` lies on the page past the first eight bytes and is not its target,
as `mtr_t::memmove` asserts; the other changes have none. -/
def SourceValid (size offset : ℕ) : Change → Prop
  | .memmove len source => 8 ≤ source ∧ source ≠ offset ∧ source + len ≤ size
  | _ => True

/-- A change at `offset` of a page of `size` bytes that the parser accepts and the writers
assert: past the first eight bytes, which is the guard of `recv_sys_t::parse`
(`last_offset < 8` is `record_corrupted`) and of the writers only `mtr_t::memmove` asserts; not
empty and inside the page (`ut_ad`); and ending below `2 ^ 16`, where the `uint16_t`
`m_last_offset` would wrap round. -/
structure Valid (size offset : ℕ) (change : Change) : Prop where
  header : 8 ≤ offset
  nonempty : 0 < change.length
  fits : offset + change.length ≤ size
  noWrap : offset + change.length < 2 ^ 16
  source : change.SourceValid size offset

instance (size offset : ℕ) : (change : Change) → Decidable (change.SourceValid size offset)
  | .write _ => isTrue trivial
  | .memset _ _ => isTrue trivial
  | .memmove len source =>
    inferInstanceAs (Decidable (8 ≤ source ∧ source ≠ offset ∧ source + len ≤ size))

instance (size offset : ℕ) (change : Change) : Decidable (change.Valid size offset) :=
  decidable_of_iff (8 ≤ offset ∧ 0 < change.length ∧ offset + change.length ≤ size ∧
      offset + change.length < 2 ^ 16 ∧ change.SourceValid size offset)
    ⟨fun ⟨header, nonempty, fits, noWrap, source⟩ => ⟨header, nonempty, fits, noWrap, source⟩,
      fun ⟨header, nonempty, fits, noWrap, source⟩ => ⟨header, nonempty, fits, noWrap, source⟩⟩

end Change

/-- `mlog_encode_varint` takes `varintWidth` bytes for a length below `MIN_4BYTE`. -/
theorem length_encodeVarint_of_lt {len : ℕ} (small : len < minFourByte) :
    (encodeVarint len).length = varintWidth len := by
  have least := minimums
  unfold encodeVarint varintWidth
  split_ifs <;> rfl

/-! ### The layout of a record -/

/-- The page identifier of a record that is not for the page of the record before it. -/
def pageIdBytes (same : Bool) (id : PageId) : List UInt8 :=
  if same then [] else encodeVarint id.space ++ encodeVarint id.page

/-- The first byte of a record and its length field, for a header of `headerEnd` bytes and
`len` bytes after it: the length in the low four bits, or a zero there and the long form. -/
def recordLead (type : RecordType) (same : Bool) (headerEnd len : ℕ) : List UInt8 :=
  let flag : UInt8 := if same then 0x80 else 0
  if headerEnd + len > 16 then (type.toByte ||| flag) :: encodeVarint (longLength len headerEnd)
  else [type.toByte ||| flag ||| (headerEnd + len - 1).toUInt8]

/-- The bytes of a record's header after the length field, with its first byte: `oend - log_ptr`
in `log_write`. -/
def headerEnd (same : Bool) (id : PageId) (offset : ℕ) : ℕ :=
  1 + (pageIdBytes same id).length + (encodeVarint offset).length

/-- A `WRITE`, `MEMSET` or `MEMMOVE` record as `log_write` and the writers lay it down: the first
byte and the length, the page identifier unless `same`, the byte offset as logged, the body. -/
def rangeRecord (type : RecordType) (same : Bool) (id : PageId) (offset : ℕ)
    (body : List UInt8) : List UInt8 :=
  recordLead type same (headerEnd same id offset) body.length ++ pageIdBytes same id ++
    encodeVarint offset ++ body

/-! ### Reading the first byte and the length back -/

/-- The first byte of a record with a byte offset holds its type, the same-page flag and the
length nibble, each where the decoders look for it. -/
theorem firstByte_fields : ∀ type ∈ [RecordType.write, .memset, .memmove], ∀ same : Bool,
    ∀ n < 16,
      RecordType.ofByte (type.toByte ||| (if same then 0x80 else 0) ||| n.toUInt8) = type ∧
      ((type.toByte ||| (if same then 0x80 else 0) ||| n.toUInt8) &&& 0x80 = 0 ↔
        same = false) ∧
      ((type.toByte ||| (if same then 0x80 else 0) ||| n.toUInt8) &&& 0xf).toNat = n := by
  decide

/-- The length of a variable-length integer laid down in a log reads back from its first
byte. -/
theorem varintLength_at {log pre rest : List UInt8} {i : ℕ}
    (layout : log = pre ++ encodeVarint i ++ rest) :
    decodeVarintLength (log.getD pre.length 0) = (encodeVarint i).length := by
  subst layout
  obtain ⟨width, least, -⟩ := length_encodeVarint i
  rw [width]
  cases encoded : encodeVarint i with
  | nil => rw [encoded, List.length_nil] at least; omega
  | cons first later =>
    rw [List.append_assoc, List.getD_append_right _ _ _ _ (Nat.le_refl _), Nat.sub_self,
      List.cons_append, List.getD_cons_zero, List.headD_cons]

/-- A variable-length integer laid down in a log reads back, with its length. -/
theorem varint_at {log pre rest : List UInt8} {i : ℕ} (small : i < decodeError)
    (layout : log = pre ++ encodeVarint i ++ rest) :
    decodeVarint log pre.length = i ∧
      decodeVarintLength (log.getD pre.length 0) = (encodeVarint i).length := by
  refine ⟨?_, varintLength_at layout⟩
  subst layout
  exact decodeVarint_encodeVarint small pre rest

/-- The long form counts the bytes from the sixteenth on and then those of its own encoding
beyond the first. -/
theorem longLength_add {len headerEnd : ℕ} (long : 16 < headerEnd + len)
    (fits : longLength len headerEnd < minFourByte) :
    longLength len headerEnd + 16 =
      headerEnd + len + (encodeVarint (longLength len headerEnd)).length := by
  have least := minimums
  rw [length_encodeVarint_of_lt fits]
  simp only [longLength, varintWidth] at fits ⊢
  split_ifs at fits ⊢ <;> omega

section Lead

variable {type : RecordType} {same : Bool} {headerEnd len : ℕ}

/-- What the decoders read from the lead of a record: the type and the same-page flag, and
either a length nibble that counts the rest of the record, or a zero nibble and a long form
whose value and encoding length count it. -/
theorem lead_cases (same : Bool) (headerEnd len : ℕ)
    (ranged : type = .write ∨ type = .memset ∨ type = .memmove) (fits : headerEnd + len < minFourByte) (pre more : List UInt8) :
    let log := pre ++ recordLead type same headerEnd len ++ more
    let b := log.getD pre.length 0
    RecordType.ofByte b = type ∧ (b &&& 0x80 = 0 ↔ same = false) ∧
      ((b &&& 0xf).toNat = headerEnd + len - 1 ∧ headerEnd + len ≤ 16 ∧
          (recordLead type same headerEnd len).length = 1 ∨
        (b &&& 0xf).toNat = 0 ∧ 16 < headerEnd + len ∧
          decodeVarint log (pre.length + 1) + 16 =
            headerEnd + len + decodeVarintLength (log.getD (pre.length + 1) 0) ∧
          (recordLead type same headerEnd len).length =
            1 + decodeVarintLength (log.getD (pre.length + 1) 0) ∧
          decodeVarint log (pre.length + 1) < minFourByte) := by
  intro log b
  have listed : type ∈ [RecordType.write, .memset, .memmove] := by
    rcases ranged with rfl | rfl | rfl <;> decide
  by_cases long : 16 < headerEnd + len
  · -- the long form: a zero nibble, then `longLength` as a variable-length integer
    have small : longLength len headerEnd < minFourByte := by
      simp only [longLength]
      split_ifs <;> omega
    have first : b = type.toByte ||| (if same then 0x80 else 0) := by
      simp only [b, log, recordLead, if_pos long, List.append_assoc, List.cons_append,
        List.getD_append_right _ _ _ _ (Nat.le_refl _), Nat.sub_self, List.getD_cons_zero]
    obtain ⟨typeIs, flagIs, nibbleIs⟩ := firstByte_fields type listed same 0 (by decide)
    rw [show (0 : ℕ).toUInt8 = 0 from rfl, UInt8.or_zero] at typeIs flagIs nibbleIs
    obtain ⟨value, width⟩ := @varint_at log (pre ++ [b]) more _ (Nat.lt_trans small (by decide))
      (by simp only [log, recordLead, if_pos long, first, List.append_assoc, List.cons_append,
        List.nil_append])
    rw [List.length_append, List.length_singleton] at value width
    refine ⟨first ▸ typeIs, first ▸ flagIs, Or.inr ⟨first ▸ nibbleIs, long, ?_, ?_, ?_⟩⟩
    · rw [value, width, longLength_add long small]
    · rw [width, recordLead, if_pos long, List.length_cons, Nat.add_comm]
    · rwa [value]
  · -- the short form: the length of the rest in the low four bits
    have first : b = type.toByte ||| (if same then 0x80 else 0) |||
        (headerEnd + len - 1).toUInt8 := by
      simp only [b, log, recordLead, if_neg long, List.append_assoc, List.cons_append,
        List.getD_append_right _ _ _ _ (Nat.le_refl _), Nat.sub_self, List.getD_cons_zero,
        List.nil_append]
    obtain ⟨typeIs, flagIs, nibbleIs⟩ :=
      firstByte_fields type listed same (headerEnd + len - 1) (by omega)
    refine ⟨first ▸ typeIs, first ▸ flagIs, Or.inl ⟨first ▸ nibbleIs, by omega, ?_⟩⟩
    rw [recordLead, if_neg long, List.length_singleton]

end Lead

/-! ### Stepping over a record -/

section Record

variable {type : RecordType} {same : Bool} {id : PageId} {offset : ℕ} {body : List UInt8}

/-- The header takes two to fourteen bytes for an offset below `2 ^ 16`. -/
theorem headerEnd_bounds (same : Bool) (id : PageId) (offsetShort : offset < 2 ^ 16) :
    2 ≤ headerEnd same id offset ∧ headerEnd same id offset ≤ 14 := by
  have offsetWidth : (encodeVarint offset).length ≤ 3 := by
    rw [length_encodeVarint_of_lt (Nat.lt_trans offsetShort (by decide)), varintWidth]
    split_ifs <;> omega
  have idsWidth : (pageIdBytes same id).length ≤ 10 := by
    obtain ⟨-, -, space⟩ := length_encodeVarint id.space
    obtain ⟨-, -, page⟩ := length_encodeVarint id.page
    unfold pageIdBytes
    split_ifs
    · simp
    · rw [List.length_append]
      omega
  obtain ⟨-, least, -⟩ := length_encodeVarint offset
  unfold headerEnd
  omega

theorem length_rangeRecord (type : RecordType) (same : Bool) (id : PageId) (offset : ℕ)
    (body : List UInt8) :
    (rangeRecord type same id offset body).length =
      (recordLead type same (headerEnd same id offset) body.length).length +
        (pageIdBytes same id).length + (encodeVarint offset).length + body.length := by
  simp only [rangeRecord, List.length_append]

variable (ranged : type = .write ∨ type = .memset ∨ type = .memmove)
  (offsetShort : offset < 2 ^ 16) (bodyShort : body.length < 2 ^ 16)
include ranged offsetShort bodyShort

/-- The second loop of `parse` finds the body after the lead and the end of the record. -/
theorem recordBounds_rangeRecord (pre more : List UInt8) :
    recordBounds (pre ++ rangeRecord type same id offset body ++ more) pre.length =
      (pre.length + (recordLead type same (headerEnd same id offset) body.length).length,
        pre.length + (rangeRecord type same id offset body).length) := by
  obtain ⟨two, fourteen⟩ := headerEnd_bounds same id offsetShort
  have layout : pre ++ rangeRecord type same id offset body ++ more =
      pre ++ recordLead type same (headerEnd same id offset) body.length ++
        (pageIdBytes same id ++ encodeVarint offset ++ body ++ more) := by
    simp only [rangeRecord, List.append_assoc]
  have total := length_rangeRecord type same id offset body
  have ends : 1 + (pageIdBytes same id).length + (encodeVarint offset).length =
      headerEnd same id offset := rfl
  obtain ⟨-, -, ⟨nibble, short, leadLength⟩ | ⟨nibble, long, value, leadLength, -⟩⟩ :=
    lead_cases same (headerEnd same id offset) body.length ranged
      (by simp only [minimums]; omega) pre
      (pageIdBytes same id ++ encodeVarint offset ++ body ++ more)
  · rw [layout, recordBounds]
    simp only [nibble]
    rw [if_pos (by omega)]
    rw [leadLength] at total ⊢
    ext
    · rfl
    · simp only
      omega
  · rw [layout, recordBounds]
    simp only [nibble, ne_eq, not_true_eq_false, if_false]
    rw [leadLength] at total ⊢
    ext
    · exact Nat.add_assoc _ _ _
    · simp only
      omega

/-- The first byte of the record names its type and is not the end marker. -/
theorem firstByte_rangeRecord (pre more : List UInt8) :
    RecordType.ofByte ((pre ++ rangeRecord type same id offset body ++ more).getD pre.length 0) =
        type ∧
      (pre ++ rangeRecord type same id offset body ++ more).getD pre.length 0 ≠ 0 := by
  obtain ⟨two, fourteen⟩ := headerEnd_bounds same id offsetShort
  have layout : pre ++ rangeRecord type same id offset body ++ more =
      pre ++ recordLead type same (headerEnd same id offset) body.length ++
        (pageIdBytes same id ++ encodeVarint offset ++ body ++ more) := by
    simp only [rangeRecord, List.append_assoc]
  obtain ⟨typeIs, -, -⟩ :=
    lead_cases same (headerEnd same id offset) body.length ranged
      (by simp only [minimums]; omega) pre
      (pageIdBytes same id ++ encodeVarint offset ++ body ++ more)
  rw [← layout] at typeIs
  refine ⟨typeIs, fun zero => ?_⟩
  rw [zero] at typeIs
  rcases ranged with rfl | rfl | rfl <;> cases typeIs

/-- The first loop of `parse` steps over the record when a byte follows it. -/
theorem scanEnd_rangeRecord (env : Recovery) (fuel : ℕ) (pre more : List UInt8)
    (followed : more ≠ []) :
    scanEnd env (pre ++ rangeRecord type same id offset body ++ more) (fuel + 1) pre.length =
      scanEnd env (pre ++ rangeRecord type same id offset body ++ more) fuel
        (pre.length + (rangeRecord type same id offset body).length) := by
  obtain ⟨two, fourteen⟩ := headerEnd_bounds same id offsetShort
  have layout : pre ++ rangeRecord type same id offset body ++ more =
      pre ++ recordLead type same (headerEnd same id offset) body.length ++
        (pageIdBytes same id ++ encodeVarint offset ++ body ++ more) := by
    simp only [rangeRecord, List.append_assoc]
  have total := length_rangeRecord type same id offset body
  have logLength : pre.length + (rangeRecord type same id offset body).length <
      (pre ++ rangeRecord type same id offset body ++ more).length := by
    simp only [List.length_append]
    have := List.length_pos_iff.mpr followed
    omega
  have ends : 1 + (pageIdBytes same id).length + (encodeVarint offset).length =
      headerEnd same id offset := rfl
  obtain ⟨typeIs, notZero⟩ := firstByte_rangeRecord ranged offsetShort bodyShort pre more
  obtain ⟨-, -, ⟨nibble, short, leadLength⟩ | ⟨nibble, long, value, leadLength, small⟩⟩ :=
    lead_cases same (headerEnd same id offset) body.length ranged
      (by simp only [minimums]; omega) pre
      (pageIdBytes same id ++ encodeVarint offset ++ body ++ more)
  all_goals
    rw [← layout] at nibble
    rw [scanEnd, if_neg (by omega), if_neg notZero, typeIs,
      if_neg (by rcases ranged with rfl | rfl | rfl <;> simp)]
  · have positive : headerEnd same id offset + body.length - 1 ≠ 0 := by omega
    simp only [nibble, positive, if_false]
    rw [leadLength] at total
    rw [if_neg (by omega), if_pos positive]
    congr 1
    omega
  · obtain ⟨-, -, four, -⟩ := minimums
    rw [← layout] at value leadLength small
    simp only [nibble, ↓reduceIte]
    rw [leadLength] at total
    rw [if_neg (by omega), if_neg (by omega), if_neg (by omega),
      if_neg (by unfold decodeError; omega)]
    congr 1
    omega

/-- The second loop of `parse` reads the page identifier of a record for a new page, or keeps
the page of the record before it, and goes on to the checks of the record's type. -/
theorem parseRecord_rangeRecord (env : Recovery) (state : ParseState) (pre more : List UInt8)
    (continues : same = true → state.gotPageOp = true)
    (named : same = false →
      env.spaceKnown id.space = true ∧ id.space < decodeError ∧ id.page < decodeError) :
    parseRecord env (pre ++ rangeRecord type same id offset body ++ more) pre.length state =
      parsePageRecord env (pre ++ rangeRecord type same id offset body ++ more) pre.length
        (pre.length + (recordLead type same (headerEnd same id offset) body.length).length +
          (pageIdBytes same id).length)
        (pre.length + (rangeRecord type same id offset body).length)
        (if same then state
          else
            { state with lastOffset := 0, space := id.space, page := id.page,
                         gotPageOp := true }) := by
  have layout : pre ++ rangeRecord type same id offset body ++ more =
      pre ++ recordLead type same (headerEnd same id offset) body.length ++
        (pageIdBytes same id ++ encodeVarint offset ++ body ++ more) := by
    simp only [rangeRecord, List.append_assoc]
  have total := length_rangeRecord type same id offset body
  obtain ⟨two, fourteen⟩ := headerEnd_bounds same id offsetShort
  obtain ⟨typeIs, flagIs, -⟩ :=
    lead_cases same (headerEnd same id offset) body.length ranged
      (by simp only [minimums]; omega) pre
      (pageIdBytes same id ++ encodeVarint offset ++ body ++ more)
  rw [← layout] at typeIs flagIs
  have notFresh : ¬ (RecordType.ofByte
      ((pre ++ rangeRecord type same id offset body ++ more).getD pre.length 0) = .freePage ∨
      RecordType.ofByte
        ((pre ++ rangeRecord type same id offset body ++ more).getD pre.length 0) = .initPage) := by
    rw [typeIs]
    rcases ranged with rfl | rfl | rfl <;> simp
  unfold parseRecord
  rw [recordBounds_rangeRecord ranged offsetShort bodyShort]
  cases same with
  | true =>
    -- the same-page flag is set and a page record came before: the page is kept
    have flagged : (pre ++ rangeRecord type true id offset body ++ more).getD pre.length 0 &&&
        0x80 ≠ 0 := fun clear => Bool.noConfusion (flagIs.mp clear)
    simp only [if_pos (And.intro flagged (continues rfl)), if_neg notFresh, if_true]
    simp only [pageIdBytes, if_true, List.length_nil, Nat.add_zero]
  | false =>
    -- a new page: its tablespace and page number follow the length
    obtain ⟨known, spaceSmall, pageSmall⟩ := named rfl
    have clear := flagIs.mpr rfl
    have ids : pageIdBytes false id = encodeVarint id.space ++ encodeVarint id.page := rfl
    obtain ⟨-, -, spaceWidth⟩ := length_encodeVarint id.space
    obtain ⟨-, pageLeast, pageWidth⟩ := length_encodeVarint id.page
    obtain ⟨space, spaceLength⟩ := varint_at spaceSmall
      (show pre ++ rangeRecord type false id offset body ++ more =
          pre ++ recordLead type false (headerEnd false id offset) body.length ++
            encodeVarint id.space ++ (encodeVarint id.page ++ encodeVarint offset ++ body ++ more)
        by rw [layout, ids]; simp only [List.append_assoc])
    obtain ⟨page, pageLength⟩ := varint_at pageSmall
      (show pre ++ rangeRecord type false id offset body ++ more =
          pre ++ recordLead type false (headerEnd false id offset) body.length ++
            encodeVarint id.space ++ encodeVarint id.page ++ (encodeVarint offset ++ body ++ more)
        by rw [layout, ids]; simp only [List.append_assoc])
    simp only [List.length_append] at space spaceLength page pageLength
    rw [ids, List.length_append] at total ⊢
    simp only [clear, ne_eq, not_true_eq_false, false_and, if_false, spaceLength, space,
      pageLength, page, known, decide_true, Bool.not_true, Bool.false_eq_true, and_false,
      if_true]
    rw [if_neg (by omega), if_neg (Nat.ne_of_lt spaceSmall), if_neg (by omega),
      if_neg (Nat.ne_of_lt pageSmall)]
    simp only [Nat.add_assoc]

/-- `apply` reads the header of a record as the second loop of `parse` does and goes on to its
body: from the end of the record before it on the same page, from zero on a new page. -/
theorem applyRecord_rangeRecord (forceRecovery : Bool) (size space page fuel : ℕ)
    (frame : List UInt8) (lastOffset : ℕ) :
    applyRecord forceRecovery size space page fuel (rangeRecord type same id offset body) frame
        lastOffset =
      applyRange (if forceRecovery then .ok (frame, 1) else .corrupted) size type
        (rangeRecord type same id offset body)
        ((recordLead type same (headerEnd same id offset) body.length).length +
          (pageIdBytes same id).length)
        ((encodeVarint offset).length + body.length) fuel frame
        (if same then lastOffset else 0) := by
  have layout : rangeRecord type same id offset body =
      [] ++ recordLead type same (headerEnd same id offset) body.length ++
        (pageIdBytes same id ++ encodeVarint offset ++ body) := by
    simp only [rangeRecord, List.append_assoc, List.nil_append]
  have total := length_rangeRecord type same id offset body
  obtain ⟨two, fourteen⟩ := headerEnd_bounds same id offsetShort
  have ends : 1 + (pageIdBytes same id).length + (encodeVarint offset).length =
      headerEnd same id offset := rfl
  obtain ⟨typeIs, flagIs, lengthIs⟩ :=
    lead_cases same (headerEnd same id offset) body.length ranged
      (by simp only [minimums]; omega) [] (pageIdBytes same id ++ encodeVarint offset ++ body)
  simp only [← layout, List.length_nil, Nat.zero_add] at typeIs flagIs lengthIs
  -- the header: one byte, or one byte and the long form of the length
  have header : (if ((rangeRecord type same id offset body).getD 0 0 &&& 0xf).toNat ≠ 0 then
        (1, ((rangeRecord type same id offset body).getD 0 0 &&& 0xf).toNat)
      else
        (1 + decodeVarintLength ((rangeRecord type same id offset body).getD 1 0),
          ((decodeVarint (rangeRecord type same id offset body) 1 + 15) % 2 ^ 32 + 2 ^ 64 -
            decodeVarintLength ((rangeRecord type same id offset body).getD 1 0)) % 2 ^ 64)) =
      ((recordLead type same (headerEnd same id offset) body.length).length,
        (pageIdBytes same id).length + (encodeVarint offset).length + body.length) := by
    rcases lengthIs with ⟨nibble, short, leadLength⟩ | ⟨nibble, long, value, leadLength, small⟩
    · rw [nibble, if_pos (by omega), leadLength]
      ext
      · rfl
      · simp only
        omega
    · obtain ⟨-, -, four, -⟩ := minimums
      rw [nibble, if_neg (not_not.mpr rfl), leadLength]
      ext
      · rfl
      · simp only
        omega
  unfold applyRecord
  simp only [header]
  cases same with
  | true =>
    have flagged : (rangeRecord type true id offset body).getD 0 0 &&& 0x80 ≠ 0 :=
      fun clear => Bool.noConfusion (flagIs.mp clear)
    simp only [flagged, if_false, typeIs, pageIdBytes, if_true, List.length_nil, Nat.add_zero,
      Nat.zero_add]
    rcases ranged with rfl | rfl | rfl <;> rfl
  | false =>
    have clear := flagIs.mpr rfl
    have spaceLength := varintLength_at
      (show rangeRecord type false id offset body =
          recordLead type false (headerEnd false id offset) body.length ++
            encodeVarint id.space ++ (encodeVarint id.page ++ encodeVarint offset ++ body)
        by simp only [rangeRecord, pageIdBytes, List.append_assoc, if_false, Bool.false_eq_true])
    have pageLength := varintLength_at
      (show rangeRecord type false id offset body =
          recordLead type false (headerEnd false id offset) body.length ++
            encodeVarint id.space ++ encodeVarint id.page ++ (encodeVarint offset ++ body)
        by simp only [rangeRecord, pageIdBytes, List.append_assoc, if_false, Bool.false_eq_true])
    have ids : (pageIdBytes false id).length =
        (encodeVarint id.space).length + (encodeVarint id.page).length := by
      simp only [pageIdBytes, Bool.false_eq_true, if_false, List.length_append]
    simp only [List.length_append] at pageLength
    simp only [clear, if_true, spaceLength, pageLength, typeIs, Bool.false_eq_true, if_false]
    rw [ids, show ((encodeVarint id.space).length + (encodeVarint id.page).length +
        (encodeVarint offset).length + body.length + 2 ^ 64 - (encodeVarint id.space).length +
        2 ^ 64 - (encodeVarint id.page).length) % 2 ^ 64 =
        (encodeVarint offset).length + body.length by omega, Nat.add_assoc]
    rcases ranged with rfl | rfl | rfl <;> rfl

end Record

/-! ### The checks and the replay of a record's body -/

/-- The source offset that `mtr_t::memmove` logs reads back as the source in `parse` and
`apply`, and takes at most three bytes. -/
theorem relativeSource_decode {d s : ℕ} (distinct : s ≠ d) (small : d < 2 ^ 16)
    (sourceSmall : s < 2 ^ 16) :
    Change.relativeSource d s < minFourByte ∧
      (if Change.relativeSource d s % 2 = 1 then
          (d + 2 ^ 32 - Change.relativeSource d s / 2 - 1) % 2 ^ 32
        else (d + Change.relativeSource d s / 2 + 1) % 2 ^ 32) = s := by
  obtain ⟨-, -, four, -⟩ := minimums
  unfold Change.relativeSource
  by_cases above : s > d
  · -- forwards: twice the distance less two, an even number
    rw [if_pos above, Nat.shiftLeft_eq, if_neg (by omega)]
    omega
  · -- backwards: twice the distance plus one less two, an odd number
    rw [if_neg above, BitFields.shiftLeft_lor_eq_add _ 1 (by norm_num), if_pos (by omega)]
    omega

/-- A `WRITE`, `MEMSET` or `MEMMOVE` record is stored for its page by `parsePageRecord` once its
body passes the checks of its type. -/
theorem parsePageRecord_of_checkRange {env : Recovery} {log : List UInt8} {pos l finish : ℕ}
    {state : ParseState} {type : RecordType} {lastOffset : ℕ}
    (ranged : type = .write ∨ type = .memset ∨ type = .memmove)
    (typeIs : RecordType.ofByte (log.getD pos 0) = type)
    (checked : checkRange env type log l (finish - l) state.lastOffset = some lastOffset) :
    parsePageRecord env log pos l finish state =
      .next { state with lastOffset := lastOffset,
                         records := state.records ++
                           [⟨state.space, state.page, (log.drop pos).take (finish - pos)⟩] } := by
  unfold parsePageRecord
  rw [typeIs]
  rcases ranged with rfl | rfl | rfl <;> simp only [checked]

section Body

variable {change : Change} {o rel lastOffset : ℕ} {log pre rest : List UInt8}

/-- The byte offset of a record reads back, in one to three bytes. -/
theorem offset_field (relSmall : rel < 2 ^ 16)
    (layout : log = pre ++ encodeVarint rel ++ change.body o ++ rest) :
    decodeVarint log pre.length = rel ∧
      decodeVarintLength (log.getD pre.length 0) = (encodeVarint rel).length ∧
      1 ≤ (encodeVarint rel).length ∧ (encodeVarint rel).length ≤ 3 := by
  obtain ⟨offsetIs, olenIs⟩ := varint_at (Nat.lt_trans relSmall (by decide))
    (layout.trans (List.append_assoc _ _ _))
  obtain ⟨-, least, -⟩ := length_encodeVarint rel
  refine ⟨offsetIs, olenIs, least, ?_⟩
  rw [length_encodeVarint_of_lt (Nat.lt_trans relSmall (by decide)), varintWidth]
  split_ifs <;> omega

/-- `parse` accepts the body of the record of a valid change at `o`, logged at `rel` after the
end `lastOffset` of the record before it, and moves the offset to where the change ends. -/
theorem checkRange_change {env : Recovery} (valid : change.Valid env.pageSize o)
    (pageMax : env.pageSize ≤ 2 ^ 16) (notOne : lastOffset ≠ 1) (sum : lastOffset + rel = o)
    (layout : log = pre ++ encodeVarint rel ++ change.body o ++ rest) :
    checkRange env change.type log pre.length
        ((encodeVarint rel).length + (change.body o).length) lastOffset =
      some (o + change.length) := by
  obtain ⟨header, nonempty, fits, noWrap, source⟩ := valid
  obtain ⟨offsetIs, olenIs, olenLeast, olenMost⟩ := offset_field (by omega) layout
  unfold checkRange
  cases change with
  | write data =>
    simp only [Change.type, Change.body, Change.length] at nonempty fits noWrap ⊢
    simp only [olenIs, offsetIs]
    rw [if_neg (by omega), if_neg (by omega), if_neg (by omega), if_neg (by omega), if_true,
      if_neg (by omega)]
    congr 1
    omega
  | memset len val =>
    simp only [Change.type, Change.body, Change.length] at nonempty fits noWrap ⊢
    obtain ⟨lenIs, llenIs⟩ := varint_at (by unfold decodeError; omega)
      (show log = pre ++ encodeVarint rel ++ encodeVarint len ++ ([val] ++ rest)
        by simp only [layout, Change.body, List.append_assoc])
    obtain ⟨-, -, four, -⟩ := minimums
    have llenMost : (encodeVarint len).length ≤ 3 := by
      rw [length_encodeVarint_of_lt (by omega), varintWidth]
      split_ifs <;> omega
    simp only [List.length_append] at lenIs llenIs
    simp only [olenIs, offsetIs, List.length_append, List.length_singleton, llenIs, lenIs]
    rw [if_neg (by omega), if_neg (by omega), if_neg (by omega), if_neg (by omega),
      if_neg (by decide), if_neg (by omega), if_neg (by omega), if_true, if_neg (by omega)]
    congr 1
    omega
  | memmove len s =>
    simp only [Change.type, Change.body, Change.length, Change.SourceValid]
      at nonempty fits noWrap source ⊢
    obtain ⟨sourceLow, distinct, sourceFits⟩ := source
    obtain ⟨relativeSmall, decoded⟩ := relativeSource_decode distinct (by omega) (by omega)
    obtain ⟨-, -, four, -⟩ := minimums
    obtain ⟨lenIs, llenIs⟩ := varint_at (by unfold decodeError; omega)
      (show log = pre ++ encodeVarint rel ++ encodeVarint len ++
          (encodeVarint (Change.relativeSource o s) ++ rest)
        by simp only [layout, Change.body, List.append_assoc])
    obtain ⟨sIs, slenIs⟩ := varint_at (by unfold decodeError; omega)
      (show log = pre ++ encodeVarint rel ++ encodeVarint len ++
          encodeVarint (Change.relativeSource o s) ++ rest
        by simp only [layout, Change.body, List.append_assoc])
    have llenMost : (encodeVarint len).length ≤ 3 := by
      rw [length_encodeVarint_of_lt (by omega), varintWidth]
      split_ifs <;> omega
    have slenMost : (encodeVarint (Change.relativeSource o s)).length ≤ 3 := by
      rw [length_encodeVarint_of_lt relativeSmall, varintWidth]
      split_ifs <;> omega
    obtain ⟨-, llenLeast, -⟩ := length_encodeVarint len
    simp only [List.length_append] at lenIs llenIs sIs slenIs
    simp only [olenIs, offsetIs, List.length_append, llenIs, lenIs, slenIs, sIs]
    rw [if_neg (by omega), if_neg (by omega), if_neg (by omega), if_neg (by omega),
      if_neg (by decide), if_neg (by omega), if_neg (by omega), if_neg (by decide),
      if_neg (by omega), show (lastOffset + rel) % 2 ^ 32 = o by omega, decoded,
      if_neg (by omega)]

/-- `apply` writes the change of the record of a valid change at `o` into a frame of the page
size, and moves the offset to where the change ends. -/
theorem applyRange_change (onCorrupted : Outcome (List UInt8 × ℕ)) (fuel : ℕ) {size : ℕ}
    {frame : List UInt8} (valid : change.Valid size o) (pageMax : size ≤ 2 ^ 16)
    (sized : frame.length = size) (notOne : lastOffset ≠ 1) (sum : lastOffset + rel = o)
    (layout : log = pre ++ encodeVarint rel ++ change.body o ++ rest) :
    applyRange onCorrupted size change.type log pre.length
        ((encodeVarint rel).length + (change.body o).length) fuel frame lastOffset =
      .ok (change.apply o frame, (o + change.length) % 2 ^ 16) := by
  obtain ⟨header, nonempty, fits, noWrap, source⟩ := valid
  obtain ⟨offsetIs, olenIs, olenLeast, olenMost⟩ := offset_field (by omega) layout
  have target : (lastOffset + rel) % 2 ^ 16 = o := by omega
  unfold applyRange
  cases change with
  | write data =>
    simp only [Change.type, Change.body, Change.length, Change.apply] at nonempty fits noWrap ⊢
    have dropped : log.drop (pre.length + (encodeVarint rel).length) = data ++ rest := by
      have split : log = (pre ++ encodeVarint rel) ++ (data ++ rest) := by
        simp only [layout, Change.body, List.append_assoc]
      rw [split, List.drop_left' (by rw [List.length_append])]
    simp only [olenIs, offsetIs]
    rw [if_neg notOne, if_neg (by omega), if_neg (by omega), if_neg (by omega), target, if_true,
      if_neg (by omega), Nat.add_sub_cancel_left, dropped,
      memcpy_eq (by rw [List.length_append]; omega) (by omega), List.take_left' rfl]
  | memset len val =>
    simp only [Change.type, Change.body, Change.length, Change.apply] at nonempty fits noWrap ⊢
    obtain ⟨lenIs, llenIs⟩ := varint_at (by unfold decodeError; omega)
      (show log = pre ++ encodeVarint rel ++ encodeVarint len ++ ([val] ++ rest)
        by simp only [layout, Change.body, List.append_assoc])
    have dropped : log.drop (pre.length + (encodeVarint rel).length + (encodeVarint len).length) =
        val :: rest := by
      have split : log = (pre ++ encodeVarint rel ++ encodeVarint len) ++ (val :: rest) := by
        simp only [layout, Change.body, List.append_assoc, List.singleton_append]
      rw [split, List.drop_left' (by simp only [List.length_append])]
    obtain ⟨-, -, four, -⟩ := minimums
    have llenMost : (encodeVarint len).length ≤ 3 := by
      rw [length_encodeVarint_of_lt (by omega), varintWidth]
      split_ifs <;> omega
    simp only [List.length_append] at lenIs llenIs
    simp only [olenIs, offsetIs, List.length_append, List.length_singleton, llenIs, lenIs]
    rw [if_neg notOne, if_neg (by omega), if_neg (by omega), if_neg (by omega), target,
      if_neg (by decide), if_neg (by omega), if_neg (by omega), if_true, dropped,
      show (encodeVarint rel).length + ((encodeVarint len).length + 1) -
        (encodeVarint rel).length - (encodeVarint len).length = 1 by omega,
      applyMemset, if_neg (not_not.mpr rfl), if_pos (by omega)]
    rfl
  | memmove len s =>
    simp only [Change.type, Change.body, Change.length, Change.apply, Change.SourceValid]
      at nonempty fits noWrap source ⊢
    obtain ⟨sourceLow, distinct, sourceFits⟩ := source
    obtain ⟨relativeSmall, decoded⟩ := relativeSource_decode distinct (by omega) (by omega)
    obtain ⟨-, -, four, -⟩ := minimums
    obtain ⟨lenIs, llenIs⟩ := varint_at (by unfold decodeError; omega)
      (show log = pre ++ encodeVarint rel ++ encodeVarint len ++
          (encodeVarint (Change.relativeSource o s) ++ rest)
        by simp only [layout, Change.body, List.append_assoc])
    obtain ⟨sIs, slenIs⟩ := varint_at (by unfold decodeError; omega)
      (show log = pre ++ encodeVarint rel ++ encodeVarint len ++
          encodeVarint (Change.relativeSource o s) ++ rest
        by simp only [layout, Change.body, List.append_assoc])
    have llenMost : (encodeVarint len).length ≤ 3 := by
      rw [length_encodeVarint_of_lt (by omega), varintWidth]
      split_ifs <;> omega
    have slenMost : (encodeVarint (Change.relativeSource o s)).length ≤ 3 := by
      rw [length_encodeVarint_of_lt relativeSmall, varintWidth]
      split_ifs <;> omega
    obtain ⟨-, llenLeast, -⟩ := length_encodeVarint len
    simp only [List.length_append] at lenIs llenIs sIs slenIs
    simp only [olenIs, offsetIs, List.length_append, llenIs, lenIs, slenIs, sIs]
    rw [if_neg notOne, if_neg (by omega), if_neg (by omega), if_neg (by omega), target,
      if_neg (by decide), if_neg (by omega), if_neg (by omega), if_neg (by decide),
      if_neg (by omega), decoded, if_pos ⟨sourceLow, sourceFits⟩,
      memcpy_eq (by rw [List.length_take, List.length_drop]; omega) (by omega), List.take_take,
      Nat.min_self]

end Body

/-! ### Valid changes -/

namespace Change

theorem type_ranged (change : Change) :
    change.type = .write ∨ change.type = .memset ∨ change.type = .memmove := by
  cases change
  · exact Or.inl rfl
  · exact Or.inr (Or.inl rfl)
  · exact Or.inr (Or.inr rfl)

variable {size o : ℕ} {change : Change}

/-- The body of a valid change's record is shorter than `2 ^ 16` bytes. -/
theorem Valid.length_body_lt (valid : change.Valid size o) : (change.body o).length < 2 ^ 16 := by
  obtain ⟨-, -, -, noWrap, -⟩ := valid
  cases change with
  | write data =>
    simp only [body, length] at noWrap ⊢
    omega
  | memset len val =>
    obtain ⟨-, -, most⟩ := length_encodeVarint len
    simp only [body, List.length_append, List.length_singleton]
    omega
  | memmove len source =>
    obtain ⟨-, -, most⟩ := length_encodeVarint len
    obtain ⟨-, -, most'⟩ := length_encodeVarint (relativeSource o source)
    simp only [body, List.length_append]
    omega

/-- A valid change keeps the size of the frame. -/
theorem Valid.length_apply (valid : change.Valid size o) {frame : List UInt8}
    (sized : frame.length = size) : (change.apply o frame).length = size := by
  obtain ⟨-, -, fits, -, source⟩ := valid
  rw [← sized] at fits source
  rw [← sized]
  cases change with
  | write data => exact length_copyBytes fits
  | memset len val => exact length_copyBytes (by rwa [List.length_replicate])
  | memmove len s =>
    obtain ⟨-, -, sourceFits⟩ := source
    exact length_copyBytes (by rw [List.length_take, List.length_drop]; simp only [length] at fits; omega)

end Change

end MariaDB.Redo
