/-
The records of the `mtr_t` writers read back by recovery: every run of `memcpy`, `write`,
byte-fill `memset` and `memmove` on pages of a mini-transaction leaves a log that
`recv_sys_t::parse` accepts whole, and replaying the records it stored for each page with
`log_phys_t::apply` rebuilds the frame the writers left.

Each writer appends one `rangeRecord` (`Mtr.push`): `memcpy<w>` and `write<l, w>` only from the
first byte that differs from the frame, and nothing when all agree. A relation between the
writer's log state and the parser's state (`Mtr.Tracks`: the page of the last record and where
it ended) and one between the stored records and the frames (`Replays`) are kept by every
record; the run theorem follows by induction over the callers' operations.
-/

import MariaDB.Redo.Layout

namespace MariaDB.Redo

/-- Whether `log_write` logs a record for `id` at `offset` relative to the end of the record
before it: `m_last == bpage && m_last_offset <= offset`. -/
def Mtr.samePage (mtr : Mtr) (id : PageId) (offset : ℕ) : Bool :=
  decide (mtr.last = some id ∧ mtr.lastOffset ≤ offset)

/-- The byte offset as `log_write` logs it. -/
def Mtr.logOffset (mtr : Mtr) (id : PageId) (offset : ℕ) : ℕ :=
  if mtr.samePage id offset then offset - mtr.lastOffset else offset

/-- The record a writer appends for `change` at `offset` on page `id`. -/
def Mtr.record (mtr : Mtr) (id : PageId) (offset : ℕ) (change : Change) : List UInt8 :=
  rangeRecord change.type (mtr.samePage id offset) id (mtr.logOffset id offset)
    (change.body offset)

/-- The log state after a writer's record for `change` at `offset` on page `id`. -/
def Mtr.push (mtr : Mtr) (id : PageId) (offset : ℕ) (change : Change) : Mtr :=
  ⟨mtr.log ++ mtr.record id offset change, some id, (offset + change.length) % 2 ^ 16⟩

/-! ### The writers append one record each -/

section Writers

variable (mtr : Mtr) (id : PageId)

/-- For the types with a byte offset, `log_write` lays down the header of `rangeRecord`. -/
theorem logWrite_append {type : RecordType}
    (ranged : type = .write ∨ type = .memset ∨ type = .memmove) (offset : ℕ)
    (body : List UInt8) :
    (mtr.logWrite type id body.length offset).1 ++ body =
        rangeRecord type (mtr.samePage id offset) id (mtr.logOffset id offset) body ∧
      (mtr.logWrite type id body.length offset).2 = some id := by
  have haveLen : type ≠ .initPage ∧ type ≠ .freePage := by
    rcases ranged with rfl | rfl | rfl <;> decide
  have haveOffset := ranged
  by_cases same : mtr.last = some id ∧ mtr.lastOffset ≤ offset
  · have flags : mtr.samePage id offset = true := decide_eq_true same
    simp only [Mtr.logWrite, if_neg (not_not.mpr haveLen), if_neg (not_not.mpr haveOffset),
      if_pos same, if_pos haveOffset, rangeRecord, headerEnd, recordLead, pageIdBytes,
      Mtr.logOffset, flags, if_true]
    split_ifs <;> simp
  · have flags : mtr.samePage id offset = false := decide_eq_false same
    simp only [Mtr.logWrite, if_neg (not_not.mpr haveLen), if_neg (not_not.mpr haveOffset),
      if_neg same, if_pos haveOffset, rangeRecord, headerEnd, recordLead, pageIdBytes,
      Mtr.logOffset, flags, Bool.false_eq_true, if_false]
    split_ifs <;> simp

/-- `mtr_t::memcpy_low` appends the `WRITE` record of its data. -/
theorem memcpyLow_eq_push (offset : ℕ) (data : List UInt8) :
    mtr.memcpyLow id offset data = mtr.push id offset (.write data) := by
  obtain ⟨laid, lastIs⟩ := logWrite_append mtr id (Or.inl rfl) offset data
  rcases written : mtr.logWrite .write id data.length offset with ⟨header, last⟩
  rw [written] at laid lastIs
  simp only [Mtr.memcpyLow, written, Mtr.push, Mtr.record, Change.type, Change.body,
    Change.length, ← laid, ← lastIs, List.append_assoc]

/-- The byte-fill `mtr_t::memset` appends the `MEMSET` record of one byte. -/
theorem memsetLog_eq_push (ofs len : ℕ) (val : UInt8) (small : len < minFourByte) :
    mtr.memsetLog id ofs len val = mtr.push id ofs (.memset len val) := by
  have width : (encodeVarint len ++ [val]).length = varintWidth len + 1 := by
    rw [List.length_append, length_encodeVarint_of_lt small, List.length_singleton]
  obtain ⟨laid, lastIs⟩ := logWrite_append mtr id (Or.inr (Or.inl rfl)) ofs
    (encodeVarint len ++ [val])
  rw [width] at laid lastIs
  rcases written : mtr.logWrite .memset id (varintWidth len + 1) ofs with ⟨header, last⟩
  rw [written] at laid lastIs
  simp only [Mtr.memsetLog, written, Mtr.push, Mtr.record, Change.type, Change.body,
    Change.length, ← laid, ← lastIs, List.append_assoc]

/-- `mtr_t::memmove` appends the `MEMMOVE` record of its copy. -/
theorem memmove_eq_push (d s len : ℕ) (small : len < minFourByte)
    (near : Change.relativeSource d s < minFourByte) :
    mtr.memmove id d s len = mtr.push id d (.memmove len s) := by
  have width : (encodeVarint len ++ encodeVarint (Change.relativeSource d s)).length =
      varintWidth len + varintWidth (Change.relativeSource d s) := by
    rw [List.length_append, length_encodeVarint_of_lt small, length_encodeVarint_of_lt near]
  obtain ⟨laid, lastIs⟩ := logWrite_append mtr id (Or.inr (Or.inr rfl)) d
    (encodeVarint len ++ encodeVarint (Change.relativeSource d s))
  rw [width] at laid lastIs
  rcases written : mtr.logWrite .memmove id
    (varintWidth len + varintWidth (Change.relativeSource d s)) d with ⟨header, last⟩
  rw [written] at laid lastIs
  simp only [Mtr.memmove, Change.relativeSource] at written laid ⊢
  simp only [written, Mtr.push, Mtr.record, Change.type, Change.body, Change.length,
    Change.relativeSource, ← laid, ← lastIs, List.append_assoc]

/-- No more bytes agree than the second string has. -/
theorem commonPrefix_le : ∀ (xs ys : List UInt8), commonPrefix xs ys ≤ ys.length
  | a :: as, b :: bs => by
    rw [commonPrefix, List.length_cons]
    split_ifs
    · exact Nat.succ_le_succ (commonPrefix_le as bs)
    · exact Nat.zero_le _
  | [], _ => Nat.zero_le _
  | _ :: _, [] => Nat.zero_le _

/-- The bytes that agree are the same in both strings. -/
theorem take_commonPrefix : ∀ (xs ys : List UInt8),
    xs.take (commonPrefix xs ys) = ys.take (commonPrefix xs ys)
  | a :: as, b :: bs => by
    rw [commonPrefix]
    split_ifs with same
    · rw [List.take_succ_cons, List.take_succ_cons, take_commonPrefix as bs, same]
    · rfl
  | [], _ => rfl
  | _ :: _, [] => rfl

/-- `memcpy<w>` either finds every byte in place and does nothing, or copies the bytes from the
first that differs and logs their `WRITE` record. -/
theorem Mtr.memcpy_cases (w : WriteType) {frame : List UInt8} {dest : ℕ} {str : List UInt8}
    (valid : (Change.write str).Valid frame.length dest) :
    mtr.memcpy w id frame dest str = (mtr, frame) ∨
      ∃ same, (Change.write (str.drop same)).Valid frame.length (dest + same) ∧
        mtr.memcpy w id frame dest str =
          (mtr.push id (dest + same) (.write (str.drop same)),
            copyBytes frame (dest + same) (str.drop same)) := by
  obtain ⟨header, nonempty, fits, noWrap, -⟩ := valid
  simp only [Change.length] at nonempty fits noWrap
  have atMost := commonPrefix_le ((frame.drop dest).take str.length) str
  unfold Mtr.memcpy
  generalize agree :
    (if w ≠ .forced then commonPrefix ((frame.drop dest).take str.length) str else 0) = same
  by_cases nothing : w ≠ .forced ∧ same = str.length
  · exact Or.inl (if_pos nothing)
  · -- fewer bytes agree than the string has; a forced write counts none
    have below : same < str.length := by
      by_cases notForced : w ≠ .forced
      · rw [if_pos notForced] at agree
        exact Nat.lt_of_le_of_ne (agree ▸ atMost) (fun all => nothing ⟨notForced, all⟩)
      · rw [if_neg notForced] at agree
        omega
    have copied : ((copyBytes frame (dest + same) (str.drop same)).drop (dest + same)).take
        (str.length - same) = str.drop same := by
      rw [drop_copyBytes (by omega), List.take_left' (by rw [List.length_drop])]
    refine Or.inr ⟨same, ⟨by omega, ?_, ?_, ?_, trivial⟩, ?_⟩
    · simp only [Change.length, List.length_drop]
      omega
    · simp only [Change.length, List.length_drop]
      omega
    · simp only [Change.length, List.length_drop]
      omega
    · rw [if_neg nothing]
      simp only [Mtr.memcpyFrame, copied, memcpyLow_eq_push]

/-- `write<l, w>` is `memcpy<w>` of the bytes `mach_write_to_<l>` lays down: the bytes that agree
are copied too, but they are what the frame held. -/
theorem Mtr.write_eq_memcpy (l : ℕ) (w : WriteType) {frame : List UInt8} {offset : ℕ}
    (val : ℕ) (fits : offset + l ≤ frame.length) :
    mtr.write l w id frame offset val = mtr.memcpy w id frame offset (ByteStore.bytes l val) := by
  have width := ByteStore.length_bytes l val
  have atMost := commonPrefix_le ((frame.drop offset).take l) (ByteStore.bytes l val)
  rw [width] at atMost
  have agreeing := take_commonPrefix ((frame.drop offset).take l) (ByteStore.bytes l val)
  unfold Mtr.write Mtr.memcpy
  dsimp only
  rw [width]
  generalize agree :
    (if w ≠ .forced then commonPrefix ((frame.drop offset).take l) (ByteStore.bytes l val)
      else 0) = same
  by_cases nothing : w ≠ .forced ∧ same = l
  · rw [if_pos nothing, if_pos nothing]
  · -- the bytes before the first that differs are the frame's own
    have kept : (frame.drop offset).take same = (ByteStore.bytes l val).take same := by
      by_cases notForced : w ≠ .forced
      · rw [if_pos notForced] at agree
        rw [← agree, ← agreeing, List.take_take, Nat.min_eq_left atMost]
      · rw [if_neg notForced] at agree
        rw [← agree, List.take_zero, List.take_zero]
    have sameLe : same ≤ l := by
      by_cases notForced : w ≠ .forced
      · rw [if_pos notForced] at agree
        exact agree ▸ atMost
      · rw [if_neg notForced] at agree
        omega
    have whole : copyBytes frame offset (ByteStore.bytes l val) =
        copyBytes frame (offset + same) ((ByteStore.bytes l val).drop same) := by
      have front : ((ByteStore.bytes l val).take same).length = same := by
        rw [List.length_take, width, Nat.min_eq_left sameLe]
      have split := @copyBytes_copyBytes frame offset ((ByteStore.bytes l val).take same)
        ((ByteStore.bytes l val).drop same)
        (by rw [front, List.length_drop, width]; omega)
      rw [List.take_append_drop, front, ← kept, copyBytes_self (by omega)] at split
      exact split.symm
    rw [if_neg nothing, if_neg nothing, whole]
    rfl

end Writers

/-- The parser's state after it stored the record `bytes` of a change on page `id` that ends at
`lastOffset`. -/
def ParseState.stored (state : ParseState) (id : PageId) (lastOffset : ℕ) (bytes : List UInt8) :
    ParseState :=
  ⟨lastOffset, true, id.space, id.page, state.records ++ [⟨id.space, id.page, bytes⟩]⟩

/-- The parser's state agrees with the writer's on the page of the last record and where that
record ended, which `m_last` and `m_last_offset` hold. -/
def Mtr.Tracks (mtr : Mtr) (state : ParseState) : Prop :=
  ∀ id, mtr.last = some id → state.gotPageOp = true ∧ state.space = id.space ∧
    state.page = id.page ∧ state.lastOffset = mtr.lastOffset ∧ 8 < mtr.lastOffset

section Push

variable {mtr : Mtr} {id : PageId} {o : ℕ} {change : Change}

@[simp] theorem Mtr.log_push : (mtr.push id o change).log = mtr.log ++ mtr.record id o change :=
  rfl

@[simp] theorem Mtr.last_push : (mtr.push id o change).last = some id := rfl

@[simp] theorem Mtr.lastOffset_push :
    (mtr.push id o change).lastOffset = (o + change.length) % 2 ^ 16 := rfl

theorem Mtr.tracks_start (state : ParseState) : Mtr.start.Tracks state :=
  fun _ none => by cases none

/-- The offset a writer logs and the end it counts from add up to the offset of the change. -/
theorem Mtr.logOffset_add (mtr : Mtr) (id : PageId) (o : ℕ) :
    (if mtr.samePage id o then mtr.lastOffset else 0) + mtr.logOffset id o = o := by
  unfold Mtr.logOffset Mtr.samePage
  by_cases same : mtr.last = some id ∧ mtr.lastOffset ≤ o
  · simp only [decide_eq_true same, ↓reduceIte]
    omega
  · simp only [decide_eq_false same, Bool.false_eq_true, ↓reduceIte, Nat.zero_add]

theorem Mtr.logOffset_le (mtr : Mtr) (id : PageId) (o : ℕ) : mtr.logOffset id o ≤ o := by
  have := mtr.logOffset_add id o
  omega

/-- A record for the same page follows one for that page. -/
theorem Mtr.last_of_samePage (same : mtr.samePage id o = true) : mtr.last = some id :=
  (of_decide_eq_true same).1

variable (valid : change.Valid size o)
include valid

/-- The first loop of `parse` steps over a writer's record. -/
theorem Mtr.scanEnd_push (env : Recovery) (fuel : ℕ) (more : List UInt8) (followed : more ≠ []) :
    scanEnd env ((mtr.push id o change).log ++ more) (fuel + 1) mtr.log.length =
      scanEnd env ((mtr.push id o change).log ++ more) fuel (mtr.push id o change).log.length := by
  have offsetShort : mtr.logOffset id o < 2 ^ 16 :=
    Nat.lt_of_le_of_lt (mtr.logOffset_le id o) (by have := valid.noWrap; omega)
  rw [Mtr.log_push, List.length_append]
  exact scanEnd_rangeRecord change.type_ranged offsetShort valid.length_body_lt env fuel mtr.log
    more followed

/-- The second loop of `parse` stores a writer's record for its page and moves on to where the
record's change ends. -/
theorem Mtr.parseRecords_push {env : Recovery} {state : ParseState} (sized : size = env.pageSize)
    (pageMax : env.pageSize ≤ 2 ^ 16)
    (named : env.spaceKnown id.space = true ∧ id.space < decodeError ∧ id.page < decodeError)
    (tracks : mtr.Tracks state) (fuel : ℕ) (more : List UInt8) (followed : more ≠ []) :
    parseRecords env ((mtr.push id o change).log ++ more) (fuel + 1) mtr.log.length state =
      parseRecords env ((mtr.push id o change).log ++ more) fuel (mtr.push id o change).log.length
        (state.stored id (o + change.length) (mtr.record id o change)) := by
  subst sized
  have offsetShort : mtr.logOffset id o < 2 ^ 16 :=
    Nat.lt_of_le_of_lt (mtr.logOffset_le id o) (by have := valid.noWrap; omega)
  have bodyShort := valid.length_body_lt
  have total := length_rangeRecord change.type (mtr.samePage id o) id (mtr.logOffset id o)
    (change.body o)
  have sum := mtr.logOffset_add id o
  obtain ⟨typeIs, notZero⟩ := firstByte_rangeRecord change.type_ranged offsetShort bodyShort
    mtr.log more
  have logLength : mtr.log.length < (mtr.log ++ mtr.record id o change ++ more).length := by
    simp only [List.length_append, Mtr.record]
    have := List.length_pos_iff.mpr followed
    omega
  have continues : mtr.samePage id o = true → state.gotPageOp = true :=
    fun same => (tracks id (Mtr.last_of_samePage same)).1
  -- the offset of the change counts from the end of the record before it on a same page
  have start : (if mtr.samePage id o then state
      else { state with lastOffset := 0, space := id.space, page := id.page,
                        gotPageOp := true }).lastOffset =
      if mtr.samePage id o then mtr.lastOffset else 0 := by
    cases same : mtr.samePage id o
    · rfl
    · exact (tracks id (Mtr.last_of_samePage same)).2.2.2.1
  have notOne : (if mtr.samePage id o then mtr.lastOffset else 0) ≠ 1 := by
    cases same : mtr.samePage id o
    · simp
    · have := (tracks id (Mtr.last_of_samePage same)).2.2.2.2
      simp only [if_true]
      omega
  have checked := checkRange_change valid pageMax notOne sum
    (show mtr.log ++ mtr.record id o change ++ more =
        mtr.log ++ recordLead change.type (mtr.samePage id o)
          (headerEnd (mtr.samePage id o) id (mtr.logOffset id o)) (change.body o).length ++
            pageIdBytes (mtr.samePage id o) id ++ encodeVarint (mtr.logOffset id o) ++
              change.body o ++ more
      by simp only [Mtr.record, rangeRecord, List.append_assoc])
  rw [← start] at checked
  simp only [List.length_append] at checked
  rw [Mtr.log_push, parseRecords, if_neg (by simp only [not_or]; exact ⟨by omega, notZero⟩)]
  unfold Mtr.record at typeIs logLength checked ⊢
  rw [parseRecord_rangeRecord change.type_ranged offsetShort bodyShort env state mtr.log more
      continues (fun _ => named),
    parsePageRecord_of_checkRange change.type_ranged typeIs
      (by rw [← checked]; congr 1; omega),
    recordBounds_rangeRecord change.type_ranged offsetShort bodyShort, List.length_append]
  simp only []
  congr 1
  have stored : ((mtr.log ++ rangeRecord change.type (mtr.samePage id o) id (mtr.logOffset id o)
      (change.body o) ++ more).drop mtr.log.length).take
        (rangeRecord change.type (mtr.samePage id o) id (mtr.logOffset id o)
          (change.body o)).length =
      rangeRecord change.type (mtr.samePage id o) id (mtr.logOffset id o) (change.body o) := by
    rw [List.append_assoc, List.drop_left, List.take_left]
  rw [Nat.add_sub_cancel_left, stored]
  cases same : mtr.samePage id o
  · rfl
  · obtain ⟨gotPageOp, space, page, -, -⟩ := tracks id (Mtr.last_of_samePage same)
    simp only [if_true, ParseState.stored, gotPageOp, space, page]

/-- After a writer's record the parser's state tracks the writer's again. -/
theorem Mtr.tracks_push (state : ParseState) :
    (mtr.push id o change).Tracks (state.stored id (o + change.length) (mtr.record id o change)) := by
  intro page last
  rw [Mtr.last_push, Option.some.injEq] at last
  subst last
  have := valid.noWrap
  have := valid.header
  have := valid.nonempty
  refine ⟨rfl, rfl, rfl, ?_, ?_⟩ <;> simp only [ParseState.stored, Mtr.lastOffset_push] <;> omega

/-- `apply` replays a writer's record on the frame of its page: from the end of the record before
it when it is for the same page, the frame gets the record's change. -/
theorem Mtr.applyRecord_push (forceRecovery : Bool) (pageMax : size ≤ 2 ^ 16) (fuel : ℕ)
    {frame : List UInt8} (sized : frame.length = size) (lastOffset : ℕ)
    (continues : mtr.last = some id → lastOffset = mtr.lastOffset ∧ 8 < mtr.lastOffset) :
    applyRecord forceRecovery size id.space id.page fuel (mtr.record id o change) frame
        lastOffset =
      .ok (change.apply o frame, (mtr.push id o change).lastOffset) := by
  have offsetShort : mtr.logOffset id o < 2 ^ 16 :=
    Nat.lt_of_le_of_lt (mtr.logOffset_le id o) (by have := valid.noWrap; omega)
  have sum := mtr.logOffset_add id o
  have start : (if mtr.samePage id o then lastOffset else 0) =
      if mtr.samePage id o then mtr.lastOffset else 0 := by
    cases same : mtr.samePage id o
    · rfl
    · exact (continues (Mtr.last_of_samePage same)).1
  have notOne : (if mtr.samePage id o then mtr.lastOffset else 0) ≠ 1 := by
    cases same : mtr.samePage id o
    · simp
    · have := (continues (Mtr.last_of_samePage same)).2
      simp only [if_true]
      omega
  have replayed := applyRange_change (if forceRecovery then .ok (frame, 1) else .corrupted) fuel
    valid pageMax sized notOne sum
    (show mtr.record id o change =
        recordLead change.type (mtr.samePage id o)
          (headerEnd (mtr.samePage id o) id (mtr.logOffset id o)) (change.body o).length ++
            pageIdBytes (mtr.samePage id o) id ++ encodeVarint (mtr.logOffset id o) ++
              change.body o ++ []
      by simp only [Mtr.record, rangeRecord, List.append_nil])
  rw [List.length_append] at replayed
  unfold Mtr.record at replayed ⊢
  rw [applyRecord_rangeRecord change.type_ranged offsetShort valid.length_body_lt, start,
    replayed, Mtr.lastOffset_push]

end Push

/-! ### Whole runs -/

/-- The records `parse` stored for page `id`, in log order, as `recv_sys_t::add` keeps them. -/
def recordsOf (records : List PageRecord) (id : PageId) : List (List UInt8) :=
  (records.filter fun record => record.space = id.space ∧ record.page = id.page).map
    PageRecord.bytes

/-- A record stored for page `id` is the last of its records, and none of another page's. -/
theorem recordsOf_append (records : List PageRecord) (id page : PageId) (bytes : List UInt8) :
    recordsOf (records ++ [⟨id.space, id.page, bytes⟩]) page =
      recordsOf records page ++ if page = id then [bytes] else [] := by
  unfold recordsOf
  rw [List.filter_append, List.map_append]
  congr 1
  by_cases here : page = id
  · subst here
    simp
  · have differs : ¬ (id.space = page.space ∧ id.page = page.page) := by
      rintro ⟨space, number⟩
      exact here (by cases page; cases id; simp_all)
    simp [here, differs]

/-- Replaying the records stored for each page on the frames `before` gives the frames `after`,
and ends, on the page of the writer's last record, where that record ended. -/
def Replays (forceRecovery : Bool) (size : ℕ) (before after : PageId → List UInt8)
    (mtr : Mtr) (records : List PageRecord) : Prop :=
  ∀ fuel id lastOffset, ∃ lastOffset',
    applyRecords forceRecovery size id.space id.page fuel (recordsOf records id) (before id)
        lastOffset = .ok (after id, lastOffset') ∧
      (mtr.last = some id → lastOffset' = mtr.lastOffset)

section Replays

variable {forceRecovery : Bool} {size : ℕ} {before after : PageId → List UInt8}

theorem replays_start : Replays forceRecovery size before before Mtr.start [] :=
  fun _ _ lastOffset => ⟨lastOffset, rfl, fun none => by cases none⟩

/-- A writer's record keeps the replay in step: the page it is for gets its change, the other
pages keep their frames and records. -/
theorem Replays.push {mtr : Mtr} {records : List PageRecord} {id : PageId} {o : ℕ}
    {change : Change} (replays : Replays forceRecovery size before after mtr records)
    (valid : change.Valid size o) (pageMax : size ≤ 2 ^ 16) (sized : (after id).length = size)
    (settled : mtr.last = some id → 8 < mtr.lastOffset) :
    Replays forceRecovery size before
      (Function.update after id (change.apply o (after id))) (mtr.push id o change)
      (records ++ [⟨id.space, id.page, mtr.record id o change⟩]) := by
  intro fuel page lastOffset
  obtain ⟨lastOffset', applied, ends⟩ := replays fuel page lastOffset
  rw [recordsOf_append, applyRecords_append applied]
  by_cases here : page = id
  · subst here
    have replayed := Mtr.applyRecord_push valid forceRecovery pageMax fuel sized
      lastOffset' fun last => ⟨ends last, settled last⟩
    refine ⟨(mtr.push page o change).lastOffset, ?_, fun _ => rfl⟩
    rw [if_pos rfl, applyRecords, replayed, Function.update_self]
    rfl
  · refine ⟨lastOffset', ?_, fun last => absurd (Option.some.inj last).symm here⟩
    rw [if_neg here, applyRecords, Function.update_of_ne here]

end Replays

/-! ### The callers' operations on pages -/

/-- A change of a page that a caller of `mtr_t` makes in a mini-transaction: the pointer
`memcpy<w>`, `write<l, w>` of an integer, the byte-fill `memset`, and a `memmove` within the
page, which the caller makes in the frame before it logs it with `mtr_t::memmove`. -/
inductive PageOp
  | memcpy (w : WriteType) (id : PageId) (dest : ℕ) (str : List UInt8)
  | write (l : ℕ) (w : WriteType) (id : PageId) (offset val : ℕ)
  | memset (id : PageId) (ofs len : ℕ) (val : UInt8)
  | memmove (id : PageId) (d s len : ℕ)
  deriving DecidableEq, Repr

namespace PageOp

/-- The page an operation changes. -/
def id : PageOp → PageId
  | .memcpy _ id _ _ => id
  | .write _ _ id _ _ => id
  | .memset id _ _ _ => id
  | .memmove id _ _ _ => id

/-- The change an operation makes in full and its offset, before bytes already in place are
stepped over. -/
def change : PageOp → ℕ × Change
  | .memcpy _ _ dest str => (dest, .write str)
  | .write l _ _ offset val => (offset, .write (ByteStore.bytes l val))
  | .memset _ ofs len val => (ofs, .memset len val)
  | .memmove _ d s len => (d, .memmove len s)

/-- What the writers assert of an operation on a page of `size` bytes: what they assert of its
change in full. -/
def Valid (size : ℕ) (op : PageOp) : Prop := op.change.2.Valid size op.change.1

instance (size : ℕ) (op : PageOp) : Decidable (op.Valid size) :=
  inferInstanceAs (Decidable (op.change.2.Valid size op.change.1))

/-- One operation on the log state and the frames of the pages. -/
def run : PageOp → Mtr × (PageId → List UInt8) → Mtr × (PageId → List UInt8)
  | .memcpy w id dest str, (mtr, frames) =>
    let (mtr, frame) := mtr.memcpy w id (frames id) dest str
    (mtr, Function.update frames id frame)
  | .write l w id offset val, (mtr, frames) =>
    let (mtr, frame) := mtr.write l w id (frames id) offset val
    (mtr, Function.update frames id frame)
  | .memset id ofs len val, (mtr, frames) =>
    let (mtr, frame) := mtr.memset id (frames id) ofs len val
    (mtr, Function.update frames id frame)
  | .memmove id d s len, (mtr, frames) =>
    (mtr.memmove id d s len,
      Function.update frames id (copyBytes (frames id) d (((frames id).drop s).take len)))

/-- An operation logs nothing and changes nothing, or it appends the record of one valid change
and makes that change in the frame of its page. -/
theorem run_cases {size : ℕ} {op : PageOp} (valid : op.Valid size) (pageMax : size ≤ 2 ^ 16)
    (mtr : Mtr) {frames : PageId → List UInt8} (sized : (frames op.id).length = size) :
    op.run (mtr, frames) = (mtr, frames) ∨
      ∃ o change, change.Valid size o ∧
        op.run (mtr, frames) =
          (mtr.push op.id o change, Function.update frames op.id (change.apply o (frames op.id))) := by
  obtain ⟨-, -, four, -⟩ := minimums
  cases op with
  | memcpy w page dest str =>
    simp only [Valid, change, PageOp.id] at valid sized ⊢
    rw [← sized] at valid
    rcases Mtr.memcpy_cases mtr page w valid with nothing | ⟨same, valid', copied⟩
    · refine Or.inl ?_
      simp only [run, nothing, Function.update_eq_self]
    · refine Or.inr ⟨dest + same, .write (str.drop same), sized ▸ valid', ?_⟩
      simp only [run, copied, Change.apply]
  | write l w page offset val =>
    simp only [Valid, change, PageOp.id] at valid sized ⊢
    have fits := valid.fits
    simp only [Change.length, ByteStore.length_bytes] at fits
    rw [← sized] at valid fits
    simp only [run, Mtr.write_eq_memcpy mtr page l w val fits]
    rcases Mtr.memcpy_cases mtr page w valid with nothing | ⟨same, valid', copied⟩
    · refine Or.inl ?_
      simp only [nothing, Function.update_eq_self]
    · refine Or.inr ⟨offset + same, .write ((ByteStore.bytes l val).drop same), sized ▸ valid', ?_⟩
      simp only [copied, Change.apply]
  | memset page ofs len val =>
    simp only [Valid, change, PageOp.id] at valid sized ⊢
    have := valid.noWrap
    simp only [Change.length] at this
    refine Or.inr ⟨ofs, .memset len val, valid, ?_⟩
    simp only [run, Mtr.memset, memsetLog_eq_push mtr page ofs len val (by omega), Change.apply]
  | memmove page d s len =>
    simp only [Valid, change, PageOp.id] at valid sized ⊢
    have nonempty := valid.nonempty
    have noWrap := valid.noWrap
    have source := valid.source
    simp only [Change.length, Change.SourceValid] at nonempty noWrap source
    have near := (relativeSource_decode source.2.1 (by omega) (by omega)).1
    refine Or.inr ⟨d, .memmove len s, valid, ?_⟩
    simp only [run, memmove_eq_push mtr page d s len (by omega) near, Change.apply]

end PageOp

/-- The operations one after the other. -/
def runAll (ops : List PageOp) (state : Mtr × (PageId → List UInt8)) :
    Mtr × (PageId → List UInt8) :=
  ops.foldl (fun state op => op.run state) state

theorem runAll_cons (op : PageOp) (ops : List PageOp) (state : Mtr × (PageId → List UInt8)) :
    runAll (op :: ops) state = runAll ops (op.run state) := rfl

section Runs

/-- A valid change keeps every frame at the page size. -/
theorem Change.Valid.sized_update {size o : ℕ} {change : Change} (valid : change.Valid size o)
    {frames : PageId → List UInt8} (sized : ∀ id, (frames id).length = size) (page : PageId) :
    ∀ id, (Function.update frames page (change.apply o (frames page)) id).length = size := by
  intro id
  by_cases here : id = page
  · subst here
    rw [Function.update_self]
    exact valid.length_apply (sized _)
  · rw [Function.update_of_ne here]
    exact sized id

theorem Mtr.length_record_pos (mtr : Mtr) (id : PageId) (o : ℕ) (change : Change) :
    0 < (mtr.record id o change).length := by
  have := (length_encodeVarint (mtr.logOffset id o)).2.1
  unfold Mtr.record
  rw [length_rangeRecord]
  omega

/-- The zero byte that ends a mini-transaction. -/
theorem getD_end_marker (log rest : List UInt8) : (log ++ 0 :: rest).getD log.length 0 = 0 := by
  rw [List.getD_append_right _ _ _ _ (Nat.le_refl _), Nat.sub_self, List.getD_cons_zero]

variable {size : ℕ} (pageMax : size ≤ 2 ^ 16)
include pageMax

/-- A run only appends to the log and keeps the size of every frame. -/
theorem runAll_grows (ops : List PageOp) (valid : ∀ op ∈ ops, op.Valid size) :
    ∀ (mtr : Mtr) (frames : PageId → List UInt8), (∀ id, (frames id).length = size) →
      (∃ more, (runAll ops (mtr, frames)).1.log = mtr.log ++ more) ∧
        ∀ id, ((runAll ops (mtr, frames)).2 id).length = size := by
  induction ops with
  | nil => exact fun mtr _ sized => ⟨⟨[], (List.append_nil _).symm⟩, sized⟩
  | cons op ops inductionHypothesis =>
    intro mtr frames sized
    have later := inductionHypothesis fun op member => valid op (List.mem_cons_of_mem _ member)
    rw [runAll_cons]
    rcases op.run_cases (valid op List.mem_cons_self) pageMax mtr (sized op.id) with
      nothing | ⟨o, change, changeValid, pushed⟩
    · rw [nothing]
      exact later mtr frames sized
    · rw [pushed]
      obtain ⟨⟨more, grown⟩, stillSized⟩ := later _ _ (changeValid.sized_update sized op.id)
      exact ⟨⟨mtr.record op.id o change ++ more, by rw [grown, Mtr.log_push, List.append_assoc]⟩,
        stillSized⟩

/-- The first loop of `parse` steps over every record a run appends and stops at the zero byte
after them. -/
theorem scanEnd_runAll (env : Recovery) (ops : List PageOp) (valid : ∀ op ∈ ops, op.Valid size) :
    ∀ (mtr : Mtr) (frames : PageId → List UInt8), (∀ id, (frames id).length = size) →
      ∀ (rest : List UInt8) (fuel : ℕ),
        (runAll ops (mtr, frames)).1.log.length - mtr.log.length < fuel →
        scanEnd env ((runAll ops (mtr, frames)).1.log ++ 0 :: rest) fuel mtr.log.length =
          .found (runAll ops (mtr, frames)).1.log.length := by
  induction ops with
  | nil =>
    intro mtr frames _ rest fuel enough
    obtain ⟨fuel, rfl⟩ : ∃ fewer, fuel = fewer + 1 := ⟨fuel - 1, by omega⟩
    have ended := getD_end_marker mtr.log rest
    rw [runAll, List.foldl_nil, scanEnd, if_neg (by simp), ended, if_pos rfl]
  | cons op ops inductionHypothesis =>
    intro mtr frames sized rest fuel enough
    have validLater : ∀ op ∈ ops, op.Valid size :=
      fun op member => valid op (List.mem_cons_of_mem _ member)
    rw [runAll_cons] at enough ⊢
    rcases op.run_cases (valid op List.mem_cons_self) pageMax mtr (sized op.id) with
      nothing | ⟨o, change, changeValid, pushed⟩
    · rw [nothing] at enough ⊢
      exact inductionHypothesis validLater mtr frames sized rest fuel enough
    · -- one record, then the rest of the run
      rw [pushed] at enough ⊢
      have resized := changeValid.sized_update sized op.id
      obtain ⟨⟨more, grown⟩, -⟩ := runAll_grows pageMax ops validLater _ _ resized
      have longer := mtr.length_record_pos op.id o change
      obtain ⟨fuel, rfl⟩ : ∃ fewer, fuel = fewer + 1 := ⟨fuel - 1, by omega⟩
      rw [grown, List.append_assoc, Mtr.scanEnd_push changeValid env fuel (more ++ 0 :: rest)
        (by simp), ← List.append_assoc, ← grown]
      refine inductionHypothesis validLater _ _ resized rest fuel ?_
      simp only [grown, Mtr.log_push, List.length_append] at enough ⊢
      omega

/-- The second loop of `parse` stores every record a run appends for its page; replaying the
stored records of each page rebuilds the frames the run left. -/
theorem parseRecords_runAll {env : Recovery} (sizeIs : size = env.pageSize)
    (forceRecovery : Bool) {before : PageId → List UInt8} (ops : List PageOp)
    (valid : ∀ op ∈ ops, op.Valid size ∧ env.spaceKnown op.id.space = true ∧
      op.id.space < decodeError ∧ op.id.page < decodeError) :
    ∀ (mtr : Mtr) (frames : PageId → List UInt8) (state : ParseState),
      (∀ id, (frames id).length = size) → mtr.Tracks state →
      Replays forceRecovery size before frames mtr state.records →
      ∀ (rest : List UInt8) (fuel : ℕ),
        (runAll ops (mtr, frames)).1.log.length - mtr.log.length < fuel →
        ∃ state', parseRecords env ((runAll ops (mtr, frames)).1.log ++ 0 :: rest) fuel
            mtr.log.length state = .next state' ∧
          Replays forceRecovery size before (runAll ops (mtr, frames)).2
            (runAll ops (mtr, frames)).1 state'.records := by
  induction ops with
  | nil =>
    intro mtr frames state _ _ replays rest fuel enough
    obtain ⟨fuel, rfl⟩ : ∃ fewer, fuel = fewer + 1 := ⟨fuel - 1, by omega⟩
    refine ⟨state, ?_, replays⟩
    rw [runAll, List.foldl_nil, parseRecords, if_pos (Or.inr (getD_end_marker mtr.log rest))]
  | cons op ops inductionHypothesis =>
    intro mtr frames state sized tracks replays rest fuel enough
    have validLater := fun op member => valid op (List.mem_cons_of_mem _ member)
    obtain ⟨opValid, named⟩ := valid op List.mem_cons_self
    rw [runAll_cons] at enough ⊢
    rcases op.run_cases opValid pageMax mtr (sized op.id) with
      nothing | ⟨o, change, changeValid, pushed⟩
    · rw [nothing] at enough ⊢
      exact inductionHypothesis validLater mtr frames state sized tracks replays rest fuel enough
    · -- one record stored for its page, then the rest of the run
      rw [pushed] at enough ⊢
      have resized := changeValid.sized_update sized op.id
      obtain ⟨⟨more, grown⟩, -⟩ := runAll_grows pageMax ops
        (fun op member => (validLater op member).1) _ _ resized
      have longer := mtr.length_record_pos op.id o change
      obtain ⟨fuel, rfl⟩ : ∃ fewer, fuel = fewer + 1 := ⟨fuel - 1, by omega⟩
      have settled : mtr.last = some op.id → 8 < mtr.lastOffset :=
        fun last => (tracks op.id last).2.2.2.2
      rw [grown, List.append_assoc, Mtr.parseRecords_push changeValid sizeIs (sizeIs ▸ pageMax)
        named tracks fuel (more ++ 0 :: rest) (by simp), ← List.append_assoc, ← grown]
      refine inductionHypothesis validLater _ _ _ resized (Mtr.tracks_push changeValid state)
        (replays.push changeValid pageMax (sized op.id) settled) rest fuel ?_
      simp only [grown, Mtr.log_push, List.length_append] at enough ⊢
      omega

end Runs

/-- The log of a mini-transaction of page writes is read back whole: whatever `memcpy`,
`write`, byte-fill `memset` and `memmove` operations the callers make on pages of a size up to
64 KiB, within what the writers assert and from byte 8 on, where the parser's guard lets a
record through (`Change.Valid`), `parse` accepts the committed log, and replaying with
`apply` the records it stored for each page rebuilds the frame the writers left, whatever the
offset `apply` starts from. -/
theorem mtr_log_replays (env : Recovery) (pageMax : env.pageSize ≤ 2 ^ 16) (ops : List PageOp)
    (valid : ∀ op ∈ ops, op.Valid env.pageSize ∧ env.spaceKnown op.id.space = true ∧
      op.id.space < decodeError ∧ op.id.page < decodeError)
    (frames : PageId → List UInt8) (sized : ∀ id, (frames id).length = env.pageSize) :
    ∃ records, parse env (runAll ops (Mtr.start, frames)).1.commit =
        .parsed records (runAll ops (Mtr.start, frames)).1.commit.length ∧
      ∀ id fuel lastOffset, ∃ lastOffset',
        applyRecords env.forceRecovery env.pageSize id.space id.page fuel (recordsOf records id)
            (frames id) lastOffset = .ok ((runAll ops (Mtr.start, frames)).2 id, lastOffset') := by
  have commitLength : (runAll ops (Mtr.start, frames)).1.commit.length =
      (runAll ops (Mtr.start, frames)).1.log.length + 1 := by
    rw [Mtr.commit, List.length_append, List.length_singleton]
  have scanned := scanEnd_runAll pageMax env ops (fun op member => (valid op member).1) Mtr.start
    frames sized [] ((runAll ops (Mtr.start, frames)).1.commit.length + 1) (by
      rw [commitLength]
      omega)
  obtain ⟨state, parsed, replays⟩ := parseRecords_runAll pageMax rfl env.forceRecovery ops valid
    Mtr.start frames ⟨0, false, 0, 0, []⟩ sized (Mtr.tracks_start _) replays_start []
    ((runAll ops (Mtr.start, frames)).1.commit.length + 1) (by
      rw [commitLength]
      omega)
  refine ⟨state.records, ?_, fun id fuel lastOffset => ?_⟩
  · rw [parse, Mtr.commit]
    rw [Mtr.commit, show Mtr.start.log.length = 0 from rfl] at scanned parsed
    rw [scanned, parsed, List.length_append, List.length_singleton]
  · obtain ⟨lastOffset', applied, -⟩ := replays fuel id lastOffset
    exact ⟨lastOffset', applied⟩

/-- A mini-transaction on page 5 of the system tablespace, on 16 KiB pages of zeros: four bytes
filled, a two-byte integer written over the last two, the four moved to byte 200, and a
`memcpy` of two bytes that are already there. -/
theorem mtr_log_replays_fill_write_move :
    (16384 ≤ 2 ^ 16 ∧
      ∀ op ∈ [PageOp.memset ⟨0, 5⟩ 100 4 0xaa, .write 2 .normal ⟨0, 5⟩ 102 0x1234,
          .memmove ⟨0, 5⟩ 200 100 4, .memcpy .maybeNop ⟨0, 5⟩ 200 [0xaa, 0xaa]],
        op.Valid 16384 ∧ (fun _ => true : ℕ → Bool) op.id.space = true ∧
          op.id.space < decodeError ∧ op.id.page < decodeError) ∧
    ∃ records, parse ⟨16384, false, fun _ => true, fun _ _ => false⟩
        (runAll [.memset ⟨0, 5⟩ 100 4 0xaa, .write 2 .normal ⟨0, 5⟩ 102 0x1234,
          .memmove ⟨0, 5⟩ 200 100 4, .memcpy .maybeNop ⟨0, 5⟩ 200 [0xaa, 0xaa]]
          (Mtr.start, fun _ => List.replicate 16384 0)).1.commit =
        .parsed records (runAll [.memset ⟨0, 5⟩ 100 4 0xaa, .write 2 .normal ⟨0, 5⟩ 102 0x1234,
          .memmove ⟨0, 5⟩ 200 100 4, .memcpy .maybeNop ⟨0, 5⟩ 200 [0xaa, 0xaa]]
          (Mtr.start, fun _ => List.replicate 16384 0)).1.commit.length ∧
      ∀ id fuel lastOffset, ∃ lastOffset',
        applyRecords false 16384 id.space id.page fuel (recordsOf records id)
            (List.replicate 16384 0) lastOffset =
          .ok ((runAll [.memset ⟨0, 5⟩ 100 4 0xaa, .write 2 .normal ⟨0, 5⟩ 102 0x1234,
            .memmove ⟨0, 5⟩ 200 100 4, .memcpy .maybeNop ⟨0, 5⟩ 200 [0xaa, 0xaa]]
            (Mtr.start, fun _ => List.replicate 16384 0)).2 id, lastOffset') :=
  ⟨⟨by decide, by decide⟩, mtr_log_replays ⟨16384, false, fun _ => true, fun _ _ => false⟩
    (by decide) _ (by decide) (fun _ => List.replicate 16384 0)
    (fun _ => List.length_replicate)⟩

end MariaDB.Redo
