/-
Partition lookup and pruning for RANGE and LIST partitioning on an integer column
(`sql/sql_partition.cc`). `check_range_constants` stores one bound per RANGE partition in
`range_int_array`, increasing, the last `LONGLONG_MAX` under `MAXVALUE`; `check_list_constants`
sorts the LIST values in `list_array`. An unsigned column is compared in the representation
moved down by `2^63`, where its order is the order of signed numbers.

`get_partition_id_range` finds the first partition whose bound lies above a value, and
`get_partition_id_list` the list entry equal to it. For pruning, `get_part_iter_for_interval_via_mapping`
maps the endpoints of an interval of the column through `get_partition_id_range_for_endpoint`
or `get_list_array_idx_for_endpoint` to a range of partitions or of list entries; every value
of the interval falls inside that range. The lookups of a `NULL`, the monotonic functions that
return one, and `VERSIONING` partitions are not modelled: the value is the integer column's.
-/

import Mathlib.Data.List.GetD
import MariaDB.Library.BinarySearch
import MariaDB.Sql.IntArith

namespace MariaDB.Sql

/-! ### Partitioning information -/

/-- `LIST_PART_ENTRY`. -/
structure ListPartEntry where
  listValue : ℤ
  partitionId : ℕ
  deriving DecidableEq, Repr

/-- The fields of `partition_info` that the lookups on an integer column read:
`defined_max_value` is a `MAXVALUE` partition under RANGE and a `DEFAULT` one under LIST, and
`unsignedFlag` is `part_expr->unsigned_flag`. -/
structure PartitionInfo where
  rangeIntArray : List ℤ
  listArray : List ListPartEntry
  definedMaxValue : Bool
  defaultPartitionId : ℕ
  unsignedFlag : Bool
  deriving DecidableEq, Repr

/-- `if (unsigned_flag) part_func_value-= 0x8000000000000000ULL`: the value as the lookups
compare it. -/
def partKey (unsignedFlag : Bool) (partFuncValue : ℤ) : ℤ :=
  if unsignedFlag then toLonglong (partFuncValue - 2 ^ 63) else partFuncValue

/-! ### RANGE partitioning -/

/-- `get_partition_id_range`: the partition of a value, `none` for
`HA_ERR_NO_PARTITION_FOUND`. -/
def getPartitionIdRange (partInfo : PartitionInfo) (partFuncValue : ℤ) : Option ℕ :=
  let rangeArray := partInfo.rangeIntArray
  let maxPartition := rangeArray.length - 1
  let partFuncValue := partKey partInfo.unsignedFlag partFuncValue
  -- the partition containing the value: the first bound above it
  let locPartId := BinarySearch.lowerBound
    (fun locPartId => decide (rangeArray.getD locPartId 0 ≤ partFuncValue)) 0 maxPartition
  if locPartId = maxPartition ∧ partFuncValue ≥ rangeArray.getD locPartId 0 ∧
      partInfo.definedMaxValue = false then none
  else some locPartId

/-- `get_partition_id_range_for_endpoint`: for a left endpoint, the first partition that
meets `[a, +inf)` or `(a, +inf)`; for a right endpoint, the first one past `(-inf, b]` or
`(-inf, b)`. -/
def getPartitionIdRangeForEndpoint (partInfo : PartitionInfo) (partFuncValue : ℤ)
    (leftEndpoint includeEndpoint : Bool) : ℕ :=
  let rangeArray := partInfo.rangeIntArray
  let maxPartition := rangeArray.length - 1
  let partFuncValue := partKey partInfo.unsignedFlag partFuncValue
  -- `part_func_value++` on a `longlong`, wrapping at `LONGLONG_MAX`
  let partFuncValue :=
    if leftEndpoint && !includeEndpoint then toLonglong (partFuncValue + 1) else partFuncValue
  let locPartId := BinarySearch.lowerBound
    (fun locPartId => decide (rangeArray.getD locPartId 0 < partFuncValue)) 0 maxPartition
  let partEndVal := rangeArray.getD locPartId 0
  if leftEndpoint then
    if partFuncValue ≥ partEndVal ∧ (locPartId < maxPartition ∨ partInfo.definedMaxValue = false)
    then locPartId + 1 else locPartId
  else
    -- `WHERE <= X` with a partition `LESS THAN (X)` takes the next partition too
    (if includeEndpoint ∧ locPartId < maxPartition ∧ partFuncValue = partEndVal then locPartId + 1
      else locPartId) + 1

/-! ### LIST partitioning -/

/-- The loop of `get_partition_id_list` over the `int` indices
`[min_list_index, max_list_index]`: the partition of the entry equal to the value, or `none` at
`goto notfound`. -/
def getPartitionIdListLoop (listArray : List ListPartEntry) (partFuncValue : ℤ)
    (minListIndex maxListIndex : ℤ) : Option ℕ :=
  if maxListIndex ≥ minListIndex then
    -- `>> 1` of a non-negative `int`
    let listIndex := (maxListIndex + minListIndex) / 2
    let entry := listArray.getD listIndex.toNat ⟨0, 0⟩
    if entry.listValue < partFuncValue then
      getPartitionIdListLoop listArray partFuncValue (listIndex + 1) maxListIndex
    else if entry.listValue > partFuncValue then
      if listIndex = 0 then none
      else getPartitionIdListLoop listArray partFuncValue minListIndex (listIndex - 1)
    else some entry.partitionId
  else none
termination_by (maxListIndex + 1 - minListIndex).toNat
decreasing_by all_goals omega

/-- `get_partition_id_list`: the partition of a value, `none` for
`HA_ERR_NO_PARTITION_FOUND`. -/
def getPartitionIdList (partInfo : PartitionInfo) (partFuncValue : ℤ) : Option ℕ :=
  match getPartitionIdListLoop partInfo.listArray (partKey partInfo.unsignedFlag partFuncValue) 0
      (partInfo.listArray.length - 1) with
  | some partitionId => some partitionId
  | none => if partInfo.definedMaxValue then some partInfo.defaultPartitionId else none

/-- The loop of `get_list_array_idx_for_endpoint` over the `uint` indices
`[min_list_index, max_list_index]`, with the decrement guarded and the code at `notfound:` after
the last probe. -/
def listArrayIdxLoop (listArray : List ListPartEntry) (partFuncValue : ℤ)
    (leftEndpoint includeEndpoint : Bool) (minListIndex maxListIndex : ℕ) : ℕ :=
  let listIndex := (maxListIndex + minListIndex) / 2
  let listValue := (listArray.getD listIndex ⟨0, 0⟩).listValue
  let notfound := if listValue < partFuncValue then listIndex + 1 else listIndex
  if listValue < partFuncValue then
    if maxListIndex ≥ listIndex + 1 then
      listArrayIdxLoop listArray partFuncValue leftEndpoint includeEndpoint (listIndex + 1)
        maxListIndex
    else notfound
  else if listValue > partFuncValue then
    if listIndex = 0 then notfound
    else if listIndex - 1 ≥ minListIndex then
      listArrayIdxLoop listArray partFuncValue leftEndpoint includeEndpoint minListIndex
        (listIndex - 1)
    else notfound
  else listIndex + (leftEndpoint ^^ includeEndpoint).toNat
termination_by maxListIndex + 1 - minListIndex

/-- `get_list_array_idx_for_endpoint`: for a left endpoint, the first list entry inside
`[a, +inf)` or `(a, +inf)`; for a right endpoint, the first one past `(-inf, b]` or
`(-inf, b)`. -/
def getListArrayIdxForEndpoint (partInfo : PartitionInfo) (partFuncValue : ℤ)
    (leftEndpoint includeEndpoint : Bool) : ℕ :=
  listArrayIdxLoop partInfo.listArray (partKey partInfo.unsignedFlag partFuncValue) leftEndpoint
    includeEndpoint 0 (partInfo.listArray.length - 1)

/-! ### Pruning an interval -/

/-- An endpoint of an interval of the column: the `longlong` that `store_key_image_to_rec`
stores, and `!(flags & NEAR_MIN)` or `!(flags & NEAR_MAX)`. -/
structure Endpoint where
  value : ℤ
  includeEndpoint : Bool
  isLonglong : IsLonglong value

/-- `part_iter->part_nums.start`: `0` under `NO_MIN_RANGE`, else the left endpoint mapped by
`get_endpoint`. -/
def partNumsStart (getEndpoint : ℤ → Bool → Bool → ℕ) : Option Endpoint → ℕ
  | none => 0
  | some minValue => getEndpoint minValue.value true minValue.includeEndpoint

/-- `part_iter->part_nums.end`: `max_endpoint_val` under `NO_MAX_RANGE`, else the right
endpoint mapped by `get_endpoint`. -/
def partNumsEnd (getEndpoint : ℤ → Bool → Bool → ℕ) (maxEndpointVal : ℕ) :
    Option Endpoint → ℕ
  | none => maxEndpointVal
  | some maxValue => getEndpoint maxValue.value false maxValue.includeEndpoint

/-- A value of the column lies in the interval, compared as the lookups compare it. -/
def InInterval (unsignedFlag : Bool) (minValue maxValue : Option Endpoint) (v : ℤ) : Prop :=
  (∀ a ∈ minValue, if a.includeEndpoint then partKey unsignedFlag a.value ≤ partKey unsignedFlag v
    else partKey unsignedFlag a.value < partKey unsignedFlag v) ∧
  (∀ b ∈ maxValue, if b.includeEndpoint then partKey unsignedFlag v ≤ partKey unsignedFlag b.value
    else partKey unsignedFlag v < partKey unsignedFlag b.value)

instance (unsignedFlag : Bool) (minValue maxValue : Option Endpoint) (v : ℤ) :
    Decidable (InInterval unsignedFlag minValue maxValue v) :=
  inferInstanceAs (Decidable (_ ∧ _))

/-! ### Increasing bounds -/

section Bounds

variable {bounds : List ℤ}

theorem getD_lt_getD (sorted : bounds.Pairwise (· < ·)) {i j : ℕ} (before : i < j)
    (inside : j < bounds.length) : bounds.getD i 0 < bounds.getD j 0 := by
  rw [List.getD_eq_getElem _ _ (by omega), List.getD_eq_getElem _ _ inside]
  exact List.pairwise_iff_getElem.mp sorted i j (by omega) inside before

theorem getD_le_getD (sorted : bounds.Pairwise (· < ·)) {i j : ℕ} (before : i ≤ j)
    (inside : j < bounds.length) : bounds.getD i 0 ≤ bounds.getD j 0 := by
  rcases Nat.eq_or_lt_of_le before with same | earlier
  · rw [same]
  · exact (getD_lt_getD sorted earlier inside).le

/-- A test that holds of a bound holds of every smaller one, so over increasing bounds it holds
of a prefix: the condition under which the searches of RANGE partitioning are correct. -/
theorem closed_of_sorted (sorted : bounds.Pairwise (· < ·)) (test : ℤ → Bool)
    (monotone : ∀ y z, y ≤ z → test z = true → test y = true) :
    ∀ i j, i ≤ j → j < bounds.length - 1 → test (bounds.getD j 0) = true →
      test (bounds.getD i 0) = true :=
  fun _ _ before inside passes => monotone _ _ (getD_le_getD sorted before (by omega)) passes

end Bounds

theorem partKey_isLonglong (unsignedFlag : Bool) {v : ℤ} (range : IsLonglong v) :
    IsLonglong (partKey unsignedFlag v) := by
  cases unsignedFlag
  · exact range
  · exact toLonglong_isLonglong _

/-! ### The partition of a value -/

section RangeLookup

variable {partInfo : PartitionInfo}

/-- What the search of `get_partition_id_range` finds: every bound before it is at most the
value, and the bound it stops at lies above the value unless it is the last. -/
theorem rangeSearch_spec (sorted : partInfo.rangeIntArray.Pairwise (· < ·)) (key : ℤ) :
    let locPartId := BinarySearch.lowerBound
      (fun locPartId => decide (partInfo.rangeIntArray.getD locPartId 0 ≤ key)) 0
      (partInfo.rangeIntArray.length - 1)
    locPartId ≤ partInfo.rangeIntArray.length - 1 ∧
      (∀ j < locPartId, partInfo.rangeIntArray.getD j 0 ≤ key) ∧
      (locPartId < partInfo.rangeIntArray.length - 1 → key < partInfo.rangeIntArray.getD locPartId 0) := by
  have closed := closed_of_sorted sorted (fun bound => decide (bound ≤ key))
    fun y z smaller passes => decide_eq_true (le_trans smaller (of_decide_eq_true passes))
  obtain ⟨-, high, passed, failed⟩ := BinarySearch.lowerBound_spec closed (Nat.zero_le _)
  refine ⟨high, fun j below => of_decide_eq_true (passed j (Nat.zero_le j) below),
    fun inside => ?_⟩
  have above := failed inside
  simpa using above

/-- `get_partition_id_range` finds the first partition whose bound lies above the value; past
the last bound, the `MAXVALUE` partition if there is one, else `HA_ERR_NO_PARTITION_FOUND`. -/
theorem getPartitionIdRange_eq (sorted : partInfo.rangeIntArray.Pairwise (· < ·))
    (nonempty : partInfo.rangeIntArray ≠ []) (v : ℤ) :
    getPartitionIdRange partInfo v =
      (partInfo.rangeIntArray.findIdx? fun bound => decide (partKey partInfo.unsignedFlag v < bound)).or
        (if partInfo.definedMaxValue then some (partInfo.rangeIntArray.length - 1) else none) := by
  have positive : 0 < partInfo.rangeIntArray.length := List.length_pos_iff.mpr nonempty
  obtain ⟨high, passed, failed⟩ := rangeSearch_spec sorted (partKey partInfo.unsignedFlag v)
  unfold getPartitionIdRange
  dsimp only
  generalize BinarySearch.lowerBound _ 0 (partInfo.rangeIntArray.length - 1) = locPartId
    at high passed failed ⊢
  have before : ∀ j (h : j < locPartId),
      ¬decide (partKey partInfo.unsignedFlag v < partInfo.rangeIntArray.get ⟨j, by omega⟩) = true := by
    intro j h
    rw [List.get_eq_getElem, ← List.getD_eq_getElem _ 0]
    simpa using passed j h
  by_cases stops : locPartId < partInfo.rangeIntArray.length - 1 ∨
      partKey partInfo.unsignedFlag v < partInfo.rangeIntArray.getD locPartId 0
  · -- a bound above the value: its partition
    have above : partKey partInfo.unsignedFlag v < partInfo.rangeIntArray.getD locPartId 0 :=
      stops.elim failed id
    have first : (partInfo.rangeIntArray.findIdx? fun bound =>
        decide (partKey partInfo.unsignedFlag v < bound)) = some locPartId := by
      rw [List.findIdx?_eq_some_iff_getElem]
      refine ⟨by omega, ?_, before⟩
      rw [← List.getD_eq_getElem _ 0]
      exact decide_eq_true above
    rw [first, if_neg (by omega)]
    rfl
  · -- every bound is at most the value
    rw [not_or] at stops
    have last : locPartId = partInfo.rangeIntArray.length - 1 := by omega
    have none : (partInfo.rangeIntArray.findIdx? fun bound =>
        decide (partKey partInfo.unsignedFlag v < bound)) = none := by
      rw [List.findIdx?_eq_none_iff]
      intro bound member
      obtain ⟨j, inside, rfl⟩ := List.getElem_of_mem member
      rcases Nat.lt_or_ge j locPartId with earlier | late
      · simpa using before j earlier
      · have same : j = locPartId := by omega
        subst same
        rw [← List.getD_eq_getElem _ 0]
        simpa using stops.2
    rw [none, Option.none_or]
    cases maximum : partInfo.definedMaxValue
    · rw [if_pos ⟨last, Int.not_lt.mp stops.2, rfl⟩, if_neg Bool.false_ne_true]
    · rw [if_neg (by simp), if_pos rfl, last]

/-- The partition a value falls in: the bounds before it are at most the value, and its own
bound lies above the value, unless it is the `MAXVALUE` partition. -/
theorem partition_of_getPartitionIdRange (nonempty : partInfo.rangeIntArray ≠ [])
    (sorted : partInfo.rangeIntArray.Pairwise (· < ·)) {v : ℤ} {i : ℕ}
    (found : getPartitionIdRange partInfo v = some i) :
    i < partInfo.rangeIntArray.length ∧
      (∀ j < i, partInfo.rangeIntArray.getD j 0 ≤ partKey partInfo.unsignedFlag v) ∧
      (partKey partInfo.unsignedFlag v < partInfo.rangeIntArray.getD i 0 ∨
        partInfo.definedMaxValue = true ∧ i = partInfo.rangeIntArray.length - 1) := by
  have positive : 0 < partInfo.rangeIntArray.length := List.length_pos_iff.mpr nonempty
  obtain ⟨high, passed, failed⟩ := rangeSearch_spec sorted (partKey partInfo.unsignedFlag v)
  unfold getPartitionIdRange at found
  dsimp only at found
  generalize BinarySearch.lowerBound _ 0 (partInfo.rangeIntArray.length - 1) = locPartId
    at high passed failed found
  split_ifs at found with missing
  cases found
  refine ⟨by omega, passed, ?_⟩
  rcases Nat.lt_or_ge i (partInfo.rangeIntArray.length - 1) with inside | last
  · exact Or.inl (failed inside)
  · -- the last partition: above its bound only under `MAXVALUE`
    by_cases above : partKey partInfo.unsignedFlag v < partInfo.rangeIntArray.getD i 0
    · exact Or.inl above
    · cases maximum : partInfo.definedMaxValue
      · exact absurd ⟨by omega, Int.not_lt.mp above, maximum⟩ missing
      · exact Or.inr ⟨rfl, by omega⟩

end RangeLookup

/-! ### Pruning RANGE partitions -/

section RangePruning

variable {partInfo : PartitionInfo}

/-- What the search of `get_partition_id_range_for_endpoint` finds: every bound before it is
below the endpoint, and the bound it stops at is at least the endpoint unless it is the last. -/
theorem endpointSearch_spec (sorted : partInfo.rangeIntArray.Pairwise (· < ·)) (key : ℤ) :
    let locPartId := BinarySearch.lowerBound
      (fun locPartId => decide (partInfo.rangeIntArray.getD locPartId 0 < key)) 0
      (partInfo.rangeIntArray.length - 1)
    locPartId ≤ partInfo.rangeIntArray.length - 1 ∧
      (∀ j < locPartId, partInfo.rangeIntArray.getD j 0 < key) ∧
      (locPartId < partInfo.rangeIntArray.length - 1 → key ≤ partInfo.rangeIntArray.getD locPartId 0) := by
  have closed := closed_of_sorted sorted (fun bound => decide (bound < key))
    fun y z smaller passes => decide_eq_true (lt_of_le_of_lt smaller (of_decide_eq_true passes))
  obtain ⟨-, high, passed, failed⟩ := BinarySearch.lowerBound_spec closed (Nat.zero_le _)
  refine ⟨high, fun j below => of_decide_eq_true (passed j (Nat.zero_le j) below),
    fun inside => ?_⟩
  have above := failed inside
  simpa using above

/-- The first partition mapped from a left endpoint is at most the partition of every value
above it. -/
theorem partNumsStart_le (nonempty : partInfo.rangeIntArray ≠ [])
    (sorted : partInfo.rangeIntArray.Pairwise (· < ·)) {v : ℤ} (valueRange : IsLonglong v)
    {i : ℕ} (found : getPartitionIdRange partInfo v = some i) {minValue : Option Endpoint}
    (above : ∀ a ∈ minValue, if a.includeEndpoint then
      partKey partInfo.unsignedFlag a.value ≤ partKey partInfo.unsignedFlag v
      else partKey partInfo.unsignedFlag a.value < partKey partInfo.unsignedFlag v) :
    partNumsStart (getPartitionIdRangeForEndpoint partInfo) minValue ≤ i := by
  obtain ⟨inside, before, own⟩ := partition_of_getPartitionIdRange nonempty sorted found
  cases minValue with
  | none => exact Nat.zero_le i
  | some a =>
    have keyRange := partKey_isLonglong partInfo.unsignedFlag valueRange
    have endpointRange := partKey_isLonglong partInfo.unsignedFlag a.isLonglong
    -- the endpoint the search starts from, after `part_func_value++`, is at most the value
    have startLe : (if true && !a.includeEndpoint then
        toLonglong (partKey partInfo.unsignedFlag a.value + 1)
        else partKey partInfo.unsignedFlag a.value) ≤ partKey partInfo.unsignedFlag v := by
      have bound := above a rfl
      cases inclusive : a.includeEndpoint
      · rw [inclusive, if_neg Bool.false_ne_true] at bound
        simp only [Bool.not_false, Bool.and_self, if_true]
        rw [toLonglong_of_isLonglong ⟨by unfold IsLonglong at endpointRange; omega,
          by unfold IsLonglong at keyRange; omega⟩]
        omega
      · rw [inclusive, if_pos rfl] at bound
        rw [if_neg (by decide)]
        exact bound
    unfold partNumsStart getPartitionIdRangeForEndpoint
    dsimp only
    generalize (if true && !a.includeEndpoint then
        toLonglong (partKey partInfo.unsignedFlag a.value + 1)
        else partKey partInfo.unsignedFlag a.value) = start at startLe ⊢
    obtain ⟨high, passed, failed⟩ := endpointSearch_spec sorted start
    generalize BinarySearch.lowerBound _ 0 (partInfo.rangeIntArray.length - 1) = locPartId
      at high passed failed ⊢
    rw [if_pos rfl]
    split_ifs with skip
    · -- the bound the search stopped at is at most the start: the value lies past it
      obtain ⟨endVal, next⟩ := skip
      by_contra later
      rcases own with valueBelow | ⟨maximum, last⟩
      · have ordered := getD_le_getD sorted (show i ≤ locPartId by omega) (by omega)
        omega
      · simp only [maximum, Bool.true_eq_false, or_false] at next
        omega
    · by_contra later
      have below := passed i (by omega)
      rcases own with valueBelow | ⟨-, last⟩
      · omega
      · omega

/-- The partition of every value below a right endpoint lies before the end mapped from it. -/
theorem lt_partNumsEnd (nonempty : partInfo.rangeIntArray ≠ [])
    (sorted : partInfo.rangeIntArray.Pairwise (· < ·)) {v : ℤ} {i : ℕ}
    (found : getPartitionIdRange partInfo v = some i) {maxValue : Option Endpoint}
    (below : ∀ b ∈ maxValue, if b.includeEndpoint then
      partKey partInfo.unsignedFlag v ≤ partKey partInfo.unsignedFlag b.value
      else partKey partInfo.unsignedFlag v < partKey partInfo.unsignedFlag b.value) :
    i < partNumsEnd (getPartitionIdRangeForEndpoint partInfo) partInfo.rangeIntArray.length
      maxValue := by
  obtain ⟨inside, before, -⟩ := partition_of_getPartitionIdRange nonempty sorted found
  cases maxValue with
  | none => exact inside
  | some b =>
    have bound := below b rfl
    unfold partNumsEnd getPartitionIdRangeForEndpoint
    dsimp only
    -- a right endpoint is searched for as it is
    simp only [Bool.false_and, Bool.false_eq_true, if_false]
    obtain ⟨high, passed, failed⟩ := endpointSearch_spec sorted
      (partKey partInfo.unsignedFlag b.value)
    generalize BinarySearch.lowerBound _ 0 (partInfo.rangeIntArray.length - 1) = locPartId
      at high passed failed ⊢
    by_contra later
    -- the search stopped before the value's partition, at a bound the value reaches
    have stopped : locPartId < partInfo.rangeIntArray.length - 1 := by
      split_ifs at later <;> omega
    have atLeast := failed stopped
    have reached := before locPartId (by split_ifs at later <;> omega)
    cases inclusive : b.includeEndpoint
    · rw [inclusive, if_neg Bool.false_ne_true] at bound
      omega
    · -- `<= X` on a bound `X`: the value is the bound, and the next partition is taken too
      rw [inclusive, if_pos rfl] at bound
      have equal : partKey partInfo.unsignedFlag b.value = partInfo.rangeIntArray.getD locPartId 0 := by
        omega
      rw [inclusive, if_pos ⟨rfl, stopped, equal⟩] at later
      have next := before (locPartId + 1) (by omega)
      have increasing := getD_lt_getD sorted (Nat.lt_add_one locPartId) (by omega)
      omega

end RangePruning

/-! ### The entry of a value -/

section ListLookup

variable {listArray : List ListPartEntry}

theorem listValue_lt_listValue (sorted : (listArray.map (·.listValue)).Pairwise (· < ·))
    {i j : ℕ} (before : i < j) (inside : j < listArray.length) :
    (listArray.getD i ⟨0, 0⟩).listValue < (listArray.getD j ⟨0, 0⟩).listValue := by
  rw [List.getD_eq_getElem _ _ (by omega), List.getD_eq_getElem _ _ inside]
  have ordered := List.pairwise_iff_getElem.mp sorted i j (by simp; omega) (by simpa using inside)
    before
  simpa using ordered

theorem listValue_le_listValue (sorted : (listArray.map (·.listValue)).Pairwise (· < ·))
    {i j : ℕ} (before : i ≤ j) (inside : j < listArray.length) :
    (listArray.getD i ⟨0, 0⟩).listValue ≤ (listArray.getD j ⟨0, 0⟩).listValue := by
  rcases Nat.eq_or_lt_of_le before with same | earlier
  · rw [same]
  · exact (listValue_lt_listValue sorted earlier inside).le

/-- Over strictly increasing values, the first entry of a value is the one at its index. -/
theorem find?_listValue (sorted : (listArray.map (·.listValue)).Pairwise (· < ·)) {j : ℕ}
    (inside : j < listArray.length) :
    listArray.find? (fun entry => decide (entry.listValue = (listArray.getD j ⟨0, 0⟩).listValue)) =
      some (listArray.getD j ⟨0, 0⟩) := by
  rw [List.find?_eq_some_iff_getElem]
  refine ⟨by simp, j, inside, (List.getD_eq_getElem _ _ inside).symm, fun i before => ?_⟩
  have smaller := listValue_lt_listValue sorted before inside
  rw [List.getD_eq_getElem _ _ (by omega)] at smaller
  simpa using smaller.ne

theorem find?_listValue_none {key : ℤ}
    (absent : ∀ j < listArray.length, (listArray.getD j ⟨0, 0⟩).listValue ≠ key) :
    listArray.find? (fun entry => decide (entry.listValue = key)) = none := by
  rw [List.find?_eq_none]
  intro entry member
  obtain ⟨j, inside, rfl⟩ := List.getElem_of_mem member
  have other := absent j inside
  rw [List.getD_eq_getElem _ _ inside] at other
  simpa using other

/-- Every entry before `minListIndex` is below the value, and every one after
`maxListIndex` above it. -/
def ListBracket (listArray : List ListPartEntry) (key minListIndex maxListIndex : ℤ) : Prop :=
  0 ≤ minListIndex ∧ maxListIndex < listArray.length ∧
    (∀ j < listArray.length, (j : ℤ) < minListIndex → (listArray.getD j ⟨0, 0⟩).listValue < key) ∧
    (∀ j < listArray.length, maxListIndex < j → key < (listArray.getD j ⟨0, 0⟩).listValue)

/-- The loop of `get_partition_id_list` finds the partition of the entry of the value, and
nothing when no entry has it. -/
theorem getPartitionIdListLoop_eq (sorted : (listArray.map (·.listValue)).Pairwise (· < ·))
    {key minListIndex maxListIndex : ℤ} (bracket : ListBracket listArray key minListIndex maxListIndex) :
    getPartitionIdListLoop listArray key minListIndex maxListIndex =
      (listArray.find? fun entry => decide (entry.listValue = key)).map (·.partitionId) := by
  induction minListIndex, maxListIndex using getPartitionIdListLoop.induct listArray key with
  | case1 minListIndex maxListIndex nonempty listIndex entry below inductionHypothesis =>
    -- the entry at the middle is below the value: so is every one up to it
    simp only [entry, listIndex] at below inductionHypothesis
    obtain ⟨low, high, before, after⟩ := bracket
    rw [getPartitionIdListLoop, if_pos nonempty]
    dsimp only
    rw [if_pos below]
    refine inductionHypothesis ⟨by omega, high, fun j inside early => ?_, after⟩
    rcases Int.lt_or_le (j : ℤ) minListIndex with earlier | middle
    · exact before j inside earlier
    · exact lt_of_le_of_lt (listValue_le_listValue sorted (by omega) (by omega)) below
  | case2 minListIndex maxListIndex nonempty listIndex entry notBelow above first =>
    -- the first entry is above the value: so is every entry
    simp only [entry, listIndex] at notBelow above first
    obtain ⟨low, high, before, after⟩ := bracket
    rw [getPartitionIdListLoop, if_pos nonempty]
    dsimp only
    rw [if_neg notBelow, if_pos above, if_pos first, find?_listValue_none, Option.map_none]
    intro j inside same
    rw [first] at above
    have ordered := listValue_le_listValue sorted (Nat.zero_le j) inside
    simp only [Int.toNat_zero] at above
    omega
  | case3 minListIndex maxListIndex nonempty listIndex entry notBelow above later
      inductionHypothesis =>
    -- the entry at the middle is above the value: so is every one from it
    simp only [entry, listIndex] at notBelow above later inductionHypothesis
    obtain ⟨low, high, before, after⟩ := bracket
    rw [getPartitionIdListLoop, if_pos nonempty]
    dsimp only
    rw [if_neg notBelow, if_pos above, if_neg later]
    refine inductionHypothesis ⟨low, by omega, before, fun j inside late => ?_⟩
    rcases Int.lt_or_le maxListIndex j with past | middle
    · exact after j inside past
    · exact lt_of_lt_of_le above (listValue_le_listValue sorted (by omega) inside)
  | case4 minListIndex maxListIndex nonempty listIndex entry notBelow notAbove =>
    -- the entry at the middle is the value's
    simp only [entry, listIndex] at notBelow notAbove
    obtain ⟨low, high, -, -⟩ := bracket
    rw [getPartitionIdListLoop, if_pos nonempty]
    dsimp only
    rw [if_neg notBelow, if_neg notAbove]
    have same : (listArray.getD ((maxListIndex + minListIndex) / 2).toNat ⟨0, 0⟩).listValue = key := by
      omega
    rw [← same, find?_listValue sorted (by omega), Option.map_some]
  | case5 minListIndex maxListIndex empty =>
    -- nothing is left between the brackets
    obtain ⟨-, -, before, after⟩ := bracket
    rw [getPartitionIdListLoop, if_neg empty, find?_listValue_none, Option.map_none]
    intro j inside same
    rcases Int.lt_or_le (j : ℤ) minListIndex with earlier | late
    · exact absurd same (before j inside earlier).ne
    · exact absurd same (after j inside (by omega)).ne'

variable {partInfo : PartitionInfo}

/-- `get_partition_id_list` finds the partition of the list entry equal to the value, else the
`DEFAULT` partition if there is one, else `HA_ERR_NO_PARTITION_FOUND`. -/
theorem getPartitionIdList_eq (sorted : (partInfo.listArray.map (·.listValue)).Pairwise (· < ·))
    (v : ℤ) :
    getPartitionIdList partInfo v =
      ((partInfo.listArray.find? fun entry =>
          decide (entry.listValue = partKey partInfo.unsignedFlag v)).map (·.partitionId)).or
        (if partInfo.definedMaxValue then some partInfo.defaultPartitionId else none) := by
  have initial : ListBracket partInfo.listArray (partKey partInfo.unsignedFlag v) 0
      (partInfo.listArray.length - 1) :=
    ⟨le_refl 0, by omega, fun j _ negative => absurd negative (by omega),
      fun j inside past => absurd past (by omega)⟩
  unfold getPartitionIdList
  rw [getPartitionIdListLoop_eq sorted initial]
  cases (partInfo.listArray.find? fun entry =>
    decide (entry.listValue = partKey partInfo.unsignedFlag v)).map (·.partitionId) <;> rfl

end ListLookup

/-! ### The index of an endpoint in the list -/

section ListPruning

variable {listArray : List ListPartEntry}

/-- The bracket of the `uint` loop: a nonempty range inside the array, every entry before
`min_list_index` below the value and every one after `max_list_index` above it. -/
def IndexBracket (listArray : List ListPartEntry) (key : ℤ) (minListIndex maxListIndex : ℕ) :
    Prop :=
  minListIndex ≤ maxListIndex ∧ maxListIndex < listArray.length ∧
    (∀ j < minListIndex, (listArray.getD j ⟨0, 0⟩).listValue < key) ∧
    (∀ j < listArray.length, maxListIndex < j → key < (listArray.getD j ⟨0, 0⟩).listValue)

/-- The entries before `r` are those below the value, or also the one equal to it when
`counted`: what the endpoint search returns. -/
def EndpointIndex (listArray : List ListPartEntry) (key : ℤ) (counted : Bool) (r : ℕ) : Prop :=
  r ≤ listArray.length ∧ ∀ j < listArray.length,
    (j < r ↔ (listArray.getD j ⟨0, 0⟩).listValue < key ∨
      (listArray.getD j ⟨0, 0⟩).listValue = key ∧ counted = true)

/-- An index with every entry before it below the value and every one from it above the value
answers the search for either flag. -/
theorem endpointIndex_of_split {key : ℤ} {r : ℕ} (counted : Bool) (inside : r ≤ listArray.length)
    (below : ∀ j < r, (listArray.getD j ⟨0, 0⟩).listValue < key)
    (above : ∀ j < listArray.length, r ≤ j → key < (listArray.getD j ⟨0, 0⟩).listValue) :
    EndpointIndex listArray key counted r := by
  refine ⟨inside, fun j present => ⟨fun before => Or.inl (below j before), fun passes => ?_⟩⟩
  by_contra late
  have larger := above j present (Nat.le_of_not_lt late)
  rcases passes with smaller | ⟨same, -⟩ <;> omega

/-- At the entry of the value the search answers with its index, or the next one when the entry
is counted. -/
theorem endpointIndex_of_entry (sorted : (listArray.map (·.listValue)).Pairwise (· < ·))
    {key : ℤ} {k : ℕ} (inside : k < listArray.length)
    (same : (listArray.getD k ⟨0, 0⟩).listValue = key) (counted : Bool) :
    EndpointIndex listArray key counted (k + counted.toNat) := by
  have toNat_le : counted.toNat ≤ 1 := Bool.toNat_le counted
  refine ⟨by omega, fun j present => ?_⟩
  rcases Nat.lt_trichotomy j k with earlier | rfl | later
  · -- an entry before it is below the value
    have smaller := listValue_lt_listValue sorted earlier inside
    exact ⟨fun _ => Or.inl (same ▸ smaller), fun _ => by omega⟩
  · -- the entry itself is before the answer exactly when it is counted
    rw [same]
    cases counted <;> simp
  · -- an entry after it is above the value
    have larger := listValue_lt_listValue sorted later present
    constructor
    · intro before
      cases counted <;> simp only [Bool.toNat_false, Bool.toNat_true] at before <;> omega
    · rintro (smaller | ⟨equal, -⟩) <;> omega

/-- The loop of `get_list_array_idx_for_endpoint` returns the number of entries below the
value, counting the entry equal to it when `left_endpoint ^ include_endpoint`. -/
theorem listArrayIdxLoop_spec (sorted : (listArray.map (·.listValue)).Pairwise (· < ·))
    {key : ℤ} {leftEndpoint includeEndpoint : Bool} {minListIndex maxListIndex : ℕ}
    (bracket : IndexBracket listArray key minListIndex maxListIndex) :
    EndpointIndex listArray key (leftEndpoint ^^ includeEndpoint)
      (listArrayIdxLoop listArray key leftEndpoint includeEndpoint minListIndex maxListIndex) := by
  induction minListIndex, maxListIndex using listArrayIdxLoop.induct listArray key with
  | case1 minListIndex maxListIndex listIndex listValue below room inductionHypothesis =>
    -- below the value with room above: `min_list_index= list_index + 1`
    simp only [listValue, listIndex] at below room inductionHypothesis
    obtain ⟨-, high, before, after⟩ := bracket
    rw [listArrayIdxLoop]
    rw [if_pos below, if_pos room]
    refine inductionHypothesis ⟨room, high, fun j early => ?_, after⟩
    rcases Nat.lt_or_ge j minListIndex with earlier | middle
    · exact before j earlier
    · exact lt_of_le_of_lt (listValue_le_listValue sorted (by omega) (by omega)) below
  | case2 minListIndex maxListIndex listIndex listValue below noRoom =>
    -- below the value at the last index of the range: `notfound` counts it
    simp only [listValue, listIndex] at below noRoom
    obtain ⟨low, high, before, after⟩ := bracket
    rw [listArrayIdxLoop]
    rw [if_pos below, if_neg noRoom, if_pos below]
    refine endpointIndex_of_split _ (by omega) (fun j early => ?_)
      (fun j present late => after j present (by omega))
    rcases Nat.lt_or_ge j minListIndex with earlier | middle
    · exact before j earlier
    · exact lt_of_le_of_lt (listValue_le_listValue sorted (by omega) (by omega)) below
  | case3 minListIndex maxListIndex listIndex listValue notBelow above first =>
    -- above the value at index 0: every entry is above it
    simp only [listValue, listIndex] at notBelow above first
    obtain ⟨low, high, -, -⟩ := bracket
    rw [listArrayIdxLoop]
    rw [if_neg notBelow, if_pos above, if_pos first, if_neg notBelow, first]
    refine endpointIndex_of_split _ (Nat.zero_le _) (fun j negative => absurd negative (by omega))
      (fun j present _ => ?_)
    rw [first] at above
    exact lt_of_lt_of_le above (listValue_le_listValue sorted (Nat.zero_le j) present)
  | case4 minListIndex maxListIndex listIndex listValue notBelow above later room
      inductionHypothesis =>
    -- above the value with room below: `max_list_index= list_index - 1`
    simp only [listValue, listIndex] at notBelow above later room inductionHypothesis
    obtain ⟨-, high, before, after⟩ := bracket
    rw [listArrayIdxLoop]
    rw [if_neg notBelow, if_pos above, if_neg later, if_pos room]
    refine inductionHypothesis ⟨room, by omega, before, fun j present late => ?_⟩
    rcases Nat.lt_or_ge maxListIndex j with past | middle
    · exact after j present past
    · exact lt_of_lt_of_le above (listValue_le_listValue sorted (by omega) present)
  | case5 minListIndex maxListIndex listIndex listValue notBelow above later noRoom =>
    -- above the value at the first index of the range: `notfound` stops before it
    simp only [listValue, listIndex] at notBelow above later noRoom
    obtain ⟨low, high, before, -⟩ := bracket
    rw [listArrayIdxLoop]
    rw [if_neg notBelow, if_pos above, if_neg later, if_neg noRoom, if_neg notBelow]
    refine endpointIndex_of_split _ (by omega) (fun j early => before j (by omega))
      (fun j present late => ?_)
    exact lt_of_lt_of_le above (listValue_le_listValue sorted late present)
  | case6 minListIndex maxListIndex listIndex listValue notBelow notAbove =>
    -- the entry of the value: `list_index + MY_TEST(left_endpoint ^ include_endpoint)`
    simp only [listValue, listIndex] at notBelow notAbove
    obtain ⟨low, high, -, -⟩ := bracket
    rw [listArrayIdxLoop]
    rw [if_neg notBelow, if_neg notAbove]
    exact endpointIndex_of_entry sorted (by omega) (by omega) _

variable {partInfo : PartitionInfo}

/-- `get_list_array_idx_for_endpoint` over a nonempty list sorted by value. -/
theorem getListArrayIdxForEndpoint_spec
    (sorted : (partInfo.listArray.map (·.listValue)).Pairwise (· < ·))
    (nonempty : partInfo.listArray ≠ []) (v : ℤ) (leftEndpoint includeEndpoint : Bool) :
    EndpointIndex partInfo.listArray (partKey partInfo.unsignedFlag v)
      (leftEndpoint ^^ includeEndpoint)
      (getListArrayIdxForEndpoint partInfo v leftEndpoint includeEndpoint) := by
  have positive : 0 < partInfo.listArray.length := List.length_pos_iff.mpr nonempty
  exact listArrayIdxLoop_spec sorted ⟨Nat.zero_le _, by omega,
    fun j negative => absurd negative (Nat.not_lt_zero j), fun j present past => by omega⟩

/-- The first list index mapped from a left endpoint is at most the index of every value above
it. -/
theorem listStart_le (sorted : (partInfo.listArray.map (·.listValue)).Pairwise (· < ·))
    (nonempty : partInfo.listArray ≠ []) {v : ℤ} {k : ℕ} (inside : k < partInfo.listArray.length)
    (entry : (partInfo.listArray.getD k ⟨0, 0⟩).listValue = partKey partInfo.unsignedFlag v)
    {minValue : Option Endpoint}
    (above : ∀ a ∈ minValue, if a.includeEndpoint then
      partKey partInfo.unsignedFlag a.value ≤ partKey partInfo.unsignedFlag v
      else partKey partInfo.unsignedFlag a.value < partKey partInfo.unsignedFlag v) :
    partNumsStart (getListArrayIdxForEndpoint partInfo) minValue ≤ k := by
  cases minValue with
  | none => exact Nat.zero_le k
  | some a =>
    have bound := above a rfl
    obtain ⟨-, counts⟩ := getListArrayIdxForEndpoint_spec sorted nonempty a.value true
      a.includeEndpoint
    -- the entry of the value is not counted before the left endpoint
    refine Nat.le_of_not_lt fun before => ?_
    have passes := (counts k inside).mp before
    rw [entry] at passes
    cases inclusive : a.includeEndpoint
    · -- `(a, +inf)`: the entry equal to `a` is counted
      simp only [inclusive, Bool.false_eq_true, if_false] at bound
      rcases passes with smaller | ⟨equal, -⟩ <;> omega
    · -- `[a, +inf)`: only entries below `a` are counted
      simp only [inclusive, if_true] at bound
      rcases passes with smaller | ⟨-, counted⟩
      · omega
      · simp [inclusive] at counted

/-- The index of every value below a right endpoint is before the list index mapped from it. -/
theorem lt_listEnd (sorted : (partInfo.listArray.map (·.listValue)).Pairwise (· < ·))
    (nonempty : partInfo.listArray ≠ []) {v : ℤ} {k : ℕ} (inside : k < partInfo.listArray.length)
    (entry : (partInfo.listArray.getD k ⟨0, 0⟩).listValue = partKey partInfo.unsignedFlag v)
    {maxValue : Option Endpoint}
    (below : ∀ b ∈ maxValue, if b.includeEndpoint then
      partKey partInfo.unsignedFlag v ≤ partKey partInfo.unsignedFlag b.value
      else partKey partInfo.unsignedFlag v < partKey partInfo.unsignedFlag b.value) :
    k < partNumsEnd (getListArrayIdxForEndpoint partInfo) partInfo.listArray.length maxValue := by
  cases maxValue with
  | none => exact inside
  | some b =>
    have bound := below b rfl
    obtain ⟨-, counts⟩ := getListArrayIdxForEndpoint_spec sorted nonempty b.value false
      b.includeEndpoint
    -- the entry of the value is counted before the right endpoint
    refine (counts k inside).mpr ?_
    rw [entry]
    cases inclusive : b.includeEndpoint
    · -- `(-inf, b)`: the value is below `b`
      simp only [inclusive, Bool.false_eq_true, if_false] at bound
      exact Or.inl bound
    · -- `(-inf, b]`: the entry equal to `b` is counted too
      simp only [inclusive, if_true] at bound
      rcases lt_or_eq_of_le bound with smaller | equal
      · exact Or.inl smaller
      · exact Or.inr ⟨equal, rfl⟩

end ListPruning

/-- Integer RANGE and LIST partitioning: the lookup of a value in strictly increasing bounds or
list values, and the pruning of an interval of the column to the partitions, or list entries,
between the indices of its endpoints. -/
theorem partition_lookup_pruning (partInfo : PartitionInfo) :
    (partInfo.rangeIntArray.Pairwise (· < ·) → partInfo.rangeIntArray ≠ [] → ∀ v,
      getPartitionIdRange partInfo v =
        (partInfo.rangeIntArray.findIdx? fun bound =>
            decide (partKey partInfo.unsignedFlag v < bound)).or
          (if partInfo.definedMaxValue then some (partInfo.rangeIntArray.length - 1) else none)) ∧
    ((partInfo.listArray.map (·.listValue)).Pairwise (· < ·) → ∀ v,
      getPartitionIdList partInfo v =
        ((partInfo.listArray.find? fun entry =>
            decide (entry.listValue = partKey partInfo.unsignedFlag v)).map (·.partitionId)).or
          (if partInfo.definedMaxValue then some partInfo.defaultPartitionId else none)) ∧
    (partInfo.rangeIntArray.Pairwise (· < ·) → partInfo.rangeIntArray ≠ [] →
      ∀ (minValue maxValue : Option Endpoint) (v : ℤ) (i : ℕ), IsLonglong v →
        getPartitionIdRange partInfo v = some i →
        InInterval partInfo.unsignedFlag minValue maxValue v →
        partNumsStart (getPartitionIdRangeForEndpoint partInfo) minValue ≤ i ∧
          i < partNumsEnd (getPartitionIdRangeForEndpoint partInfo) partInfo.rangeIntArray.length
            maxValue) ∧
    ((partInfo.listArray.map (·.listValue)).Pairwise (· < ·) → partInfo.listArray ≠ [] →
      ∀ (minValue maxValue : Option Endpoint) (v : ℤ) (k : ℕ), k < partInfo.listArray.length →
        (partInfo.listArray.getD k ⟨0, 0⟩).listValue = partKey partInfo.unsignedFlag v →
        InInterval partInfo.unsignedFlag minValue maxValue v →
        partNumsStart (getListArrayIdxForEndpoint partInfo) minValue ≤ k ∧
          k < partNumsEnd (getListArrayIdxForEndpoint partInfo) partInfo.listArray.length
            maxValue) := by
  refine ⟨fun sorted nonempty v => getPartitionIdRange_eq sorted nonempty v,
    fun sorted v => getPartitionIdList_eq sorted v, ?_, ?_⟩
  · intro sorted nonempty minValue maxValue v i valueRange found ⟨above, below⟩
    exact ⟨partNumsStart_le nonempty sorted valueRange found above,
      lt_partNumsEnd nonempty sorted found below⟩
  · intro sorted nonempty minValue maxValue v k inside entry ⟨above, below⟩
    exact ⟨listStart_le sorted nonempty inside entry above,
      lt_listEnd sorted nonempty inside entry below⟩

theorem partition_lookup_pruning_maxValue :
    getPartitionIdRange ⟨[10, 20, 30], [⟨5, 0⟩, ⟨7, 1⟩, ⟨9, 2⟩], true, 3, false⟩ 30 = some 2 ∧
    getPartitionIdList ⟨[10, 20, 30], [⟨5, 0⟩, ⟨7, 1⟩, ⟨9, 2⟩], true, 3, false⟩ 8 = some 3 ∧
    (partNumsStart
        (getPartitionIdRangeForEndpoint ⟨[10, 20, 30], [⟨5, 0⟩, ⟨7, 1⟩, ⟨9, 2⟩], true, 3, false⟩)
        (some ⟨12, false, by decide⟩) ≤ 1 ∧
      1 < partNumsEnd
        (getPartitionIdRangeForEndpoint ⟨[10, 20, 30], [⟨5, 0⟩, ⟨7, 1⟩, ⟨9, 2⟩], true, 3, false⟩) 3
        (some ⟨25, true, by decide⟩)) ∧
    (partNumsStart
        (getListArrayIdxForEndpoint ⟨[10, 20, 30], [⟨5, 0⟩, ⟨7, 1⟩, ⟨9, 2⟩], true, 3, false⟩)
        (some ⟨7, true, by decide⟩) ≤ 1 ∧
      1 < partNumsEnd
        (getListArrayIdxForEndpoint ⟨[10, 20, 30], [⟨5, 0⟩, ⟨7, 1⟩, ⟨9, 2⟩], true, 3, false⟩) 3
        (some ⟨9, false, by decide⟩)) := by
  obtain ⟨range, list, rangePruning, listPruning⟩ :=
    partition_lookup_pruning ⟨[10, 20, 30], [⟨5, 0⟩, ⟨7, 1⟩, ⟨9, 2⟩], true, 3, false⟩
  refine ⟨by rw [range (by decide) (by decide) 30]; decide, by rw [list (by decide) 8]; decide,
    rangePruning (by decide) (by decide) _ _ 15 1 (by decide) (by decide +kernel) (by decide),
    listPruning (by decide) (by decide) _ _ 7 1 (by decide) (by decide) (by decide)⟩

end MariaDB.Sql
