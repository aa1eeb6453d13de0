/-
The auto-increment sequence of `sql/handler.cc`: `compute_next_insert_id` and `prev_insert_id`.

The values an auto-increment column takes are `auto_increment_offset + N * auto_increment_increment`
for `N ≥ 0`. `prev_insert_id` rounds a number down to the sequence, and `compute_next_insert_id`
gives the value after a number, computing `((nr + increment - offset) / increment) * increment +
offset` in `ulonglong` and detecting overflow afterwards: a result not above the number it started
from is turned into `ULONGLONG_MAX`.

`prev_insert_id` is the greatest value of the sequence up to the number, from the offset on. With
an offset at most `nr + increment` and no wrap-around in `nr + increment`,
`compute_next_insert_id` is the least value of the sequence above the number. Below that the
subtraction wraps (and the shortcut for an increment of 1 does not look at the offset): the value
returned lies between the number and the offset, and is not in the sequence, whose least value
above the number is the offset itself.
-/

import Mathlib.Order.Bounds.Defs
import MariaDB.Sql.IntArith

namespace MariaDB.Sql

/-! ### The sequence -/

/-- A value of the sequence `offset + N * increment`. -/
def InSequence (increment offset x : ℕ) : Prop := ∃ n, x = offset + n * increment

/-- The least value of the sequence above `nr`. -/
def nextInSequence (nr increment offset : ℕ) : ℕ :=
  if nr < offset then offset else offset + ((nr - offset) / increment + 1) * increment

/-- The greatest value of the sequence up to `nr`, for `nr` from `offset` on. -/
def prevInSequence (nr increment offset : ℕ) : ℕ := offset + (nr - offset) / increment * increment

section Sequence

variable {nr increment offset : ℕ}

theorem isLeast_nextInSequence (positive : 0 < increment) :
    IsLeast {x | nr < x ∧ InSequence increment offset x} (nextInSequence nr increment offset) := by
  refine ⟨⟨?_, ?_⟩, ?_⟩
  · unfold nextInSequence
    split_ifs with below
    · exact below
    · have := Nat.lt_div_mul_add (a := nr - offset) positive
      rw [Nat.add_mul, Nat.one_mul]
      omega
  · unfold nextInSequence
    split_ifs
    · exact ⟨0, by rw [Nat.zero_mul, Nat.add_zero]⟩
    · exact ⟨_, rfl⟩
  · rintro x ⟨above, n, rfl⟩
    unfold nextInSequence
    split_ifs with below
    · exact Nat.le_add_right offset _
    · -- `n` whole increments pass `nr - offset`, so `n` is past its quotient
      have past : (nr - offset) / increment < n :=
        (Nat.div_lt_iff_lt_mul positive).mpr (by omega)
      exact Nat.add_le_add_left (Nat.mul_le_mul_right increment past) offset

theorem isGreatest_prevInSequence (positive : 0 < increment) (reached : offset ≤ nr) :
    IsGreatest {x | x ≤ nr ∧ InSequence increment offset x} (prevInSequence nr increment offset) := by
  refine ⟨⟨?_, _, rfl⟩, ?_⟩
  · have := Nat.div_mul_le_self (nr - offset) increment
    unfold prevInSequence
    omega
  · rintro x ⟨below, n, rfl⟩
    have within : n ≤ (nr - offset) / increment :=
      (Nat.le_div_iff_mul_le positive).mpr (by omega)
    exact Nat.add_le_add_left (Nat.mul_le_mul_right increment within) offset

/-- The formula of `compute_next_insert_id`, in exact arithmetic, is the next value of the
sequence once `nr + increment` reaches the offset. -/
theorem nextInSequence_eq_div (positive : 0 < increment) (reached : offset ≤ nr + increment) :
    nextInSequence nr increment offset = (nr + increment - offset) / increment * increment + offset := by
  unfold nextInSequence
  split_ifs with below
  · rw [Nat.div_eq_of_lt (by omega), Nat.zero_mul, Nat.zero_add]
  · rw [show nr + increment - offset = nr - offset + increment by omega,
      Nat.add_div_right _ positive]
    omega

end Sequence

/-! ### The functions -/

/-- The session variables `compute_next_insert_id` and `prev_insert_id` read, `ulong`s. -/
structure SystemVariables where
  autoIncrementIncrement : UInt64
  autoIncrementOffset : UInt64
  deriving DecidableEq, Repr

/-- `compute_next_insert_id`: the least `offset + N * increment` above `nr`, computed in
`ulonglong`, and `ULONGLONG_MAX` when the result is not above `nr`. -/
def computeNextInsertId (nr : UInt64) (systemVariables : SystemVariables) : UInt64 :=
  let saveNr := nr
  let nr :=
    if systemVariables.autoIncrementIncrement = 1 then nr + 1
    else
      (nr + systemVariables.autoIncrementIncrement - systemVariables.autoIncrementOffset) /
          systemVariables.autoIncrementIncrement * systemVariables.autoIncrementIncrement +
        systemVariables.autoIncrementOffset
  if nr ≤ saveNr then UInt64.ofNat ulonglongMax else nr

/-- `prev_insert_id`: the greatest `offset + N * increment` up to `nr`, and `nr` itself below
the offset. -/
def prevInsertId (nr : UInt64) (systemVariables : SystemVariables) : UInt64 :=
  if nr < systemVariables.autoIncrementOffset then nr
  else if systemVariables.autoIncrementIncrement = 1 then nr
  else
    (nr - systemVariables.autoIncrementOffset) / systemVariables.autoIncrementIncrement *
        systemVariables.autoIncrementIncrement + systemVariables.autoIncrementOffset

/-! ### `prev_insert_id` -/

/-- `prev_insert_id` rounds down to the sequence, without overflow. -/
theorem prevInsertId_toNat (nr : UInt64) (systemVariables : SystemVariables) :
    (prevInsertId nr systemVariables).toNat =
      if nr.toNat < systemVariables.autoIncrementOffset.toNat then nr.toNat
      else prevInSequence nr.toNat systemVariables.autoIncrementIncrement.toNat
        systemVariables.autoIncrementOffset.toNat := by
  have small := UInt64.toNat_lt nr
  rw [prevInsertId]
  by_cases below : nr.toNat < systemVariables.autoIncrementOffset.toNat
  · rw [if_pos (UInt64.lt_iff_toNat_lt.mpr below), if_pos below]
  · rw [if_neg (mt UInt64.lt_iff_toNat_lt.mp below), if_neg below, prevInSequence]
    have reached : systemVariables.autoIncrementOffset.toNat ≤ nr.toNat := Nat.le_of_not_lt below
    have rounded := Nat.div_mul_le_self (nr.toNat - systemVariables.autoIncrementOffset.toNat)
      systemVariables.autoIncrementIncrement.toNat
    split_ifs with one
    · -- the shortcut: every number from the offset on is in the sequence of step 1
      rw [one, UInt64.toNat_one, Nat.div_one, Nat.mul_one]
      omega
    · -- the rounded-down difference is at most `nr - offset`, so nothing wraps
      rw [UInt64.toNat_add, UInt64.toNat_mul, UInt64.toNat_div, UInt64.toNat_sub_of_le _ _
        (UInt64.le_iff_toNat_le.mpr reached)]
      omega

/-! ### `compute_next_insert_id` -/

/-- The value `compute_next_insert_id` returns is above `nr`, or `ULONGLONG_MAX`. -/
theorem computeNextInsertId_gt_or_max (nr : UInt64) (systemVariables : SystemVariables) :
    nr < computeNextInsertId nr systemVariables ∨
      computeNextInsertId nr systemVariables = UInt64.ofNat ulonglongMax := by
  dsimp only [computeNextInsertId]
  -- the overflow test, after either formula
  split_ifs with one notAbove notAbove
  · exact Or.inr rfl
  · exact Or.inl (UInt64.not_le.mp notAbove)
  · exact Or.inr rfl
  · exact Or.inl (UInt64.not_le.mp notAbove)

/-- `compute_next_insert_id` is the next value of the sequence when `nr + increment` reaches
the offset and does not wrap. -/
theorem computeNextInsertId_eq_next {nr : UInt64} {systemVariables : SystemVariables}
    (positive : 0 < systemVariables.autoIncrementIncrement.toNat)
    (reached : systemVariables.autoIncrementOffset.toNat ≤
      nr.toNat + systemVariables.autoIncrementIncrement.toNat)
    (noWrap : nr.toNat + systemVariables.autoIncrementIncrement.toNat < 2 ^ 64) :
    (computeNextInsertId nr systemVariables).toNat =
      nextInSequence nr.toNat systemVariables.autoIncrementIncrement.toNat
        systemVariables.autoIncrementOffset.toNat := by
  have next := nextInSequence_eq_div positive reached
  have above : nr.toNat < nextInSequence nr.toNat systemVariables.autoIncrementIncrement.toNat
      systemVariables.autoIncrementOffset.toNat := (isLeast_nextInSequence positive).1.1
  have rounded := Nat.div_mul_le_self
    (nr.toNat + systemVariables.autoIncrementIncrement.toNat -
      systemVariables.autoIncrementOffset.toNat) systemVariables.autoIncrementIncrement.toNat
  -- the value before the overflow test, in exact arithmetic
  have formula : (if systemVariables.autoIncrementIncrement = 1 then nr + 1
      else (nr + systemVariables.autoIncrementIncrement - systemVariables.autoIncrementOffset) /
          systemVariables.autoIncrementIncrement * systemVariables.autoIncrementIncrement +
        systemVariables.autoIncrementOffset).toNat =
      nextInSequence nr.toNat systemVariables.autoIncrementIncrement.toNat
        systemVariables.autoIncrementOffset.toNat := by
    split_ifs with one
    · have incrementOne : systemVariables.autoIncrementIncrement.toNat = 1 := by
        rw [one, UInt64.toNat_one]
      rw [UInt64.toNat_add, UInt64.toNat_one, next, incrementOne, Nat.div_one, Nat.mul_one]
      omega
    · have sum : (nr + systemVariables.autoIncrementIncrement).toNat =
          nr.toNat + systemVariables.autoIncrementIncrement.toNat := by
        rw [UInt64.toNat_add]
        omega
      rw [UInt64.toNat_add, UInt64.toNat_mul, UInt64.toNat_div, UInt64.toNat_sub_of_le _ _
        (UInt64.le_iff_toNat_le.mpr (by rw [sum]; exact reached)), sum, next]
      omega
  dsimp only [computeNextInsertId]
  rw [if_neg (fun notAbove => absurd (UInt64.le_iff_toNat_le.mp notAbove) (by omega)), formula]

/-- Below `offset - increment` the subtraction of `compute_next_insert_id` wraps, and so does
the last addition (an increment of 1 skips the formula): the value returned is above `nr` but
below the offset, so not in the sequence. -/
theorem computeNextInsertId_below_offset {nr : UInt64} {systemVariables : SystemVariables}
    (positive : 0 < systemVariables.autoIncrementIncrement.toNat)
    (wraps : nr.toNat + systemVariables.autoIncrementIncrement.toNat <
      systemVariables.autoIncrementOffset.toNat) :
    nr.toNat < (computeNextInsertId nr systemVariables).toNat ∧
      (computeNextInsertId nr systemVariables).toNat < systemVariables.autoIncrementOffset.toNat := by
  have offsetSmall := UInt64.toNat_lt systemVariables.autoIncrementOffset
  have sum : (nr + systemVariables.autoIncrementIncrement).toNat =
      nr.toNat + systemVariables.autoIncrementIncrement.toNat := by
    rw [UInt64.toNat_add]
    omega
  -- the value before the overflow test lies above `nr`, by less than one increment
  have raw : nr.toNat < (if systemVariables.autoIncrementIncrement = 1 then nr + 1
      else (nr + systemVariables.autoIncrementIncrement - systemVariables.autoIncrementOffset) /
          systemVariables.autoIncrementIncrement * systemVariables.autoIncrementIncrement +
        systemVariables.autoIncrementOffset).toNat ∧
      (if systemVariables.autoIncrementIncrement = 1 then nr + 1
      else (nr + systemVariables.autoIncrementIncrement - systemVariables.autoIncrementOffset) /
          systemVariables.autoIncrementIncrement * systemVariables.autoIncrementIncrement +
        systemVariables.autoIncrementOffset).toNat ≤
        nr.toNat + systemVariables.autoIncrementIncrement.toNat := by
    split_ifs with one
    · have incrementOne : systemVariables.autoIncrementIncrement.toNat = 1 := by
        rw [one, UInt64.toNat_one]
      rw [UInt64.toNat_add, UInt64.toNat_one]
      omega
    · rw [UInt64.toNat_add, UInt64.toNat_mul, UInt64.toNat_div, UInt64.toNat_sub, sum]
      -- `nr + increment - offset` wraps to `2^64 - (offset - nr - increment)`
      have wrapped : (2 ^ 64 - systemVariables.autoIncrementOffset.toNat +
          (nr.toNat + systemVariables.autoIncrementIncrement.toNat)) % 2 ^ 64 =
          2 ^ 64 - systemVariables.autoIncrementOffset.toNat +
            (nr.toNat + systemVariables.autoIncrementIncrement.toNat) := Nat.mod_eq_of_lt (by omega)
      rw [wrapped]
      have rounded := Nat.div_mul_le_self (2 ^ 64 - systemVariables.autoIncrementOffset.toNat +
          (nr.toNat + systemVariables.autoIncrementIncrement.toNat))
        systemVariables.autoIncrementIncrement.toNat
      have roundedAbove := Nat.lt_div_mul_add (a := 2 ^ 64 - systemVariables.autoIncrementOffset.toNat +
          (nr.toNat + systemVariables.autoIncrementIncrement.toNat)) positive
      omega
  dsimp only [computeNextInsertId]
  rw [if_neg (fun notAbove => absurd (UInt64.le_iff_toNat_le.mp notAbove) (by omega))]
  omega

/-- When `nr + increment` wraps to a number from the offset on, `compute_next_insert_id` gives
`ULONGLONG_MAX`, even when a value of the sequence lies between `nr` and `ULONGLONG_MAX`. -/
theorem computeNextInsertId_sum_wraps {nr : UInt64} {systemVariables : SystemVariables}
    (wraps : 2 ^ 64 ≤ nr.toNat + systemVariables.autoIncrementIncrement.toNat)
    (reached : systemVariables.autoIncrementOffset.toNat ≤
      nr.toNat + systemVariables.autoIncrementIncrement.toNat - 2 ^ 64) :
    computeNextInsertId nr systemVariables = UInt64.ofNat ulonglongMax := by
  have small := UInt64.toNat_lt nr
  have incrementSmall := UInt64.toNat_lt systemVariables.autoIncrementIncrement
  have sum : (nr + systemVariables.autoIncrementIncrement).toNat =
      nr.toNat + systemVariables.autoIncrementIncrement.toNat - 2 ^ 64 := by
    rw [UInt64.toNat_add]
    omega
  dsimp only [computeNextInsertId]
  split_ifs with one notAbove notAbove
  · rfl
  · -- `nr` is `ULONGLONG_MAX`, and `nr + 1` wraps to 0
    have incrementOne : systemVariables.autoIncrementIncrement.toNat = 1 := by
      rw [one, UInt64.toNat_one]
    rw [one, UInt64.toNat_one] at sum
    exact absurd (UInt64.le_iff_toNat_le.mpr (by omega)) notAbove
  · rfl
  · -- what is left of the sum is below one increment: the formula gives the offset
    have wrapped : ((nr + systemVariables.autoIncrementIncrement - systemVariables.autoIncrementOffset) /
        systemVariables.autoIncrementIncrement).toNat = 0 := by
      rw [UInt64.toNat_div, UInt64.toNat_sub_of_le _ _
        (UInt64.le_iff_toNat_le.mpr (by rw [sum]; exact reached)), sum]
      exact Nat.div_eq_of_lt (by omega)
    refine absurd (UInt64.le_iff_toNat_le.mpr ?_) notAbove
    rw [UInt64.toNat_add, UInt64.toNat_mul, wrapped, Nat.zero_mul, Nat.zero_mod, Nat.zero_add]
    omega

/-- With an offset above `nr + increment`, `compute_next_insert_id` returns a value above `nr`
that is not in the sequence, whose least value above `nr` is the offset. -/
theorem computeNextInsertId_offset_wraps {nr : UInt64} {systemVariables : SystemVariables}
    (positive : 0 < systemVariables.autoIncrementIncrement.toNat)
    (wraps : nr.toNat + systemVariables.autoIncrementIncrement.toNat <
      systemVariables.autoIncrementOffset.toNat) :
    nr.toNat < (computeNextInsertId nr systemVariables).toNat ∧
      ¬ InSequence systemVariables.autoIncrementIncrement.toNat
        systemVariables.autoIncrementOffset.toNat (computeNextInsertId nr systemVariables).toNat ∧
      nextInSequence nr.toNat systemVariables.autoIncrementIncrement.toNat
        systemVariables.autoIncrementOffset.toNat = systemVariables.autoIncrementOffset.toNat := by
  obtain ⟨above, below⟩ := computeNextInsertId_below_offset positive wraps
  refine ⟨above, ?_, if_pos (by omega)⟩
  rintro ⟨n, inSequence⟩
  omega

/-- `auto_increment_increment = 10`, `auto_increment_offset = 15`: after 0 comes 9. -/
theorem computeNextInsertId_offset_wraps_fifteen :
    0 < (⟨10, 15⟩ : SystemVariables).autoIncrementIncrement.toNat ∧
      (0 : UInt64).toNat + (⟨10, 15⟩ : SystemVariables).autoIncrementIncrement.toNat <
        (⟨10, 15⟩ : SystemVariables).autoIncrementOffset.toNat ∧
      computeNextInsertId 0 ⟨10, 15⟩ = 9 ∧
      ((0 : UInt64).toNat < (computeNextInsertId 0 ⟨10, 15⟩).toNat ∧
        ¬ InSequence 10 15 (computeNextInsertId 0 ⟨10, 15⟩).toNat ∧
        nextInSequence 0 10 15 = 15) :=
  ⟨by decide, by decide, by decide, computeNextInsertId_offset_wraps (by decide) (by decide)⟩

/-! ### The sequence the two functions keep -/

/-- With a positive increment, `compute_next_insert_id` gives a value above `nr` or
`ULONGLONG_MAX`: the least value of the sequence above `nr` once `nr + increment` reaches the
offset without wrapping, and `ULONGLONG_MAX` when it wraps to a number from the offset on.
`prev_insert_id` gives the greatest value of the sequence up to `nr` from the offset on, and `nr`
below it. -/
theorem auto_increment_sequence {nr : UInt64} {systemVariables : SystemVariables}
    (positive : 0 < systemVariables.autoIncrementIncrement.toNat) :
    (nr < computeNextInsertId nr systemVariables ∨
      computeNextInsertId nr systemVariables = UInt64.ofNat ulonglongMax) ∧
    (systemVariables.autoIncrementOffset.toNat ≤
        nr.toNat + systemVariables.autoIncrementIncrement.toNat →
      nr.toNat + systemVariables.autoIncrementIncrement.toNat < 2 ^ 64 →
      IsLeast {x | nr.toNat < x ∧ InSequence systemVariables.autoIncrementIncrement.toNat
          systemVariables.autoIncrementOffset.toNat x}
        (computeNextInsertId nr systemVariables).toNat) ∧
    (2 ^ 64 ≤ nr.toNat + systemVariables.autoIncrementIncrement.toNat →
      systemVariables.autoIncrementOffset.toNat ≤
        nr.toNat + systemVariables.autoIncrementIncrement.toNat - 2 ^ 64 →
      computeNextInsertId nr systemVariables = UInt64.ofNat ulonglongMax) ∧
    (systemVariables.autoIncrementOffset.toNat ≤ nr.toNat →
      IsGreatest {x | x ≤ nr.toNat ∧ InSequence systemVariables.autoIncrementIncrement.toNat
          systemVariables.autoIncrementOffset.toNat x}
        (prevInsertId nr systemVariables).toNat) ∧
    (nr.toNat < systemVariables.autoIncrementOffset.toNat →
      (prevInsertId nr systemVariables).toNat = nr.toNat) := by
  refine ⟨computeNextInsertId_gt_or_max nr systemVariables, ?_, computeNextInsertId_sum_wraps,
    ?_, ?_⟩
  · intro reached noWrap
    rw [computeNextInsertId_eq_next positive reached noWrap]
    exact isLeast_nextInSequence positive
  · intro reached
    rw [prevInsertId_toNat, if_neg (Nat.not_lt.mpr reached)]
    exact isGreatest_prevInSequence positive reached
  · intro below
    rw [prevInsertId_toNat, if_pos below]

/-- `auto_increment_increment = 10`: with the offset `5`, after 7 comes 15 and before it 5, and
2 stays; with the offset `3`, after `2 ^ 64 - 5` comes `ULONGLONG_MAX`. -/
theorem auto_increment_sequence_ten :
    IsLeast {x | (7 : UInt64).toNat < x ∧ InSequence 10 5 x}
        (computeNextInsertId 7 ⟨10, 5⟩).toNat ∧
      computeNextInsertId 18446744073709551611 ⟨10, 3⟩ = UInt64.ofNat ulonglongMax ∧
      IsGreatest {x | x ≤ (7 : UInt64).toNat ∧ InSequence 10 5 x}
        (prevInsertId 7 ⟨10, 5⟩).toNat ∧
      (prevInsertId 2 ⟨10, 5⟩).toNat = (2 : UInt64).toNat :=
  ⟨(@auto_increment_sequence 7 ⟨10, 5⟩ (by decide)).2.1 (by decide) (by decide),
    (@auto_increment_sequence 18446744073709551611 ⟨10, 3⟩ (by decide)).2.2.1 (by decide)
      (by decide),
    (@auto_increment_sequence 7 ⟨10, 5⟩ (by decide)).2.2.2.1 (by decide),
    (@auto_increment_sequence 2 ⟨10, 5⟩ (by decide)).2.2.2.2 (by decide)⟩

end MariaDB.Sql
