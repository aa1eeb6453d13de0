/-
Binary searches as C code writes them.

`bsearch` looks for a member that compares equal to a key in an array sorted by the
comparison: it halves the range `[l, u)` at `(l + u) / 2`, keeps the lower half when the key
is smaller than the member there and the upper half when it is greater, and stops at an
equal member.

`lowerBound` is the loop that narrows `[min, max]` to the first index where a test stops
holding: when the test holds of an index, it holds of every earlier one, and the loop ends at
the least index in the range where it fails, or at `max`.
-/

import Mathlib

namespace BinarySearch

variable {β : Type*}

/-- The loop of `bsearch` over `[l, u)`: `compar member` compares the key with a member,
`fuel` bounds the rounds. -/
def loop (compar : β → Ordering) (base : List β) : ℕ → ℕ → ℕ → Option ℕ
  | 0, _, _ => none
  | fuel + 1, l, u =>
    if l < u then
      match base[(l + u) / 2]? with
      | none => none
      | some member =>
        match compar member with
        | .lt => loop compar base fuel l ((l + u) / 2)
        | .gt => loop compar base fuel ((l + u) / 2 + 1) u
        | .eq => some ((l + u) / 2)
    else none

/-- `bsearch`: the index of a member that compares equal to the key, if it finds one. -/
def bsearch (compar : β → Ordering) (base : List β) : Option ℕ :=
  loop compar base base.length 0 base.length

/-! ### The first index past a test -/

/-- `while (max > min) { mid= (max + min) / 2; if (goRight(mid)) min= mid + 1; else max= mid; }`,
ending at `max`. -/
def lowerBound (goRight : ℕ → Bool) (min max : ℕ) : ℕ :=
  if min < max then
    if goRight ((max + min) / 2) then lowerBound goRight ((max + min) / 2 + 1) max
    else lowerBound goRight min ((max + min) / 2)
  else max
termination_by max - min

/-- When the test, holding of an index below `max`, holds of every earlier index, the loop ends
at the least index of `[min, max]` where it fails, or at `max`. -/
theorem lowerBound_spec {goRight : ℕ → Bool} {min max : ℕ}
    (closed : ∀ i j, i ≤ j → j < max → goRight j = true → goRight i = true) (le : min ≤ max) :
    min ≤ lowerBound goRight min max ∧ lowerBound goRight min max ≤ max ∧
      (∀ i, min ≤ i → i < lowerBound goRight min max → goRight i = true) ∧
      (lowerBound goRight min max < max → goRight (lowerBound goRight min max) = false) := by
  induction min, max using lowerBound.induct goRight with
  | case1 min max nonempty right inductionHypothesis =>
    -- the middle passes: so does every index up to it
    rw [lowerBound, if_pos nonempty, if_pos right]
    obtain ⟨low, high, passed, failed⟩ := inductionHypothesis closed (by omega)
    refine ⟨by omega, high, fun i lower below => ?_, failed⟩
    rcases Nat.lt_or_ge i ((max + min) / 2 + 1) with early | late
    · exact closed i ((max + min) / 2) (by omega) (by omega) right
    · exact passed i late below
  | case2 min max nonempty left inductionHypothesis =>
    -- the middle fails: the answer is at most the middle
    rw [lowerBound, if_pos nonempty, if_neg left]
    have narrowed : ∀ i j, i ≤ j → j < (max + min) / 2 → goRight j = true → goRight i = true :=
      fun i j before below => closed i j before (by omega)
    obtain ⟨low, high, passed, failed⟩ := inductionHypothesis narrowed (by omega)
    refine ⟨low, by omega, passed, fun _ => ?_⟩
    rcases Nat.lt_or_ge (lowerBound goRight min ((max + min) / 2)) ((max + min) / 2) with
      inside | edge
    · exact failed inside
    · rw [show lowerBound goRight min ((max + min) / 2) = (max + min) / 2 by omega]
      simpa using left
  | case3 min max empty =>
    rw [lowerBound, if_neg empty]
    exact ⟨le, Nat.le_refl max, fun i lower below => absurd below (by omega),
      fun below => absurd below (Nat.lt_irrefl max)⟩

end BinarySearch
