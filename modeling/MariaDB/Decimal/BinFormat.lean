/-
What the binary format of `decimal2bin` stores, stated over the number and not over the
words of a `decimal_t`.

A format is a list of digit groups; a number below ten to the total of the groups is cut into
them, most significant first, and each group of `c` digits is written in `dig2bytes[c]`
big-endian bytes. Every group fits its bytes with the top bit clear, so the first byte of a
non-negative string is below `0x80`. The string of a negative number is the byte-wise
complement, and the first bit of every string is inverted. The order theorem of this file
is that `memcmp` on two strings of one format is the order of the signed numbers.
-/

import MariaDB.Decimal.Bin

namespace MariaDB.Decimal

/-! ### Digit groups in bytes -/

/-- The bytes of the digit groups `counts` of `n`, most significant first: each group of
`count` digits in `dig2bytes count` bytes. -/
def groupBytes : List ℕ → ℕ → List ℕ
  | [], _ => []
  | count :: counts, n =>
    Positional.bytes (dig2bytes count) (n / 10 ^ counts.sum % 10 ^ count) ++
      groupBytes counts (n % 10 ^ counts.sum)

/-- The digit groups of a format of precision `precision` and scale `scale`: the leading
integer digits, the integer words, the fraction words and the trailing fraction digits. -/
def binGroups (precision scale : ℕ) : List ℕ :=
  (precision - scale) % digPerDec1 ::
    List.replicate ((precision - scale) / digPerDec1 + scale / digPerDec1) digPerDec1 ++
      [scale % digPerDec1]

/-- The string `decimal2bin` writes for the magnitude `n` with the sign `negative`, in the
format of the groups `counts`. -/
def binImage (counts : List ℕ) (negative : Bool) (n : ℕ) : List ℕ :=
  flipFirst ((groupBytes counts n).map (maskByte negative))

/-- A magnitude with a sign. -/
def signed (negative : Bool) (n : ℕ) : ℤ := if negative then -(n : ℤ) else n

theorem groupBytes_cons (count : ℕ) (counts : List ℕ) (n : ℕ) :
    groupBytes (count :: counts) n =
      Positional.bytes (dig2bytes count) (n / 10 ^ counts.sum % 10 ^ count) ++
        groupBytes counts (n % 10 ^ counts.sum) := rfl

theorem length_groupBytes (counts : List ℕ) (n : ℕ) :
    (groupBytes counts n).length = (counts.map dig2bytes).sum := by
  induction counts generalizing n with
  | nil => rfl
  | cons count counts inductionHypothesis =>
    rw [groupBytes_cons, List.length_append, Positional.length_bytes, inductionHypothesis,
      List.map_cons, List.sum_cons]

theorem groupBytes_mod (counts : List ℕ) (n : ℕ) :
    groupBytes counts (n % 10 ^ counts.sum) = groupBytes counts n := by
  cases counts with
  | nil => rfl
  | cons count counts =>
    rw [groupBytes_cons, groupBytes_cons, List.sum_cons, Nat.pow_add,
      Nat.mod_mul_left_div_self, Nat.mod_mod, Nat.mod_mod_of_dvd n (Dvd.intro_left _ rfl)]

/-- The groups of a concatenated format: the high groups hold the quotient, the low groups
the remainder. -/
theorem groupBytes_append (counts counts' : List ℕ) (n : ℕ) :
    groupBytes (counts ++ counts') n =
      groupBytes counts (n / 10 ^ counts'.sum) ++ groupBytes counts' (n % 10 ^ counts'.sum) := by
  induction counts generalizing n with
  | nil => rw [List.nil_append, groupBytes, List.nil_append, groupBytes_mod]
  | cons count counts inductionHypothesis =>
    rw [List.cons_append, groupBytes_cons, groupBytes_cons, inductionHypothesis, List.sum_append,
      List.append_assoc, Nat.pow_add, Nat.div_div_eq_div_mul, Nat.mul_comm (10 ^ counts.sum),
      Nat.mod_mul_right_div_self, Nat.mod_mul_right_mod]

/-- A group of at most nine digits fits its bytes. -/
theorem pow_ten_le_bytes {count : ℕ} (short : count ≤ digPerDec1) :
    10 ^ count ≤ 256 ^ dig2bytes count := by
  unfold digPerDec1 at short
  interval_cases count <;> decide

/-- A group of one to nine digits leaves the top bit of its first byte clear. -/
theorem pow_ten_le_half_bytes {count : ℕ} (positive : 0 < count) (short : count ≤ digPerDec1) :
    10 ^ count ≤ 128 * 256 ^ (dig2bytes count - 1) := by
  unfold digPerDec1 at short
  interval_cases count <;> decide

theorem dig2bytes_pos {count : ℕ} (positive : 0 < count) (short : count ≤ digPerDec1) :
    0 < dig2bytes count := by
  unfold digPerDec1 at short
  interval_cases count <;> decide

theorem byte_lt_of_mem_groupBytes {counts : List ℕ} {n byte : ℕ}
    (member : byte ∈ groupBytes counts n) : byte < 256 := by
  induction counts generalizing n with
  | nil => exact absurd member List.not_mem_nil
  | cons count counts inductionHypothesis =>
    rw [groupBytes_cons, List.mem_append] at member
    rcases member with head | tail
    · exact Positional.byte_lt_of_mem head
    · exact inductionHypothesis tail

/-- Strings of one format compare as the numbers. -/
theorem compare_groupBytes (counts : List ℕ) (short : ∀ count ∈ counts, count ≤ digPerDec1)
    (n m : ℕ) (smallN : n < 10 ^ counts.sum) (smallM : m < 10 ^ counts.sum) :
    compare (groupBytes counts n) (groupBytes counts m) = compare n m := by
  induction counts generalizing n m with
  | nil =>
    rw [List.sum_nil, Nat.pow_zero, Nat.lt_one_iff] at smallN smallM
    rw [smallN, smallM]
    rfl
  | cons count counts inductionHypothesis =>
    have shortHead := short count List.mem_cons_self
    have shortTail : ∀ other ∈ counts, other ≤ digPerDec1 :=
      fun other member => short other (List.mem_cons_of_mem _ member)
    rw [List.sum_cons, Nat.pow_add] at smallN smallM
    have positive : 0 < 10 ^ counts.sum := Nat.pow_pos (by norm_num)
    have highN : n / 10 ^ counts.sum < 10 ^ count :=
      Nat.div_lt_of_lt_mul (Nat.mul_comm (10 ^ count) _ ▸ smallN)
    have highM : m / 10 ^ counts.sum < 10 ^ count :=
      Nat.div_lt_of_lt_mul (Nat.mul_comm (10 ^ count) _ ▸ smallM)
    rw [groupBytes_cons, groupBytes_cons, Positional.compare_append _ _ _ _ (by simp),
      Nat.mod_eq_of_lt highN, Nat.mod_eq_of_lt highM,
      Positional.compare_bytes _ _ _ (lt_of_lt_of_le highN (pow_ten_le_bytes shortHead))
        (lt_of_lt_of_le highM (pow_ten_le_bytes shortHead)),
      inductionHypothesis shortTail _ _ (Nat.mod_lt _ positive) (Nat.mod_lt _ positive),
      ← Positional.compare_eq_then]

/-- The first byte of the string of a number has its top bit clear. -/
theorem head_groupBytes_lt (counts : List ℕ) (short : ∀ count ∈ counts, count ≤ digPerDec1)
    (n : ℕ) (small : n < 10 ^ counts.sum) :
    ∀ byte ∈ (groupBytes counts n).head?, byte < 128 := by
  induction counts generalizing n with
  | nil => intro byte member; exact absurd member (by simp [groupBytes])
  | cons count counts inductionHypothesis =>
    intro byte member
    have shortHead := short count List.mem_cons_self
    rw [List.sum_cons, Nat.pow_add] at small
    have high : n / 10 ^ counts.sum < 10 ^ count :=
      Nat.div_lt_of_lt_mul (Nat.mul_comm (10 ^ count) _ ▸ small)
    rw [groupBytes_cons, Nat.mod_eq_of_lt high] at member
    rcases Nat.eq_zero_or_pos count with empty | positive
    · -- a group of no digits writes no bytes
      rw [empty, dig2bytes, Positional.bytes_zero_width, List.nil_append] at member
      exact inductionHypothesis (fun other member => short other (List.mem_cons_of_mem _ member))
        _ (Nat.mod_lt _ (Nat.pow_pos (by norm_num))) byte member
    · obtain ⟨width, widthEq⟩ : ∃ width, dig2bytes count = width + 1 :=
        ⟨dig2bytes count - 1, by have := dig2bytes_pos positive shortHead; omega⟩
      have bound := pow_ten_le_half_bytes positive shortHead
      rw [widthEq, Nat.add_sub_cancel] at bound
      rw [widthEq, Positional.bytes_succ, List.cons_append, List.head?_cons,
        Option.mem_some_iff] at member
      rw [← member]
      have quotient : n / 10 ^ counts.sum / 256 ^ width < 128 :=
        Nat.div_lt_of_lt_mul (lt_of_lt_of_le high (Nat.mul_comm 128 (256 ^ width) ▸ bound))
      exact lt_of_le_of_lt (Nat.mod_le _ _) quotient

theorem dig2bytes_le_dig2bytes {count count' : ℕ} (le : count ≤ count')
    (short : count' ≤ digPerDec1) : dig2bytes count ≤ dig2bytes count' := by
  have table : ∀ count' < 10, ∀ count ≤ count', dig2bytes count ≤ dig2bytes count' := by decide
  exact table count' (by unfold digPerDec1 at short; omega) count le

theorem groupBytes_single (count n : ℕ) (small : n < 10 ^ count) :
    groupBytes [count] n = Positional.bytes (dig2bytes count) n := by
  rw [groupBytes_cons, List.sum_nil, Nat.pow_zero, Nat.div_one, Nat.mod_eq_of_lt small, groupBytes,
    List.append_nil]

/-- Whole words of nine digits are written four bytes each. -/
theorem groupBytes_words (words : List ℕ) (small : ∀ word ∈ words, word < digBase) :
    groupBytes (List.replicate words.length digPerDec1) (Positional.value digBase words) =
      (words.map (Positional.bytes 4)).flatten := by
  induction words with
  | nil => rfl
  | cons word rest inductionHypothesis =>
    have wordSmall := small word List.mem_cons_self
    have restSmall := Positional.value_lt digBase rest fun other member =>
      small other (List.mem_cons_of_mem _ member)
    have sumWords : (List.replicate rest.length digPerDec1).sum = digPerDec1 * rest.length := by
      rw [List.sum_replicate, smul_eq_mul, Nat.mul_comm]
    rw [digBase_pow] at restSmall
    have wordFits : word < 10 ^ digPerDec1 := wordSmall
    rw [List.length_cons, List.replicate_succ, groupBytes_cons, sumWords, Positional.value_cons,
      digBase_pow, Nat.add_comm (word * _), Nat.add_mul_div_right _ _ (Nat.pow_pos (by norm_num)),
      Nat.div_eq_of_lt restSmall, Nat.zero_add, Nat.mod_eq_of_lt wordFits,
      Nat.add_mul_mod_self_right, Nat.mod_eq_of_lt restSmall,
      inductionHypothesis fun other member => small other (List.mem_cons_of_mem _ member),
      List.map_cons, List.flatten_cons]
    rfl

/-- Room for more digits in the leading group is zero bytes in front. -/
theorem groupBytes_head_widen (count count' : ℕ) (counts : List ℕ) (n : ℕ)
    (le : count ≤ count') (short : count' ≤ digPerDec1) (small : n < 10 ^ (counts.sum + count)) :
    groupBytes (count' :: counts) n =
      List.replicate (dig2bytes count' - dig2bytes count) 0 ++ groupBytes (count :: counts) n := by
  have high : n / 10 ^ counts.sum < 10 ^ count := by
    rw [Nat.pow_add] at small
    exact Nat.div_lt_of_lt_mul small
  have highWide : n / 10 ^ counts.sum < 10 ^ count' :=
    lt_of_lt_of_le high (Nat.pow_le_pow_right (by norm_num) le)
  have fitsBytes := lt_of_lt_of_le high (pow_ten_le_bytes (le_trans le short))
  rw [groupBytes_cons, groupBytes_cons, Nat.mod_eq_of_lt high, Nat.mod_eq_of_lt highWide,
    ← List.append_assoc, ← Positional.bytes_add _ _ _ fitsBytes,
    Nat.sub_add_cancel (dig2bytes_le_dig2bytes le short)]

/-! ### The groups of a precision and a scale -/

/-- The digit groups of `digits` integer digits: the leading digits, then whole words. -/
def intGroups (digits : ℕ) : List ℕ :=
  digits % digPerDec1 :: List.replicate (digits / digPerDec1) digPerDec1

/-- The digit groups of `digits` fraction digits: whole words, then the trailing digits. -/
def fracGroups (digits : ℕ) : List ℕ :=
  List.replicate (digits / digPerDec1) digPerDec1 ++ [digits % digPerDec1]

/-- The bytes of `digits` integer digits, `isize` of `decimal2bin`. -/
def intSize (digits : ℕ) : ℕ := digits / digPerDec1 * 4 + dig2bytes (digits % digPerDec1)

theorem sub_div_mul (n : ℕ) : n - n / digPerDec1 * digPerDec1 = n % digPerDec1 := by
  unfold digPerDec1; omega

theorem binGroups_eq (precision scale : ℕ) :
    binGroups precision scale = intGroups (precision - scale) ++ fracGroups scale := by
  rw [binGroups, intGroups, fracGroups, List.replicate_add]
  simp only [List.cons_append, List.append_assoc]

theorem sum_intGroups (digits : ℕ) : (intGroups digits).sum = digits := by
  rw [intGroups, List.sum_cons, List.sum_replicate, smul_eq_mul]
  unfold digPerDec1; omega

theorem sum_fracGroups (digits : ℕ) : (fracGroups digits).sum = digits := by
  rw [fracGroups, List.sum_append, List.sum_replicate, smul_eq_mul, List.sum_singleton]
  unfold digPerDec1; omega

theorem sum_binGroups (precision scale : ℕ) :
    (binGroups precision scale).sum = precision - scale + scale := by
  rw [binGroups_eq, List.sum_append, sum_intGroups, sum_fracGroups]

theorem sum_map_binGroups (precision scale : ℕ) :
    ((binGroups precision scale).map dig2bytes).sum = decimalBinSize precision scale := by
  rw [binGroups_eq, intGroups, fracGroups, List.map_append, List.map_cons, List.map_append,
    List.map_replicate, List.map_replicate, List.map_singleton, List.sum_append, List.sum_cons,
    List.sum_append, List.sum_replicate, List.sum_replicate, List.sum_singleton, smul_eq_mul,
    smul_eq_mul, decimalBinSize, sub_div_mul, sub_div_mul, show dig2bytes digPerDec1 = 4 from rfl]
  ring

theorem short_intGroups (digits : ℕ) : ∀ count ∈ intGroups digits, count ≤ digPerDec1 := by
  intro count member
  rw [intGroups, List.mem_cons, List.mem_replicate] at member
  rcases member with lead | ⟨-, word⟩
  · rw [lead]; exact Nat.le_of_lt (Nat.mod_lt _ (by decide))
  · exact Nat.le_of_eq word

theorem short_fracGroups (digits : ℕ) : ∀ count ∈ fracGroups digits, count ≤ digPerDec1 := by
  intro count member
  rw [fracGroups, List.mem_append, List.mem_replicate, List.mem_singleton] at member
  rcases member with ⟨-, word⟩ | last
  · exact Nat.le_of_eq word
  · rw [last]; exact Nat.le_of_lt (Nat.mod_lt _ (by decide))

theorem length_groupBytes_intGroups (digits n : ℕ) :
    (groupBytes (intGroups digits) n).length = intSize digits := by
  rw [length_groupBytes, intGroups, List.map_cons, List.sum_cons, List.map_replicate,
    List.sum_replicate, smul_eq_mul, intSize, Nat.add_comm]
  rfl

/-- One more integer digit in the format adds the bytes its groups need in front. -/
theorem groupBytes_intGroups_succ (digits n : ℕ) (small : n < 10 ^ digits) :
    groupBytes (intGroups (digits + 1)) n =
      List.replicate (intSize (digits + 1) - intSize digits) 0 ++ groupBytes (intGroups digits) n := by
  have split : digits = digits % digPerDec1 + digPerDec1 * (digits / digPerDec1) :=
    (Nat.mod_add_div digits digPerDec1).symm
  have sumWords : (List.replicate (digits / digPerDec1) digPerDec1).sum =
      digPerDec1 * (digits / digPerDec1) := by
    rw [List.sum_replicate, smul_eq_mul, Nat.mul_comm]
  rcases Nat.lt_or_ge (digits % digPerDec1 + 1) digPerDec1 with same | carry
  · -- the leading group takes the new digit
    have quotient : (digits + 1) / digPerDec1 = digits / digPerDec1 := by unfold digPerDec1 at *; omega
    have remainder : (digits + 1) % digPerDec1 = digits % digPerDec1 + 1 := by
      unfold digPerDec1 at *; omega
    rw [intGroups, intGroups, quotient, remainder,
      groupBytes_head_widen _ _ _ n (Nat.le_succ _) (Nat.le_of_lt same)
        (by rw [sumWords, Nat.add_comm, ← split]; exact small),
      intSize, intSize, quotient, remainder, Nat.add_sub_add_left]
  · -- the new digit completes a word: the leading group becomes a whole word
    have quotient : (digits + 1) / digPerDec1 = digits / digPerDec1 + 1 := by
      unfold digPerDec1 at *; omega
    have remainder : (digits + 1) % digPerDec1 = 0 := by unfold digPerDec1 at *; omega
    have last : digits % digPerDec1 = 8 := by unfold digPerDec1 at *; omega
    rw [intGroups, intGroups, quotient, remainder, List.replicate_succ, groupBytes_cons,
      show dig2bytes 0 = 0 from rfl,
      Positional.bytes_zero_width, List.nil_append, groupBytes_mod,
      groupBytes_head_widen 8 digPerDec1 _ n (by decide) le_rfl
        (by rw [sumWords, Nat.add_comm, ← last, ← split]; exact small),
      intSize, intSize, quotient, remainder, last]
    congr 2
    simp only [dig2bytes, digPerDec1]
    omega

/-- A format with more integer digits than a number has writes zero bytes in front. -/
theorem groupBytes_intGroups_widen (digits digits' n : ℕ) (le : digits ≤ digits')
    (small : n < 10 ^ digits) :
    groupBytes (intGroups digits') n =
      List.replicate (intSize digits' - intSize digits) 0 ++ groupBytes (intGroups digits) n := by
  induction digits', le using Nat.le_induction with
  | base => rw [Nat.sub_self, List.replicate_zero, List.nil_append]
  | succ digits' le inductionHypothesis =>
    have grows : intSize digits' ≤ intSize (digits' + 1) := by
      have lengths := congrArg List.length (groupBytes_intGroups_succ digits' n
        (lt_of_lt_of_le small (Nat.pow_le_pow_right (by norm_num) le)))
      rw [List.length_append, length_groupBytes_intGroups, length_groupBytes_intGroups] at lengths
      omega
    have monotone : intSize digits ≤ intSize digits' := by
      have lengths := congrArg List.length inductionHypothesis
      rw [List.length_append, length_groupBytes_intGroups, length_groupBytes_intGroups] at lengths
      omega
    rw [groupBytes_intGroups_succ digits' n
      (lt_of_lt_of_le small (Nat.pow_le_pow_right (by norm_num) le)), inductionHypothesis,
      ← List.append_assoc, List.replicate_append_replicate]
    congr 2
    omega

/-- The integer groups over the layout of `intTail_layout`. -/
theorem groupBytes_intGroups_split (digits : ℕ) (lead words : List ℕ)
    (wordsLength : words.length = digits / digPerDec1)
    (leadLength : lead.length = if digits % digPerDec1 = 0 then 0 else 1)
    (leadSmall : ∀ word ∈ lead, word < 10 ^ (digits % digPerDec1))
    (small : ∀ word ∈ words, word < digBase) :
    groupBytes (intGroups digits) (Positional.value digBase (lead ++ words)) =
      (lead.map (Positional.bytes (dig2bytes (digits % digPerDec1)))).flatten ++
        (words.map (Positional.bytes 4)).flatten := by
  have wordsBelow := Positional.value_lt digBase words small
  have sumWords : (List.replicate (digits / digPerDec1) digPerDec1).sum = digPerDec1 * words.length := by
    rw [List.sum_replicate, smul_eq_mul, wordsLength, Nat.mul_comm]
  rw [digBase_pow] at wordsBelow
  rw [intGroups, groupBytes_cons, sumWords, Positional.value_append, digBase_pow,
    Nat.add_comm (_ * _), Nat.add_mul_div_right _ _ (Nat.pow_pos (by norm_num)),
    Nat.div_eq_of_lt wordsBelow, Nat.zero_add, Nat.add_mul_mod_self_right,
    Nat.mod_eq_of_lt wordsBelow, ← wordsLength, groupBytes_words _ small]
  congr 1
  match lead, leadLength, leadSmall with
  | [], leadLength, _ =>
    have noLead : digits % digPerDec1 = 0 := by
      by_contra partial'
      rw [if_neg partial'] at leadLength
      exact absurd leadLength (by simp)
    rw [noLead]
    rfl
  | [word], _, leadSmall =>
    have wordSmall := leadSmall word List.mem_cons_self
    rw [Positional.value_cons, List.length_nil, Nat.pow_zero, Nat.mul_one, Positional.value_nil,
      Nat.add_zero, Nat.mod_eq_of_lt wordSmall, List.map_singleton, List.flatten_singleton]
  | _ :: _ :: _, leadLength, _ =>
    rw [List.length_cons, List.length_cons] at leadLength
    exact absurd leadLength (by split <;> omega)

/-- The fraction groups of a format over words cut after `count` digits of the last one: whole
words four bytes each, then the leading `count` digits of the last word. -/
theorem groupBytes_fracGroups (words : List ℕ) (count : ℕ) (short : count < digPerDec1)
    (small : ∀ word ∈ words, word < digBase) (nonempty : words ≠ []) :
    groupBytes (List.replicate (words.length - 1) digPerDec1 ++ [count])
        (Positional.value digBase words / 10 ^ (digPerDec1 - count)) =
      ((words.dropLast).map (Positional.bytes 4)).flatten ++
        Positional.bytes (dig2bytes count) (words.getLast nonempty / 10 ^ (digPerDec1 - count)) := by
  have split := List.dropLast_append_getLast nonempty
  have frontSmall : ∀ word ∈ words.dropLast, word < digBase := fun word member =>
    small word (List.mem_of_mem_dropLast member)
  have lastSmall : words.getLast nonempty < digBase := small _ (List.getLast_mem nonempty)
  have frontLength : words.dropLast.length = words.length - 1 := List.length_dropLast
  have digitsSplit : digBase = 10 ^ count * 10 ^ (digPerDec1 - count) := by
    rw [← Nat.pow_add, Nat.add_sub_cancel' (Nat.le_of_lt short)]
    rfl
  have lastHigh : words.getLast nonempty / 10 ^ (digPerDec1 - count) < 10 ^ count :=
    Nat.div_lt_of_lt_mul (by rw [Nat.mul_comm, ← digitsSplit]; exact lastSmall)
  -- cutting the low digits of the last word leaves the front words above `count` digits
  have cut : Positional.value digBase words / 10 ^ (digPerDec1 - count) =
      Positional.value digBase words.dropLast * 10 ^ count +
        words.getLast nonempty / 10 ^ (digPerDec1 - count) := by
    conv_lhs => rw [← split]
    rw [Positional.value_append, List.length_singleton, Nat.pow_one, Positional.value_cons,
      List.length_nil, Nat.pow_zero, Nat.mul_one, Positional.value_nil, Nat.add_zero,
      show Positional.value digBase words.dropLast * digBase =
        Positional.value digBase words.dropLast * 10 ^ count * 10 ^ (digPerDec1 - count) by
          rw [Nat.mul_assoc, ← digitsSplit],
      Nat.add_comm, Nat.add_mul_div_right _ _ (Nat.pow_pos (by norm_num)), Nat.add_comm]
  rw [cut, groupBytes_append, List.sum_singleton, Nat.add_comm, Nat.add_mul_div_right _ _
    (Nat.pow_pos (by norm_num)), Nat.div_eq_of_lt lastHigh, Nat.zero_add, Nat.add_mul_mod_self_right,
    Nat.mod_eq_of_lt lastHigh, groupBytes_single _ _ lastHigh, ← frontLength,
    groupBytes_words _ frontSmall]

/-- A fraction of no more words than the format's whole fraction words: the words, then zero
bytes to the end of the format. -/
theorem groupBytes_fracGroups_words (fraction : List ℕ) (scale : ℕ)
    (small : ∀ word ∈ fraction, word < digBase) (fitsWords : fraction.length ≤ scale / digPerDec1) :
    groupBytes (fracGroups scale) (Positional.value digBase
        (fraction ++ List.replicate (scale / digPerDec1 + 1 - fraction.length) 0) /
          10 ^ (digPerDec1 - scale % digPerDec1)) =
      (fraction.map (Positional.bytes 4)).flatten ++
        List.replicate (scale / digPerDec1 * 4 + dig2bytes (scale % digPerDec1) - 4 * fraction.length) 0 := by
  have padded : fraction ++ List.replicate (scale / digPerDec1 + 1 - fraction.length) 0 =
      (fraction ++ List.replicate (scale / digPerDec1 - fraction.length) 0) ++ [0] := by
    rw [List.append_assoc, ← List.replicate_succ', Nat.sub_add_comm fitsWords]
  have nonempty : fraction ++ List.replicate (scale / digPerDec1 + 1 - fraction.length) 0 ≠ [] := by
    rw [padded]; exact List.concat_ne_nil _ _
  have paddedSmall : ∀ word ∈ fraction ++ List.replicate (scale / digPerDec1 + 1 - fraction.length) 0,
      word < digBase := by
    intro word member
    rcases List.mem_append.mp member with front | zero
    · exact small word front
    · rw [List.eq_of_mem_replicate zero]; decide
  have groups : fracGroups scale = List.replicate
      ((fraction ++ List.replicate (scale / digPerDec1 + 1 - fraction.length) 0).length - 1)
        digPerDec1 ++ [scale % digPerDec1] := by
    rw [fracGroups, List.length_append, List.length_replicate]
    congr 2
    omega
  have front : (fraction ++ List.replicate (scale / digPerDec1 + 1 - fraction.length) 0).dropLast =
      fraction ++ List.replicate (scale / digPerDec1 - fraction.length) 0 := by
    rw [padded, List.dropLast_concat]
  have last : (fraction ++ List.replicate (scale / digPerDec1 + 1 - fraction.length) 0).getLast
      nonempty = 0 := by
    simp only [padded, List.getLast_concat]
  rw [groups, groupBytes_fracGroups _ _ (Nat.mod_lt _ (by decide)) paddedSmall nonempty, front,
    last, Nat.zero_div, List.map_append, List.map_replicate, List.flatten_append,
    Positional.bytes_of_zero, Positional.bytes_of_zero, List.flatten_replicate_replicate,
    List.append_assoc, List.replicate_append_replicate]
  congr 2
  omega

/-- A fraction that reaches into the format's last group: the whole words, then the leading
digits of the last word. -/
theorem groupBytes_fracGroups_last (fraction : List ℕ) (scale : ℕ)
    (small : ∀ word ∈ fraction, word < digBase)
    (lengthEq : fraction.length = scale / digPerDec1 + 1) (nonempty : fraction ≠ []) :
    groupBytes (fracGroups scale) (Positional.value digBase
        (fraction ++ List.replicate (scale / digPerDec1 + 1 - fraction.length) 0) /
          10 ^ (digPerDec1 - scale % digPerDec1)) =
      (fraction.dropLast.map (Positional.bytes 4)).flatten ++
        Positional.bytes (dig2bytes (scale % digPerDec1))
          (fraction.getLast nonempty / 10 ^ (digPerDec1 - scale % digPerDec1)) := by
  have lastIndex : scale / digPerDec1 = fraction.length - 1 := by rw [lengthEq, Nat.add_sub_cancel]
  rw [lengthEq, Nat.sub_self, List.replicate_zero, List.append_nil, fracGroups, lastIndex,
    groupBytes_fracGroups _ _ (Nat.mod_lt _ (by decide)) small nonempty]

/-! ### Signs and the first bit -/

theorem xor_0x80_of_lt {byte : ℕ} (low : byte < 128) : byte ^^^ 0x80 = byte + 128 := by
  have table : ∀ byte < 128, byte ^^^ 0x80 = byte + 128 := by decide
  exact table byte low

theorem xor_0x80_of_ge {byte : ℕ} (high : 128 ≤ byte) (small : byte < 256) :
    byte ^^^ 0x80 = byte - 128 := by
  obtain ⟨low, rfl⟩ : ∃ low, byte = low + 128 := ⟨byte - 128, by omega⟩
  rw [← xor_0x80_of_lt (show low < 128 by omega), Nat.xor_assoc, Nat.xor_self, Nat.xor_zero,
    xor_0x80_of_lt (show low < 128 by omega), Nat.add_sub_cancel]

/-- Inverting the first bit of two strings whose first bytes lie in the same half keeps
their order. -/
theorem compare_flipFirst (x y : ℕ) (xs ys : List ℕ)
    (sameHalf : (x < 128 ∧ y < 128) ∨ (128 ≤ x ∧ x < 256 ∧ 128 ≤ y ∧ y < 256)) :
    compare (flipFirst (x :: xs)) (flipFirst (y :: ys)) = compare (x :: xs) (y :: ys) := by
  rw [flipFirst, flipFirst, List.compare_cons_cons, List.compare_cons_cons]
  congr 1
  rcases sameHalf with ⟨lowX, lowY⟩ | ⟨highX, smallX, highY, smallY⟩
  · rw [xor_0x80_of_lt lowX, xor_0x80_of_lt lowY]
    rcases lt_trichotomy x y with less | same | greater
    · rw [Nat.compare_eq_lt.mpr less, Nat.compare_eq_lt.mpr (by omega)]
    · rw [same, Nat.compare_eq_eq.mpr rfl, Nat.compare_eq_eq.mpr rfl]
    · rw [Nat.compare_eq_gt.mpr greater, Nat.compare_eq_gt.mpr (by omega)]
  · rw [xor_0x80_of_ge highX smallX, xor_0x80_of_ge highY smallY]
    rcases lt_trichotomy x y with less | same | greater
    · rw [Nat.compare_eq_lt.mpr less, Nat.compare_eq_lt.mpr (by omega)]
    · rw [same, Nat.compare_eq_eq.mpr rfl, Nat.compare_eq_eq.mpr rfl]
    · rw [Nat.compare_eq_gt.mpr greater, Nat.compare_eq_gt.mpr (by omega)]

theorem dig2bytes_eq_zero {count : ℕ} (short : count ≤ digPerDec1) (none : dig2bytes count = 0) :
    count = 0 := by
  unfold digPerDec1 at short
  interval_cases count <;> simp_all [dig2bytes]

/-- A format that writes no bytes holds only zero. -/
theorem eq_zero_of_groupBytes_eq_nil (counts : List ℕ)
    (short : ∀ count ∈ counts, count ≤ digPerDec1) (n : ℕ) (small : n < 10 ^ counts.sum)
    (empty : groupBytes counts n = []) : n = 0 := by
  have widths := congrArg List.length empty
  rw [length_groupBytes, List.length_nil, List.sum_eq_zero_iff] at widths
  have noDigits : counts.sum = 0 := List.sum_eq_zero fun count member =>
    dig2bytes_eq_zero (short count member) (widths _ (List.mem_map_of_mem member))
  rw [noDigits, Nat.pow_zero, Nat.lt_one_iff] at small
  exact small

theorem compare_natCast (n m : ℕ) : compare (n : ℤ) (m : ℤ) = compare n m := by
  rcases lt_trichotomy n m with less | same | greater
  · rw [Nat.compare_eq_lt.mpr less, compare_lt_iff_lt]
    exact_mod_cast less
  · rw [same, Nat.compare_eq_eq.mpr rfl, compare_eq_iff_eq]
  · rw [Nat.compare_eq_gt.mpr greater, compare_gt_iff_gt]
    exact_mod_cast greater

theorem map_maskByte_false (bytes : List ℕ) : bytes.map (maskByte false) = bytes := by
  rw [show maskByte false = id from funext fun _ => rfl, List.map_id]

theorem map_maskByte_true (bytes : List ℕ) : bytes.map (maskByte true) = bytes.map (255 - ·) :=
  rfl

/-- `memcmp` on the strings of two numbers of one format is the order of the signed numbers,
as long as a negative number is not zero. -/
theorem compare_binImage (counts : List ℕ) (short : ∀ count ∈ counts, count ≤ digPerDec1)
    (negative negative' : Bool) (n m : ℕ) (smallN : n < 10 ^ counts.sum)
    (smallM : m < 10 ^ counts.sum) (nonzeroN : negative = true → n ≠ 0)
    (nonzeroM : negative' = true → m ≠ 0) :
    compare (binImage counts negative n) (binImage counts negative' m) =
      compare (signed negative n) (signed negative' m) := by
  have sameLength : (groupBytes counts n).length = (groupBytes counts m).length := by
    rw [length_groupBytes, length_groupBytes]
  have headN := head_groupBytes_lt counts short n smallN
  have headM := head_groupBytes_lt counts short m smallM
  have orderN := compare_groupBytes counts short n m smallN smallM
  have bytesN : ∀ byte ∈ groupBytes counts n, byte < 256 := fun _ => byte_lt_of_mem_groupBytes
  have bytesM : ∀ byte ∈ groupBytes counts m, byte < 256 := fun _ => byte_lt_of_mem_groupBytes
  unfold binImage
  cases bytesOfN : groupBytes counts n with
  | nil =>
    -- no bytes: both numbers are zero, and so neither is negative
    have emptyM : groupBytes counts m = [] := by
      rw [bytesOfN, List.length_nil] at sameLength
      exact List.eq_nil_of_length_eq_zero sameLength.symm
    have zeroN := eq_zero_of_groupBytes_eq_nil counts short n smallN bytesOfN
    have zeroM := eq_zero_of_groupBytes_eq_nil counts short m smallM emptyM
    have positiveN : negative = false := by
      cases negative
      · rfl
      · exact absurd zeroN (nonzeroN rfl)
    have positiveM : negative' = false := by
      cases negative'
      · rfl
      · exact absurd zeroM (nonzeroM rfl)
    rw [emptyM, zeroN, zeroM, positiveN, positiveM]
    rfl
  | cons x xs =>
    cases bytesOfM : groupBytes counts m with
    | nil => rw [bytesOfN, bytesOfM] at sameLength; exact absurd sameLength (by simp)
    | cons y ys =>
      rw [bytesOfN] at headN orderN bytesN sameLength
      rw [bytesOfM] at headM orderN bytesM sameLength
      have lowX : x < 128 := headN x rfl
      have lowY : y < 128 := headM y rfl
      cases negative <;> cases negative'
      case false.false =>
        rw [map_maskByte_false, map_maskByte_false, compare_flipFirst x y xs ys (.inl ⟨lowX, lowY⟩),
          orderN, signed, signed, if_neg (by decide), if_neg (by decide)]
        exact (compare_natCast n m).symm
      case true.true =>
        rw [map_maskByte_true, map_maskByte_true, List.map_cons, List.map_cons,
          compare_flipFirst _ _ _ _ (.inr ⟨by omega, by omega, by omega, by omega⟩),
          ← List.map_cons, ← List.map_cons,
          Positional.compare_map_complement _ _ sameLength bytesN bytesM,
          Std.OrientedOrd.eq_swap, orderN, signed, signed, if_pos rfl, if_pos rfl]
        rcases lt_trichotomy n m with less | same | greater
        · rw [Nat.compare_eq_lt.mpr less, compare_gt_iff_gt.mpr (by omega)]
          rfl
        · rw [same, Nat.compare_eq_eq.mpr rfl, compare_eq_iff_eq.mpr rfl]
          rfl
        · rw [Nat.compare_eq_gt.mpr greater, compare_lt_iff_lt.mpr (by omega)]
          rfl
      case true.false =>
        -- the negative string starts below `0x80` once its first bit is inverted
        have positive := Nat.pos_of_ne_zero (nonzeroN rfl)
        rw [map_maskByte_true, map_maskByte_false, List.map_cons, flipFirst, flipFirst,
          List.compare_cons_cons, xor_0x80_of_ge (by omega) (by omega), xor_0x80_of_lt lowY,
          Nat.compare_eq_lt.mpr (by omega), Ordering.lt_then, signed, signed, if_pos rfl,
          if_neg (by decide)]
        exact (compare_lt_iff_lt.mpr (by omega)).symm
      case false.true =>
        have positive := Nat.pos_of_ne_zero (nonzeroM rfl)
        rw [map_maskByte_false, map_maskByte_true, List.map_cons, flipFirst, flipFirst,
          List.compare_cons_cons, xor_0x80_of_lt lowX, xor_0x80_of_ge (by omega) (by omega),
          Nat.compare_eq_gt.mpr (by omega), Ordering.gt_then, signed, signed, if_neg (by decide),
          if_pos rfl]
        exact (compare_gt_iff_gt.mpr (by omega)).symm

theorem length_flipFirst (bytes : List ℕ) : (flipFirst bytes).length = bytes.length := by
  cases bytes with
  | nil => rfl
  | cons byte rest => rfl

theorem length_binImage (counts : List ℕ) (negative : Bool) (n : ℕ) :
    (binImage counts negative n).length = (counts.map dig2bytes).sum := by
  rw [binImage, length_flipFirst, List.length_map, length_groupBytes]

/-- Two signed magnitudes that are equal have the same image. -/
theorem binImage_eq_of_signed_eq (counts : List ℕ) {negative negative' : Bool} {n m : ℕ}
    (nonzeroN : negative = true → n ≠ 0) (nonzeroM : negative' = true → m ≠ 0)
    (same : signed negative n = signed negative' m) :
    binImage counts negative n = binImage counts negative' m := by
  cases negative <;> cases negative' <;> simp only [signed, if_pos, if_neg, Bool.false_eq_true,
    not_false_eq_true, neg_inj, Nat.cast_inj] at same
  · rw [same]
  · have := nonzeroM rfl; omega
  · have := nonzeroN rfl; omega
  · rw [same]

end MariaDB.Decimal
