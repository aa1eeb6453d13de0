/-
The `LIKE` matchers of the binary and the 8-bit collations.

`my_wildcmp_bin_impl` (strings/ctype-bin.c) and `my_wildcmp_8bit_impl`
(strings/ctype-simple.c) are one loop that differs only in `likeconv`, the weight a
character is compared by: the byte itself, or its entry in the collation's `sort_order`.
The subject and the pattern are `char` strings and the escape and the two wildcards are
`int`s. The loop walks the pattern: literals are compared with the subject one by one, each
`w_one` takes one character, and after a `w_many` the subject is searched for the next
literal of the pattern, each hit tried by a recursive call on the rest of the pattern. The
answer is `0` for a match, `1` for none, and `-1` for none at any later start either, which
ends the search of the caller.

Against the `LIKE` language of `Wildcard.likeTokens` the loop is right for every escape
whose `char` is not negative (`wildcmpImpl_verdict`). The model has stack enough: the exit
through `my_string_stack_guard(recurse_level)`, which answers `1` when the thread stack runs
low, is left out, and so is the `recurse_level` it reads. After a `w_many` it reads the next
pattern character into a `uchar` and compares that with the `int` escape, while
`Item_func_like` passes an 8-bit escape as a sign-extended `char`: an escape byte from
`0x80` on is not recognised there.
-/

import MariaDB.Library.Wildcard

namespace MariaDB.Strings

open Wildcard

/-! ### The matcher -/

/-- `likeconv(cs, A)` of ctype-simple.c: the weight of a `char`, its byte looked up in the
collation's `sort_order`. The binary collation's `likeconv` is the identity. -/
def likeconv (sortOrder : UInt8 → UInt8) (c : Int8) : UInt8 := sortOrder c.toUInt8

/-- One round of the literal loop: the pattern character `literal` against the next subject
character, `proceed` going on with the subject after it. -/
def wildcmpLiteral (sortOrder : UInt8 → UInt8) (literal : Int8) (proceed : List Int8 → ℤ) :
    List Int8 → ℤ
  | [] => 1
  | c :: str => if likeconv sortOrder literal ≠ likeconv sortOrder c then 1 else proceed str

/-- The search after a `w_many`: skip to the next subject character of weight `cmp`, try
the rest of the pattern after it (`matchRest`, the recursive call), and go on from there
while that answers `1`. -/
def wildSearch (sortOrder : UInt8 → UInt8) (cmp : UInt8) (matchRest : List Int8 → ℤ) :
    List Int8 → ℤ
  | [] => -1
  | c :: str =>
    if likeconv sortOrder c ≠ cmp then wildSearch sortOrder cmp matchRest str
    else
      let tmp := matchRest str
      -- the loop's exit test at `str_end` answers `-1`, as the search of an empty subject does
      if tmp ≤ 0 then tmp else wildSearch sortOrder cmp matchRest str

mutual

/-- The loop of `my_wildcmp_8bit_impl` from the pattern `wild` and the subject `str` on,
with its variable `result`. -/
def wildcmpImpl (sortOrder : UInt8 → UInt8) (escape wOne wMany : ℤ) :
    ℤ → List Int8 → List Int8 → ℤ
  | _, str, [] => if str ≠ [] then 1 else 0
  | result, str, w :: wild =>
    if w.toInt = wOne then
      match str with
      | [] => result
      | _ :: str => wildcmpImpl sortOrder escape wOne wMany result str wild
    else if w.toInt = wMany then
      wildcmpMany sortOrder escape wOne wMany str wild
    else
      -- `if (*wildstr == escape && wildstr+1 != wildend) wildstr++;` compares a `char`
      match wild with
      | d :: rest =>
        if w.toInt = escape then
          wildcmpLiteral sortOrder d (wildcmpImpl sortOrder escape wOne wMany 1 · rest) str
        else
          wildcmpLiteral sortOrder w (wildcmpImpl sortOrder escape wOne wMany 1 · (d :: rest)) str
      | [] => wildcmpLiteral sortOrder w (wildcmpImpl sortOrder escape wOne wMany 1 · []) str

/-- The `w_many` branch of `my_wildcmp_8bit_impl`, after the `w_many`: further `w_many` are
dropped and each `w_one` takes a subject character; the next pattern character is then
searched for. -/
def wildcmpMany (sortOrder : UInt8 → UInt8) (escape wOne wMany : ℤ) :
    List Int8 → List Int8 → ℤ
  | _, [] => 0
  | str, w :: wild =>
    if w.toInt = wMany then wildcmpMany sortOrder escape wOne wMany str wild
    else if w.toInt = wOne then
      match str with
      | [] => -1
      | _ :: str => wildcmpMany sortOrder escape wOne wMany str wild
    else if str = [] then -1
    else
      -- `if ((cmp= *wildstr) == escape && wildstr+1 != wildend)` compares a `uchar`
      match wild with
      | d :: rest =>
        if (w.toUInt8.toNat : ℤ) = escape then
          wildSearch sortOrder (sortOrder d.toUInt8)
            (wildcmpImpl sortOrder escape wOne wMany (-1) · rest) str
        else
          wildSearch sortOrder (sortOrder w.toUInt8)
            (wildcmpImpl sortOrder escape wOne wMany (-1) · (d :: rest)) str
      | [] =>
        wildSearch sortOrder (sortOrder w.toUInt8) (wildcmpImpl sortOrder escape wOne wMany (-1) · []) str

end

section Unfold

variable {sortOrder : UInt8 → UInt8} {escape wOne wMany result : ℤ} {str : List Int8} {w : Int8}
  {wild : List Int8}

theorem wildcmpImpl_cons :
    wildcmpImpl sortOrder escape wOne wMany result str (w :: wild) =
      if w.toInt = wOne then
        match str with
        | [] => result
        | _ :: str => wildcmpImpl sortOrder escape wOne wMany result str wild
      else if w.toInt = wMany then
        wildcmpMany sortOrder escape wOne wMany str wild
      else
        match wild with
        | d :: rest =>
          if w.toInt = escape then
            wildcmpLiteral sortOrder d (wildcmpImpl sortOrder escape wOne wMany 1 · rest) str
          else
            wildcmpLiteral sortOrder w (wildcmpImpl sortOrder escape wOne wMany 1 · (d :: rest)) str
        | [] => wildcmpLiteral sortOrder w (wildcmpImpl sortOrder escape wOne wMany 1 · []) str := by
  rw [wildcmpImpl.eq_def]

theorem wildcmpMany_cons :
    wildcmpMany sortOrder escape wOne wMany str (w :: wild) =
      if w.toInt = wMany then wildcmpMany sortOrder escape wOne wMany str wild
      else if w.toInt = wOne then
        match str with
        | [] => -1
        | _ :: str => wildcmpMany sortOrder escape wOne wMany str wild
      else if str = [] then -1
      else
        match wild with
        | d :: rest =>
          if (w.toUInt8.toNat : ℤ) = escape then
            wildSearch sortOrder (sortOrder d.toUInt8)
              (wildcmpImpl sortOrder escape wOne wMany (-1) · rest) str
          else
            wildSearch sortOrder (sortOrder w.toUInt8)
              (wildcmpImpl sortOrder escape wOne wMany (-1) · (d :: rest)) str
        | [] =>
          wildSearch sortOrder (sortOrder w.toUInt8)
            (wildcmpImpl sortOrder escape wOne wMany (-1) · []) str := by
  rw [wildcmpMany.eq_def]

end Unfold

/-- `my_wildcmp_8bit_impl` for a collation of sort order `sortOrder`, at its first level. -/
def myWildcmp8bitImpl (sortOrder : UInt8 → UInt8) (str wild : List Int8)
    (escape wOne wMany : ℤ) : ℤ :=
  wildcmpImpl sortOrder escape wOne wMany (-1) str wild

/-- `my_wildcmp_bin_impl` at its first level: the 8-bit loop with the bytes as weights. -/
def myWildcmpBinImpl (str wild : List Int8) (escape wOne wMany : ℤ) : ℤ :=
  wildcmpImpl id escape wOne wMany (-1) str wild

/-- The escape `Item_func_like::fix_escape_item` passes for an 8-bit character set when the
escape string needs no conversion: the `char` at `escape_str_ptr`, sign-extended to `int`,
or `'\\'` for a null pointer. -/
def fixEscapeItem8bit (escapeStrPtr : Option Int8) : ℤ :=
  match escapeStrPtr with
  | some ch => ch.toInt
  | none => 92

/-- `Item_func_like::val_int` on the answer of the collation's `wildcmp`. -/
def itemFuncLikeValInt (negated : Bool) (answer : ℤ) : Bool :=
  if answer ≠ 0 then negated else !negated

/-! ### Characters read as `char` and as `uchar` -/

/-- A `char` is its byte, less `256` from `0x80` on. -/
theorem toInt_eq_byte (w : Int8) :
    w.toInt = if w.toUInt8.toNat < 128 then (w.toUInt8.toNat : ℤ) else w.toUInt8.toNat - 256 := by
  rw [← Int8.toInt_toBitVec, BitVec.toInt_eq_toNat_cond]
  have byte : w.toUInt8.toNat = w.toBitVec.toNat := rfl
  rw [byte]
  split_ifs <;> first | rfl | omega

/-- For an escape that is not negative, the `uchar` test after a `w_many` is the `char`
test of the literal loop. -/
theorem uchar_eq_escape_iff {w escape : Int8} (nonneg : 0 ≤ escape.toInt) :
    (w.toUInt8.toNat : ℤ) = escape.toInt ↔ w = escape := by
  rw [← Int8.toInt_inj, toInt_eq_byte w]
  have := escape.toInt_lt
  have := w.toUInt8.toNat_lt
  split_ifs <;> omega

/-! ### Verdicts of the matcher -/

section Verdicts

variable {sortOrder : UInt8 → UInt8}

/-- A literal round gives the literal in front of a pattern the verdict its continuation
gives the rest. -/
theorem wildcmpLiteral_verdict {c : Int8} {tokens : List (Token Int8)}
    {proceed : List Int8 → ℤ} (rest : ∀ str, Verdict (likeconv sortOrder) tokens str (proceed str))
    (str : List Int8) :
    Verdict (likeconv sortOrder) (.literal c :: tokens) str (wildcmpLiteral sortOrder c proceed str) := by
  cases str with
  | nil => exact verdict_one_of_not_matches not_matches_literal_nil
  | cons x str =>
    rw [wildcmpLiteral]
    split_ifs with differ
    · exact verdict_one_of_not_matches (by simp [differ])
    · exact (rest str).literal (not_not.mp differ)

/-- The search after a `w_many` gives the pattern `w_many`, literal, rest the verdict of a
`many`, when each call on the rest gives the rest its verdict. -/
theorem wildSearch_verdict {d : Int8} {tokens : List (Token Int8)} {matchRest : List Int8 → ℤ}
    (rest : ∀ str, Verdict (likeconv sortOrder) tokens str (matchRest str)) (str : List Int8) :
    Verdict (likeconv sortOrder) (.many :: .literal d :: tokens) str
      (wildSearch sortOrder (likeconv sortOrder d) matchRest str) := by
  induction str with
  | nil => exact verdict_nil_of_not_matches (by simp [matches_many_nil]) (.inl rfl)
  | cons x str further =>
    by_cases differ : likeconv sortOrder x ≠ likeconv sortOrder d
    · rw [wildSearch, if_pos differ]
      exact further.many_skip (by simp [Ne.symm differ])
    have same : likeconv sortOrder d = likeconv sortOrder x := (not_not.mp differ).symm
    by_cases nonpos : matchRest str ≤ 0
    · rw [wildSearch, if_neg differ, if_pos nonpos]
      exact ((rest str).literal same).many_here nonpos
    · rw [wildSearch, if_neg differ, if_neg nonpos]
      have unmatched : ¬ Matches (likeconv sortOrder) tokens str := by
        rw [← (rest str).zero_iff]
        omega
      exact further.many_skip (by simp [unmatched])

/-! ### The loop decides the `LIKE` language -/

/-- What the loop promises at a pattern: from either start of `result`, the verdict of the
pattern's `LIKE` tokens. -/
def ImplVerdict (sortOrder : UInt8 → UInt8) (escape one many : Int8) (wild : List Int8) : Prop :=
  ∀ result str, (result = -1 ∨ result = 1) →
    Verdict (likeconv sortOrder) (likeTokens escape one many wild) str
      (wildcmpImpl sortOrder escape.toInt one.toInt many.toInt result str wild)

/-- What the `w_many` branch promises at the pattern after the `w_many`: the verdict of a
`many` in front of the pattern's tokens. -/
def ManyVerdict (sortOrder : UInt8 → UInt8) (escape one many : Int8) (wild : List Int8) : Prop :=
  ∀ str, Verdict (likeconv sortOrder) (.many :: likeTokens escape one many wild) str
    (wildcmpMany sortOrder escape.toInt one.toInt many.toInt str wild)

variable {escape one many : Int8}

theorem implVerdict_nil : ImplVerdict sortOrder escape one many [] := by
  intro result str _
  rw [wildcmpImpl]
  exact verdict_nil str

theorem manyVerdict_nil : ManyVerdict sortOrder escape one many [] := by
  intro str
  rw [wildcmpMany]
  exact verdict_zero_of_matches ⟨[], List.nil_suffix, rfl⟩

/-- One pattern character more for the loop, given the promises at the shorter patterns. -/
theorem implVerdict_cons (w : Int8) (wild : List Int8)
    (shorter : ∀ rest, rest.length ≤ wild.length → ImplVerdict sortOrder escape one many rest)
    (afterMany : ManyVerdict sortOrder escape one many wild) :
    ImplVerdict sortOrder escape one many (w :: wild) := by
  intro result str answer
  by_cases isOne : w = one
  · rw [wildcmpImpl_cons, if_pos (congrArg Int8.toInt isOne), likeTokens_one isOne]
    cases str with
    | nil => exact verdict_nil_of_not_matches not_matches_one_nil answer
    | cons x str => exact (shorter wild le_rfl result str answer).one
  have notOne : w.toInt ≠ one.toInt := fun same => isOne (Int8.toInt_inj.mp same)
  by_cases isMany : w = many
  · rw [wildcmpImpl_cons, if_neg notOne, if_pos (congrArg Int8.toInt isMany),
      likeTokens_many isOne isMany]
    exact afterMany str
  have notMany : w.toInt ≠ many.toInt := fun same => isMany (Int8.toInt_inj.mp same)
  rw [wildcmpImpl_cons, if_neg notOne, if_neg notMany]
  -- a literal, the next character when `w` is the escape
  cases wild with
  | nil =>
    rw [likeTokens_last isOne isMany]
    exact wildcmpLiteral_verdict (fun str => shorter [] le_rfl 1 str (.inr rfl)) str
  | cons d rest =>
    dsimp only
    by_cases isEscape : w = escape
    · rw [if_pos (congrArg Int8.toInt isEscape), likeTokens_escape isOne isMany isEscape]
      exact wildcmpLiteral_verdict (fun str => shorter rest (by simp) 1 str (.inr rfl)) str
    · rw [if_neg (fun same => isEscape (Int8.toInt_inj.mp same)),
        likeTokens_literal isOne isMany isEscape]
      exact wildcmpLiteral_verdict (fun str => shorter (d :: rest) le_rfl 1 str (.inr rfl)) str

/-- The search of an empty subject answers `-1`, as the check before it does. -/
theorem ite_nil_wildSearch {cmp : UInt8} {matchRest : List Int8 → ℤ} (str : List Int8) :
    (if str = [] then -1 else wildSearch sortOrder cmp matchRest str) =
      wildSearch sortOrder cmp matchRest str := by
  cases str <;> simp [wildSearch]

/-- One pattern character more for the `w_many` branch, given the promises at the shorter
patterns. -/
theorem manyVerdict_cons (nonneg : 0 ≤ escape.toInt) (distinct : one ≠ many) (w : Int8)
    (wild : List Int8)
    (shorter : ∀ rest, rest.length ≤ wild.length → ImplVerdict sortOrder escape one many rest)
    (further : ManyVerdict sortOrder escape one many wild) :
    ManyVerdict sortOrder escape one many (w :: wild) := by
  intro str
  by_cases isMany : w = many
  · have isNotOne : w ≠ one := fun same => distinct (same.symm.trans isMany)
    rw [wildcmpMany_cons, if_pos (congrArg Int8.toInt isMany), likeTokens_many isNotOne isMany]
    exact (further str).congr (fun _ => matches_many_many.symm)
  have notMany : w.toInt ≠ many.toInt := fun same => isMany (Int8.toInt_inj.mp same)
  by_cases isOne : w = one
  · rw [wildcmpMany_cons, if_neg notMany, if_pos (congrArg Int8.toInt isOne),
      likeTokens_one isOne]
    cases str with
    | nil => exact verdict_nil_of_not_matches (by simp [matches_many_nil]) (.inl rfl)
    | cons x str => exact (further str).one.congr (fun _ => matches_many_one.symm)
  have notOne : w.toInt ≠ one.toInt := fun same => isOne (Int8.toInt_inj.mp same)
  rw [wildcmpMany_cons, if_neg notMany, if_neg notOne]
  -- the literal searched for, the next character when `w` is the escape
  cases wild with
  | nil =>
    rw [likeTokens_last isOne isMany]
    dsimp only
    rw [ite_nil_wildSearch]
    exact wildSearch_verdict (fun str => shorter [] le_rfl (-1) str (.inl rfl)) str
  | cons d rest =>
    dsimp only
    by_cases isEscape : w = escape
    · rw [if_pos ((uchar_eq_escape_iff nonneg).mpr isEscape),
        likeTokens_escape isOne isMany isEscape, ite_nil_wildSearch]
      exact wildSearch_verdict (fun str => shorter rest (by simp) (-1) str (.inl rfl)) str
    · rw [if_neg (fun same => isEscape ((uchar_eq_escape_iff nonneg).mp same)),
        likeTokens_literal isOne isMany isEscape, ite_nil_wildSearch]
      exact wildSearch_verdict (fun str => shorter (d :: rest) le_rfl (-1) str (.inl rfl)) str

/-- For an escape whose `char` is not negative and two distinct wildcards, the loop and its
`w_many` branch keep their promises at every pattern. The induction is on the length of the
pattern, since an escape takes two characters. -/
theorem wildcmpImpl_verdict (nonneg : 0 ≤ escape.toInt) (distinct : one ≠ many)
    (wild : List Int8) :
    ImplVerdict sortOrder escape one many wild ∧ ManyVerdict sortOrder escape one many wild := by
  suffices bounded : ∀ n (wild : List Int8), wild.length ≤ n →
      ImplVerdict sortOrder escape one many wild ∧ ManyVerdict sortOrder escape one many wild from
    bounded _ wild le_rfl
  intro n
  induction n with
  | zero =>
    intro wild empty
    rw [List.length_eq_zero_iff.mp (Nat.le_zero.mp empty)]
    exact ⟨implVerdict_nil, manyVerdict_nil⟩
  | succ n ih =>
    intro wild bound
    cases wild with
    | nil => exact ⟨implVerdict_nil, manyVerdict_nil⟩
    | cons w wild =>
      have short : wild.length ≤ n := by simpa using bound
      have shorter : ∀ rest, rest.length ≤ wild.length →
          ImplVerdict sortOrder escape one many rest :=
        fun rest le => (ih rest (le.trans short)).1
      exact ⟨implVerdict_cons w wild shorter (ih wild short).2,
        manyVerdict_cons nonneg distinct w wild shorter (ih wild short).2⟩

end Verdicts

/-! ### `LIKE` in the binary and 8-bit collations -/

/-- For an escape whose `char` is not negative and two distinct wildcards,
`my_wildcmp_8bit_impl` answers `0` exactly for the strings of the pattern's `LIKE` language. -/
theorem myWildcmp8bitImpl_eq_zero_iff (sortOrder : UInt8 → UInt8) {escape one many : Int8}
    (nonneg : 0 ≤ escape.toInt) (distinct : one ≠ many) (str wild : List Int8) :
    myWildcmp8bitImpl sortOrder str wild escape.toInt one.toInt many.toInt = 0 ↔
      Matches (likeconv sortOrder) (likeTokens escape one many wild) str :=
  ((wildcmpImpl_verdict nonneg distinct wild).1 (-1) str (.inl rfl)).zero_iff

/-- The `LIKE` matchers of the 8-bit collations, whatever their sort order, and of the binary
collation, whose weights are the bytes: for an escape whose `char` is not negative and two
distinct wildcards, they answer `0` exactly for the strings of the pattern's `LIKE`
language. -/
theorem like_matchers_eq_zero_iff (sortOrder : UInt8 → UInt8) {escape one many : Int8}
    (nonneg : 0 ≤ escape.toInt) (distinct : one ≠ many) (str wild : List Int8) :
    (myWildcmp8bitImpl sortOrder str wild escape.toInt one.toInt many.toInt = 0 ↔
        Matches (likeconv sortOrder) (likeTokens escape one many wild) str) ∧
      (myWildcmpBinImpl str wild escape.toInt one.toInt many.toInt = 0 ↔
        Matches (likeconv id) (likeTokens escape one many wild) str) :=
  ⟨myWildcmp8bitImpl_eq_zero_iff sortOrder nonneg distinct str wild,
    myWildcmp8bitImpl_eq_zero_iff id nonneg distinct str wild⟩

/-- `'ab' LIKE '%b'` with the escape `'\\'`, in the binary collation and in one that sorts
the letters of both cases together. -/
theorem like_matchers_eq_zero_iff_suffix :
    (myWildcmp8bitImpl (fun c => if 0x61 ≤ c ∧ c ≤ 0x7A then c - 0x20 else c) [97, 98] [37, 66]
          (92 : Int8).toInt (95 : Int8).toInt (37 : Int8).toInt = 0 ↔
        Matches (likeconv fun c => if 0x61 ≤ c ∧ c ≤ 0x7A then c - 0x20 else c)
          (likeTokens 92 95 37 [37, 66]) [97, 98]) ∧
      (myWildcmpBinImpl [97, 98] [37, 98] (92 : Int8).toInt (95 : Int8).toInt (37 : Int8).toInt = 0 ↔
        Matches (likeconv id) (likeTokens 92 95 37 [37, 98]) [97, 98]) :=
  ⟨(like_matchers_eq_zero_iff (fun c => if 0x61 ≤ c ∧ c ≤ 0x7A then c - 0x20 else c)
      (by decide) (by decide) [97, 98] [37, 66]).1,
    (like_matchers_eq_zero_iff id (by decide) (by decide) [97, 98] [37, 98]).2⟩

/-- `'a_' LIKE '%§_' ESCAPE '§'` in a binary collation, `§` being the byte `0xA7`: the
subject is in the pattern's language, the `_` after the escape being a literal, but
`Item_func_like` passes the escape as the `int` `-89`, the `w_many` branch compares it with
the `uchar` `167`, searches the subject for `§` and answers `-1`, and the `LIKE` is false. -/
theorem like_high_escape_after_many :
    Matches (likeconv id) (likeTokens (-89) 95 37 [37, -89, 95]) [97, 95] ∧
      fixEscapeItem8bit (some (-89)) = -89 ∧
      myWildcmpBinImpl [97, 95] [37, -89, 95] (fixEscapeItem8bit (some (-89))) 95 37 = -1 ∧
      itemFuncLikeValInt false
        (myWildcmpBinImpl [97, 95] [37, -89, 95] (fixEscapeItem8bit (some (-89))) 95 37) = false := by
  have tokens : likeTokens (-89 : Int8) 95 37 [37, -89, 95] = [.many, .literal 95] := by decide
  refine ⟨?_, rfl, by decide, by decide⟩
  rw [tokens]
  exact ⟨[95], List.suffix_cons 97 [95], by simp⟩

end MariaDB.Strings
