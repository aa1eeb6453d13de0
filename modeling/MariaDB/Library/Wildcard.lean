/-
Wildcard patterns, as SQL's `LIKE` reads them.

A pattern is a list of tokens: a literal matches one character of the same key (the key
being the collation's weight), `one` matches any single character and `many` any run of
characters, the empty run included. A string matches a pattern when it splits into pieces
that match the tokens in order; a `many` followed by a pattern therefore matches a string
exactly when some suffix of the string matches the pattern.

A backtracking matcher answers with three values: `0` for a match, `1` for no match, and
`-1` for no match at any suffix either, which lets the search for the end of a `many` stop
early. `Verdict` states that contract, and the lemmas below say how a verdict for the rest
of a pattern gives one for the pattern with a token in front, which is all a matcher's
proof needs.
-/

import Mathlib.Data.List.Infix

namespace Wildcard

/-- One token of a wildcard pattern. -/
inductive Token (α : Type*) where
  /-- A character that matches one character of the same key. -/
  | literal (c : α)
  /-- A wildcard that matches any one character. -/
  | one
  /-- A wildcard that matches any run of characters. -/
  | many
  deriving DecidableEq, Repr

variable {α κ : Type*}

/-- `str` matches `tokens` when characters are compared by `key`. -/
def Matches (key : α → κ) : List (Token α) → List α → Prop
  | [], str => str = []
  | .literal c :: tokens, str =>
    ∃ x rest, str = x :: rest ∧ key c = key x ∧ Matches key tokens rest
  | .one :: tokens, str => ∃ x rest, str = x :: rest ∧ Matches key tokens rest
  | .many :: tokens, str => ∃ rest, rest <:+ str ∧ Matches key tokens rest

/-- The tokens of a `LIKE` pattern with the wildcards `one` and `many` and the escape
character `escape`: an escape followed by a character makes that character a literal, and
an escape at the end is a literal itself. The wildcards are read before the escape. -/
def likeTokens [DecidableEq α] (escape one many : α) : List α → List (Token α)
  | [] => []
  | c :: pattern =>
    if c = one then .one :: likeTokens escape one many pattern
    else if c = many then .many :: likeTokens escape one many pattern
    else
      match pattern with
      | d :: rest =>
        if c = escape then .literal d :: likeTokens escape one many rest
        else .literal c :: likeTokens escape one many (d :: rest)
      | [] => [.literal c]

section Tokens

variable [DecidableEq α] {escape one many c d : α} {pattern : List α}

theorem likeTokens_one (isOne : c = one) :
    likeTokens escape one many (c :: pattern) = .one :: likeTokens escape one many pattern := by
  cases pattern <;> simp only [likeTokens, if_pos isOne]

theorem likeTokens_many (notOne : c ≠ one) (isMany : c = many) :
    likeTokens escape one many (c :: pattern) = .many :: likeTokens escape one many pattern := by
  cases pattern <;> simp only [likeTokens, if_neg notOne, if_pos isMany]

theorem likeTokens_last (notOne : c ≠ one) (notMany : c ≠ many) :
    likeTokens escape one many [c] = [.literal c] := by
  simp only [likeTokens, if_neg notOne, if_neg notMany]

theorem likeTokens_escape (notOne : c ≠ one) (notMany : c ≠ many) (isEscape : c = escape) :
    likeTokens escape one many (c :: d :: pattern) =
      .literal d :: likeTokens escape one many pattern := by
  simp only [likeTokens, if_neg notOne, if_neg notMany, if_pos isEscape]

theorem likeTokens_literal (notOne : c ≠ one) (notMany : c ≠ many) (notEscape : c ≠ escape) :
    likeTokens escape one many (c :: d :: pattern) =
      .literal c :: likeTokens escape one many (d :: pattern) := by
  simp only [likeTokens, if_neg notOne, if_neg notMany, if_neg notEscape]

end Tokens

/-! ### The language of a pattern -/

section Language

variable {key : α → κ}

@[simp] theorem matches_nil {str : List α} : Matches key [] str ↔ str = [] := Iff.rfl

@[simp] theorem matches_literal_cons {c x : α} {tokens : List (Token α)} {str : List α} :
    Matches key (.literal c :: tokens) (x :: str) ↔ key c = key x ∧ Matches key tokens str := by
  constructor
  · rintro ⟨y, rest, same, equal, matched⟩
    cases same
    exact ⟨equal, matched⟩
  · rintro ⟨equal, matched⟩
    exact ⟨x, str, rfl, equal, matched⟩

@[simp] theorem matches_one_cons {x : α} {tokens : List (Token α)} {str : List α} :
    Matches key (.one :: tokens) (x :: str) ↔ Matches key tokens str := by
  constructor
  · rintro ⟨y, rest, same, matched⟩
    cases same
    exact matched
  · intro matched
    exact ⟨x, str, rfl, matched⟩

@[simp] theorem not_matches_literal_nil {c : α} {tokens : List (Token α)} :
    ¬ Matches key (.literal c :: tokens) [] := by
  rintro ⟨_, _, empty, -⟩
  cases empty

@[simp] theorem not_matches_one_nil {tokens : List (Token α)} :
    ¬ Matches key (.one :: tokens) [] := by
  rintro ⟨_, _, empty, -⟩
  cases empty

theorem matches_many_nil {tokens : List (Token α)} :
    Matches key (.many :: tokens) [] ↔ Matches key tokens [] := by
  constructor
  · rintro ⟨rest, suffix, matched⟩
    rwa [List.suffix_nil.mp suffix] at matched
  · intro matched
    exact ⟨[], List.suffix_refl [], matched⟩

/-- A `many` either stops before the first character or takes it. -/
theorem matches_many_cons {x : α} {tokens : List (Token α)} {str : List α} :
    Matches key (.many :: tokens) (x :: str) ↔
      Matches key tokens (x :: str) ∨ Matches key (.many :: tokens) str := by
  constructor
  · rintro ⟨rest, suffix, matched⟩
    rcases List.suffix_cons_iff.mp suffix with rfl | inner
    · exact .inl matched
    · exact .inr ⟨rest, inner, matched⟩
  · rintro (matched | ⟨rest, inner, matched⟩)
    · exact ⟨x :: str, List.suffix_refl _, matched⟩
    · exact ⟨rest, inner.trans (List.suffix_cons x str), matched⟩

/-- A string that a `many`-pattern matches is matched by every string it is a suffix of. -/
theorem Matches.many_of_suffix {tokens : List (Token α)} {str str' : List α}
    (matched : Matches key (.many :: tokens) str) (suffix : str <:+ str') :
    Matches key (.many :: tokens) str' := by
  obtain ⟨rest, inner, matched⟩ := matched
  exact ⟨rest, inner.trans suffix, matched⟩

/-- Two `many` in a row match what one does. -/
theorem matches_many_many {tokens : List (Token α)} {str : List α} :
    Matches key (.many :: .many :: tokens) str ↔ Matches key (.many :: tokens) str := by
  constructor
  · rintro ⟨rest, suffix, matched⟩
    exact matched.many_of_suffix suffix
  · intro matched
    exact ⟨str, List.suffix_refl str, matched⟩

/-- A `many` before a `one` matches what the `one` before the `many` does. -/
theorem matches_many_one {tokens : List (Token α)} {str : List α} :
    Matches key (.many :: .one :: tokens) str ↔ Matches key (.one :: .many :: tokens) str := by
  induction str with
  | nil => simp [matches_many_nil]
  | cons x str ih =>
    rw [matches_many_cons, ih, matches_one_cons, matches_one_cons]
    cases str with
    | nil => simp [matches_many_nil]
    | cons y str => rw [matches_one_cons, matches_many_cons]

end Language

/-! ### Three-valued verdicts -/

/-- The contract of a three-valued matcher: its answer `r` is `0` exactly when `str` matches
`tokens`, is otherwise `1` or `-1`, and is `-1` only when no suffix of `str` matches. -/
structure Verdict (key : α → κ) (tokens : List (Token α)) (str : List α) (r : ℤ) : Prop where
  zero_iff : r = 0 ↔ Matches key tokens str
  hopeless : r = -1 → ∀ rest, rest <:+ str → ¬ Matches key tokens rest
  range : r = -1 ∨ r = 0 ∨ r = 1

/-- Dropping the first character of a suffix leaves a suffix of the tail. -/
theorem tail_suffix_of_cons_suffix {x y : α} {rest str : List α} (suffix : y :: rest <:+ x :: str) :
    rest <:+ str := by
  rcases List.suffix_cons_iff.mp suffix with same | inner
  · rw [(List.cons.inj same).2]
  · exact (List.suffix_cons y rest).trans inner

section Verdict

variable {key : α → κ} {tokens tokens' : List (Token α)} {str : List α} {r : ℤ}

/-- A verdict holds for every pattern of the same language. -/
theorem Verdict.congr (same : ∀ str, Matches key tokens str ↔ Matches key tokens' str)
    (verdict : Verdict key tokens str r) : Verdict key tokens' str r where
  zero_iff := verdict.zero_iff.trans (same str)
  hopeless := fun minus rest suffix => (same rest).not.mp (verdict.hopeless minus rest suffix)
  range := verdict.range

/-- An answer `1` is right for every string the pattern does not match. -/
theorem verdict_one_of_not_matches (unmatched : ¬ Matches key tokens str) :
    Verdict key tokens str 1 :=
  ⟨by simp [unmatched], by simp, by simp⟩

/-- An answer `0` is right for every string the pattern matches. -/
theorem verdict_zero_of_matches (matched : Matches key tokens str) : Verdict key tokens str 0 :=
  ⟨by simp [matched], by simp, by simp⟩

/-- The empty pattern: `0` at the end of the string, `1` before it. -/
theorem verdict_nil (str : List α) :
    Verdict key [] str (if str ≠ [] then 1 else 0) := by
  by_cases empty : str = []
  · subst empty
    exact ⟨by simp, by simp, by simp⟩
  · rw [if_pos empty]
    exact verdict_one_of_not_matches empty

/-- At the end of the string, both nonzero answers are right for a pattern that needs a
character. -/
theorem verdict_nil_of_not_matches (unmatched : ¬ Matches key tokens [])
    (answer : r = -1 ∨ r = 1) : Verdict key tokens [] r where
  zero_iff := by
    rcases answer with rfl | rfl <;> simp [unmatched]
  hopeless := by
    intro _ rest suffix
    rw [List.suffix_nil.mp suffix]
    exact unmatched
  range := by omega

/-- A first token that takes exactly one character passes on the verdict of the rest of the
pattern at the tail. -/
theorem Verdict.cons {token : Token α} {x : α}
    (takes : ∀ rest, Matches key (token :: tokens) (x :: rest) ↔ Matches key tokens rest)
    (takesOne : ∀ y rest, Matches key (token :: tokens) (y :: rest) → Matches key tokens rest)
    (notEmpty : ¬ Matches key (token :: tokens) [])
    (verdict : Verdict key tokens str r) : Verdict key (token :: tokens) (x :: str) r where
  zero_iff := verdict.zero_iff.trans (takes str).symm
  hopeless := by
    intro minus rest suffix matched
    cases rest with
    | nil => exact notEmpty matched
    | cons y rest =>
      exact verdict.hopeless minus rest (tail_suffix_of_cons_suffix suffix)
        (takesOne y rest matched)
  range := verdict.range

/-- A literal that agrees with the first character passes on the verdict of the rest. -/
theorem Verdict.literal {c x : α} (same : key c = key x) (verdict : Verdict key tokens str r) :
    Verdict key (.literal c :: tokens) (x :: str) r :=
  verdict.cons (fun _ => by simp [same]) (fun _ _ matched => (matches_literal_cons.mp matched).2)
    not_matches_literal_nil

/-- A `one` passes on the verdict of the rest. -/
theorem Verdict.one {x : α} (verdict : Verdict key tokens str r) :
    Verdict key (.one :: tokens) (x :: str) r :=
  verdict.cons (fun _ => matches_one_cons) (fun _ _ matched => matches_one_cons.mp matched)
    not_matches_one_nil

/-- A `many` that ends here: an answer `0` or `-1` for the rest of the pattern at the whole
string is the answer for the `many` in front of it. -/
theorem Verdict.many_here (verdict : Verdict key tokens str r) (nonpos : r ≤ 0) :
    Verdict key (.many :: tokens) str r := by
  rcases verdict.range with minus | zero | one
  · have unmatched : ¬ Matches key (.many :: tokens) str := fun ⟨rest, suffix, matched⟩ =>
      verdict.hopeless minus rest suffix matched
    refine ⟨by simp [minus, unmatched], ?_, verdict.range⟩
    rintro - rest suffix ⟨inner, innerSuffix, matched⟩
    exact verdict.hopeless minus inner (innerSuffix.trans suffix) matched
  · rw [zero]
    exact verdict_zero_of_matches ⟨str, List.suffix_refl str, verdict.zero_iff.mp zero⟩
  · omega

/-- A `many` that takes the first character: when the rest of the pattern does not match the
whole string, the verdict of the `many` at the tail is its verdict at the string. -/
theorem Verdict.many_skip {x : α} (skip : ¬ Matches key tokens (x :: str))
    (further : Verdict key (.many :: tokens) str r) :
    Verdict key (.many :: tokens) (x :: str) r where
  zero_iff := further.zero_iff.trans (by rw [matches_many_cons]; simp [skip])
  hopeless := by
    intro minus rest suffix matched
    rcases List.suffix_cons_iff.mp suffix with rfl | inner
    · rcases matches_many_cons.mp matched with here | later
      · exact skip here
      · exact further.hopeless minus str (List.suffix_refl str) later
    · exact further.hopeless minus rest inner matched
  range := further.range

end Verdict

end Wildcard
