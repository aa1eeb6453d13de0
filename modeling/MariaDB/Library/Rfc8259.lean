/-
The JSON text grammar of RFC 8259, over Unicode code points.

A JSON text is a value between whitespace. A value is a string, a number, one of the names
`true`, `false` and `null`, an object or an array. A string holds the code points from
U+0020 on other than the quotation mark and the reverse solidus, and escapes: the reverse
solidus followed by one of `" \ / b f n r t`, or by `u` and four hex digits of a code unit
that is not a surrogate, or of a high surrogate followed by the escape of a low one. A number
is `-?(0|[1-9][0-9]*)(.[0-9]+)?([eE][+-]?[0-9]+)?`. `Value n` bounds the nesting of objects
and arrays by `n`.

The lemmas read a text back from its first characters: what a value starting with a
quotation mark or a digit must be, which characters may follow a reverse solidus, and that a
number does not end with its decimal point.
-/

import Mathlib.Data.List.Basic

namespace Rfc8259

/-! ### Characters -/

/-- `ws`: space, horizontal tab, line feed, carriage return. -/
def IsWs (c : ℕ) : Prop := c = 0x20 ∨ c = 0x09 ∨ c = 0x0A ∨ c = 0x0D

/-- A run of whitespace. -/
def Ws (s : List ℕ) : Prop := ∀ c ∈ s, IsWs c

def IsDigit (c : ℕ) : Prop := 0x30 ≤ c ∧ c ≤ 0x39

def IsHexDigit (c : ℕ) : Prop := IsDigit c ∨ (0x41 ≤ c ∧ c ≤ 0x46) ∨ (0x61 ≤ c ∧ c ≤ 0x66)

/-- The value of a hex digit. -/
def hexDigitValue (c : ℕ) : ℕ :=
  if c ≤ 0x39 then c - 0x30 else if c ≤ 0x46 then c - 0x37 else c - 0x57

/-- The number four hex digits write. -/
def hexValue (digits : List ℕ) : ℕ := digits.foldl (fun acc d => 16 * acc + hexDigitValue d) 0

/-- Four hex digits of a code unit from `lo` to `hi`. -/
def CodeUnit (lo hi : ℕ) (digits : List ℕ) : Prop :=
  digits.length = 4 ∧ (∀ d ∈ digits, IsHexDigit d) ∧ lo ≤ hexValue digits ∧ hexValue digits ≤ hi

/-- The characters that may follow a reverse solidus: `" \ / b f n r t u`. -/
def escapeNames : List ℕ := [0x22, 0x5C, 0x2F, 0x62, 0x66, 0x6E, 0x72, 0x74, 0x75]

/-! ### The grammar -/

/-- What follows a reverse solidus in a string. -/
inductive Escaped : List ℕ → Prop
  | simple {c : ℕ} (named : c ∈ [0x22, 0x5C, 0x2F, 0x62, 0x66, 0x6E, 0x72, 0x74]) : Escaped [c]
  | unit {digits : List ℕ} (bmp : CodeUnit 0 0xD7FF digits ∨ CodeUnit 0xE000 0xFFFF digits) :
      Escaped (0x75 :: digits)
  | pair {high low : List ℕ} (isHigh : CodeUnit 0xD800 0xDBFF high)
      (isLow : CodeUnit 0xDC00 0xDFFF low) : Escaped (0x75 :: high ++ 0x5C :: 0x75 :: low)

/-- The characters between the quotation marks of a string. -/
inductive Chars : List ℕ → Prop
  | nil : Chars []
  | unescaped {c : ℕ} {rest : List ℕ} (allowed : 0x20 ≤ c ∧ c ≠ 0x22 ∧ c ≠ 0x5C ∧ c ≤ 0x10FFFF)
      (tail : Chars rest) : Chars (c :: rest)
  | escaped {escape rest : List ℕ} (escaped : Escaped escape) (tail : Chars rest) :
      Chars (0x5C :: escape ++ rest)

/-- A string: characters between quotation marks. -/
def IsString (s : List ℕ) : Prop := ∃ body, s = 0x22 :: body ++ [0x22] ∧ Chars body

/-- A nonempty run of digits. -/
def IsDigits (s : List ℕ) : Prop := s ≠ [] ∧ ∀ c ∈ s, IsDigit c

/-- `0`, or a digit from `1` followed by digits. -/
def IsIntPart (s : List ℕ) : Prop :=
  s = [0x30] ∨ ∃ d ds, s = d :: ds ∧ 0x31 ≤ d ∧ d ≤ 0x39 ∧ ∀ c ∈ ds, IsDigit c

/-- No fraction, or a decimal point followed by digits. -/
def IsFrac (s : List ℕ) : Prop := s = [] ∨ ∃ ds, s = 0x2E :: ds ∧ IsDigits ds

/-- No exponent, or `e` or `E`, an optional sign and digits. -/
def IsExp (s : List ℕ) : Prop :=
  s = [] ∨ ∃ e sign ds, s = e :: sign ++ ds ∧ (e = 0x45 ∨ e = 0x65) ∧
    (sign = [] ∨ sign = [0x2B] ∨ sign = [0x2D]) ∧ IsDigits ds

/-- A number: an optional minus, the integer part, the fraction and the exponent. -/
def IsNumber (s : List ℕ) : Prop :=
  ∃ minus int frac exp, s = minus ++ int ++ frac ++ exp ∧ (minus = [] ∨ minus = [0x2D]) ∧
    IsIntPart int ∧ IsFrac frac ∧ IsExp exp

/-- `true`, `false` and `null`. -/
def IsName (s : List ℕ) : Prop :=
  s = [0x74, 0x72, 0x75, 0x65] ∨ s = [0x66, 0x61, 0x6C, 0x73, 0x65] ∨ s = [0x6E, 0x75, 0x6C, 0x6C]

mutual

/-- A value whose objects and arrays nest at most `n` deep. -/
inductive Value : ℕ → List ℕ → Prop
  | string {n : ℕ} {s : List ℕ} (string : IsString s) : Value n s
  | number {n : ℕ} {s : List ℕ} (number : IsNumber s) : Value n s
  | name {n : ℕ} {s : List ℕ} (name : IsName s) : Value n s
  | object {n : ℕ} {inner : List ℕ} (members : Members n inner) :
      Value (n + 1) (0x7B :: inner ++ [0x7D])
  | array {n : ℕ} {inner : List ℕ} (elements : Elements n inner) :
      Value (n + 1) (0x5B :: inner ++ [0x5D])

/-- The text between the braces of an object. -/
inductive Members : ℕ → List ℕ → Prop
  | empty {n : ℕ} {w : List ℕ} (blank : Ws w) : Members n w
  | list {n : ℕ} {w list w' : List ℕ} (before : Ws w) (members : MemberList n list) (after : Ws w') :
      Members n (w ++ list ++ w')

/-- Members separated by commas: a string, a colon and a value each. -/
inductive MemberList : ℕ → List ℕ → Prop
  | one {n : ℕ} {key w w' v : List ℕ} (name : IsString key) (before : Ws w) (after : Ws w')
      (value : Value n v) : MemberList n (key ++ w ++ 0x3A :: w' ++ v)
  | cons {n : ℕ} {key w w' v u u' tail : List ℕ} (name : IsString key) (before : Ws w)
      (after : Ws w') (value : Value n v) (beforeComma : Ws u) (afterComma : Ws u')
      (rest : MemberList n tail) :
      MemberList n (key ++ w ++ 0x3A :: w' ++ v ++ u ++ 0x2C :: u' ++ tail)

/-- The text between the brackets of an array. -/
inductive Elements : ℕ → List ℕ → Prop
  | empty {n : ℕ} {w : List ℕ} (blank : Ws w) : Elements n w
  | list {n : ℕ} {w list w' : List ℕ} (before : Ws w) (elements : ElementList n list)
      (after : Ws w') : Elements n (w ++ list ++ w')

/-- Values separated by commas. -/
inductive ElementList : ℕ → List ℕ → Prop
  | one {n : ℕ} {v : List ℕ} (value : Value n v) : ElementList n v
  | cons {n : ℕ} {v u u' tail : List ℕ} (value : Value n v) (beforeComma : Ws u)
      (afterComma : Ws u') (rest : ElementList n tail) : ElementList n (v ++ u ++ 0x2C :: u' ++ tail)

end

/-- A JSON text whose nesting is at most `n`: a value between whitespace. -/
def JsonText (n : ℕ) (s : List ℕ) : Prop :=
  ∃ w value w', s = w ++ value ++ w' ∧ Ws w ∧ Value n value ∧ Ws w'

/-! ### Reading a text from its first characters -/

/-- Whitespace in front of a character that is not whitespace is empty. -/
theorem Ws.eq_nil_of_append {w rest rest' : List ℕ} {c : ℕ} (blank : Ws w) (notWs : ¬ IsWs c)
    (split : w ++ rest = c :: rest') : w = [] := by
  cases w with
  | nil => rfl
  | cons d w =>
    obtain ⟨rfl, -⟩ := List.cons.inj split
    exact absurd (blank d List.mem_cons_self) notWs

/-- A number starts with a minus or a digit. -/
theorem IsNumber.head {s : List ℕ} (number : IsNumber s) :
    ∃ c rest, s = c :: rest ∧ (c = 0x2D ∨ IsDigit c) := by
  obtain ⟨minus, int, frac, exp, rfl, sign, intPart, -, -⟩ := number
  rcases sign with rfl | rfl
  · rcases intPart with rfl | ⟨d, ds, rfl, low, high, -⟩
    · exact ⟨0x30, frac ++ exp, by simp, .inr ⟨by omega, by omega⟩⟩
    · exact ⟨d, ds ++ frac ++ exp, by simp, .inr ⟨by omega, high⟩⟩
  · exact ⟨0x2D, int ++ frac ++ exp, by simp, .inl rfl⟩

/-- The last character of a list is the last of any list it ends. -/
theorem getLast?_append_of_some {l l' : List ℕ} {d : ℕ} (last : l'.getLast? = some d) :
    (l ++ l').getLast? = some d := by
  rw [List.getLast?_append, last]
  rfl

/-- The last character of a nonempty run of digits is a digit. -/
theorem IsDigits.getLast {s : List ℕ} (digits : IsDigits s) :
    ∃ d, s.getLast? = some d ∧ IsDigit d := by
  obtain ⟨nonempty, all⟩ := digits
  exact ⟨s.getLast nonempty, List.getLast?_eq_some_getLast nonempty,
    all _ (List.getLast_mem nonempty)⟩

/-- A number ends with a digit: never with its decimal point. -/
theorem IsNumber.getLast {s : List ℕ} (number : IsNumber s) :
    ∃ d, s.getLast? = some d ∧ IsDigit d := by
  obtain ⟨minus, int, frac, exp, rfl, -, intPart, fracPart, expPart⟩ := number
  rcases expPart with rfl | ⟨e, sign, ds, rfl, -, -, digits⟩
  · rw [List.append_nil]
    -- without an exponent the number ends with its fraction, or else with its integer part
    rcases fracPart with rfl | ⟨ds, rfl, digits⟩
    · rw [List.append_nil]
      rcases intPart with rfl | ⟨d, ds, rfl, low, high, all⟩
      · exact ⟨0x30, List.getLast?_concat, by omega, by omega⟩
      · rcases List.eq_nil_or_concat ds with rfl | ⟨init, last, rfl⟩
        · exact ⟨d, List.getLast?_concat, by omega, high⟩
        · refine ⟨last, ?_, all last (by simp)⟩
          rw [List.concat_eq_append, ← List.cons_append, ← List.append_assoc]
          exact List.getLast?_concat
    · obtain ⟨d, last, digit⟩ := digits.getLast
      exact ⟨d, getLast?_append_of_some (show ([0x2E] ++ ds).getLast? = some d from
        getLast?_append_of_some last), digit⟩
  · obtain ⟨d, last, digit⟩ := digits.getLast
    exact ⟨d, getLast?_append_of_some (show ((e :: sign) ++ ds).getLast? = some d from
      getLast?_append_of_some last), digit⟩

/-- A value that starts with a quotation mark is a string. -/
theorem Value.isString_of_head {n : ℕ} {value rest : List ℕ} (parsed : Value n value)
    (head : value = 0x22 :: rest) : IsString value := by
  cases parsed with
  | string string => exact string
  | number number =>
    obtain ⟨c, rest', rfl, minus | digit⟩ := number.head
    · cases head; cases minus
    · cases head; exact absurd digit (by simp [IsDigit])
  | name name => rcases name with rfl | rfl | rfl <;> cases head
  | object => cases head
  | array => cases head

/-- A value that starts with a digit is a number. -/
theorem Value.isNumber_of_head {n : ℕ} {value rest : List ℕ} {d : ℕ} (parsed : Value n value)
    (head : value = d :: rest) (digit : IsDigit d) : IsNumber value := by
  obtain ⟨low, high⟩ := digit
  cases parsed with
  | string string =>
    obtain ⟨body, rfl, -⟩ := string
    cases head
    omega
  | number number => exact number
  | name name => rcases name with rfl | rfl | rfl <;> cases head <;> omega
  | object => cases head; omega
  | array => cases head; omega

/-- An escape starts with one of the names `" \ / b f n r t u`. -/
theorem Escaped.head {escape : List ℕ} (escaped : Escaped escape) :
    ∃ c rest, escape = c :: rest ∧ c ∈ escapeNames := by
  cases escaped with
  | simple named => exact ⟨_, [], rfl, by simp [escapeNames] at named ⊢; omega⟩
  | unit => exact ⟨0x75, _, rfl, by simp [escapeNames]⟩
  | pair => exact ⟨0x75, _, rfl, by simp [escapeNames]⟩

/-- In a string, a reverse solidus is followed by an escape name. -/
theorem Chars.escape_name {s : List ℕ} {c : ℕ} {rest : List ℕ} (chars : Chars s)
    (text : s = 0x5C :: c :: rest) : c ∈ escapeNames := by
  cases chars with
  | nil => cases text
  | unescaped allowed =>
    obtain ⟨rfl, -⟩ := List.cons.inj text
    exact absurd rfl allowed.2.2.1
  | escaped escaped =>
    obtain ⟨c', rest', rfl, named⟩ := escaped.head
    obtain ⟨rfl, -⟩ := List.cons.inj (List.cons.inj text).2
    exact named

/-- A text that starts with a character other than whitespace starts with its value. -/
theorem JsonText.value_head {n c : ℕ} {s : List ℕ} (text : JsonText n (c :: s))
    (notWs : ¬ IsWs c) : ∃ v w', c :: s = c :: v ++ w' ∧ Value n (c :: v) ∧ Ws w' := by
  obtain ⟨w, value, w', split, blank, parsed, after⟩ := text
  obtain rfl : w = [] :=
    blank.eq_nil_of_append notWs (by rw [← List.append_assoc]; exact split.symm)
  rcases value with _ | ⟨d, v⟩
  · simp only [List.nil_append] at split
    exact absurd (after c (by simp [← split])) notWs
  · obtain ⟨rfl, -⟩ := List.cons.inj split
    exact ⟨v, w', split, parsed, after⟩

/-- A text that starts with a quotation mark, a reverse solidus and a character that no
escape starts with is not JSON. -/
theorem not_jsonText_of_bad_escape {n c : ℕ} (bad : c ∉ escapeNames) (rest : List ℕ) :
    ¬ JsonText n (0x22 :: 0x5C :: c :: rest) := by
  intro text
  obtain ⟨v, w', split, parsed, -⟩ := text.value_head (by simp [IsWs])
  obtain ⟨body, string, chars⟩ := parsed.isString_of_head rfl
  obtain ⟨-, rfl⟩ := List.cons.inj string
  -- the body starts with the reverse solidus; what follows it is `c`, or the closing quote
  rcases body with _ | ⟨b, _ | ⟨b', body⟩⟩
  · simp at split
  · simp only [List.cons_append, List.cons.injEq] at split
    obtain ⟨-, rfl, rfl, -⟩ := split
    exact bad (by simp [escapeNames])
  · simp only [List.cons_append, List.cons.injEq] at split
    obtain ⟨-, rfl, rfl, -⟩ := split
    exact bad (chars.escape_name rfl)

/-- A text that is a digit followed by a decimal point is not JSON. -/
theorem not_jsonText_digit_point {n d : ℕ} (digit : IsDigit d) : ¬ JsonText n [d, 0x2E] := by
  intro text
  obtain ⟨v, w', split, parsed, after⟩ :=
    text.value_head (by obtain ⟨low, high⟩ := digit; unfold IsWs; omega)
  obtain ⟨last, isLast, lastDigit⟩ := (parsed.isNumber_of_head rfl digit).getLast
  -- the value is `d` or `d.`: after `d` the point is no whitespace, and `d.` ends with no digit
  rcases v with _ | ⟨p, _ | ⟨p', v⟩⟩
  · simp only [List.cons_append, List.nil_append, List.cons.injEq, true_and] at split
    exact absurd (after 0x2E (by simp [← split])) (by simp [IsWs])
  · simp only [List.cons_append, List.nil_append, List.cons.injEq, true_and] at split
    obtain ⟨rfl, -⟩ := split
    simp only [List.getLast?_cons_cons, List.getLast?_singleton, Option.some.injEq] at isLast
    subst isLast
    exact absurd lastDigit (by simp [IsDigit])
  · simp at split

end Rfc8259
