/-
Base64 of `mysys/base64.c`: `my_base64_encode`, `my_base64_decode` and the length functions.

The encoder takes three bytes a turn into four characters of `base64_table`, pads a last group
of one or two bytes with `=` and starts a new line before every 77th character of a line. The
decoder is a small state machine over the text: it skips spaces before every character, adds
six bits a character to `c`, counts the pad marks of a group in `mark`, writes three bytes a
group and takes the marked ones back; after the groups only spaces may follow.

The decoder reads every byte string back from the text the encoder writes, to the end of the
text (`myBase64Decode_encodeLoop`). The buffer size
`my_base64_needed_decoded_length` casts `n + 3` to `int` before it divides, so from
`n = 2 ^ 31 - 3` on it is negative, although the decoder writes three bytes for every four
characters.
-/

import MariaDB.Library.BitFields
import Mathlib.Data.List.Basic

namespace MariaDB.Base64

open BitFields

/-! ### Tables and lengths -/

/-- `base64_table`. -/
def base64Table : List ℕ :=
  ("ABCDEFGHIJKLMNOPQRSTUVWXYZ" ++ "abcdefghijklmnopqrstuvwxyz" ++ "0123456789+/").toList.map
    Char.toNat

/-- `from_base64_table`: `-2` for a space, `-1` for a byte outside the alphabet, else the value of
the character. (The type on the last entry lets Lean elaborate the long literal at `ℤ` at once.) -/
def fromBase64Table : List ℤ :=
  [ -1, -1, -1, -1, -1, -1, -1, -1, -1, -2, -2, -2, -2, -2, -1, -1,
    -1, -1, -1, -1, -1, -1, -1, -1, -1, -1, -1, -1, -1, -1, -1, -1,
    -2, -1, -1, -1, -1, -1, -1, -1, -1, -1, -1, 62, -1, -1, -1, 63,
    52, 53, 54, 55, 56, 57, 58, 59, 60, 61, -1, -1, -1, -1, -1, -1,
    -1, 0, 1, 2, 3, 4, 5, 6, 7, 8, 9, 10, 11, 12, 13, 14,
    15, 16, 17, 18, 19, 20, 21, 22, 23, 24, 25, -1, -1, -1, -1, -1,
    -1, 26, 27, 28, 29, 30, 31, 32, 33, 34, 35, 36, 37, 38, 39, 40,
    41, 42, 43, 44, 45, 46, 47, 48, 49, 50, 51, -1, -1, -1, -1, -1,
    -1, -1, -1, -1, -1, -1, -1, -1, -1, -1, -1, -1, -1, -1, -1, -1,
    -1, -1, -1, -1, -1, -1, -1, -1, -1, -1, -1, -1, -1, -1, -1, -1,
    -2, -1, -1, -1, -1, -1, -1, -1, -1, -1, -1, -1, -1, -1, -1, -1,
    -1, -1, -1, -1, -1, -1, -1, -1, -1, -1, -1, -1, -1, -1, -1, -1,
    -1, -1, -1, -1, -1, -1, -1, -1, -1, -1, -1, -1, -1, -1, -1, -1,
    -1, -1, -1, -1, -1, -1, -1, -1, -1, -1, -1, -1, -1, -1, -1, -1,
    -1, -1, -1, -1, -1, -1, -1, -1, -1, -1, -1, -1, -1, -1, -1, -1,
    -1, -1, -1, -1, -1, -1, -1, -1, -1, -1, -1, -1, -1, -1, -1, (-1 : ℤ)]

/-- `from_base64_table[(uchar) c]` for a byte `c`. -/
def fromBase64 (c : ℕ) : ℤ := fromBase64Table.getD c (-1)

/-- `my_base64_encode_max_arg_length()`. -/
def myBase64EncodeMaxArgLength : ℤ := 0x5EC0D4C6

/-- `my_base64_decode_max_arg_length()`. -/
def myBase64DecodeMaxArgLength : ℤ := 0x7FFFFFFF

/-- `my_base64_needed_encoded_length(length_of_data)`: the characters with their padding, a
newline for every 76 of them but the last line, and the NUL; C's `/` truncates. -/
def myBase64NeededEncodedLength (lengthOfData : ℤ) : ℤ :=
  let nbBase64Chars := (lengthOfData + 2).tdiv 3 * 4
  nbBase64Chars + (nbBase64Chars - 1).tdiv 76 + 1

/-- `(int) x`: the `int` with the low 32 bits of `x`. -/
def toInt32 (x : ℤ) : ℤ := (x + 2 ^ 31) % 2 ^ 32 - 2 ^ 31

/-- `my_base64_needed_decoded_length(length_of_encoded_data)`:
`(int) ((longlong) length_of_encoded_data + 3) / 4 * 3`, the cast taken before the division. -/
def myBase64NeededDecodedLength (lengthOfEncodedData : ℤ) : ℤ :=
  (toInt32 (lengthOfEncodedData + 3)).tdiv 4 * 3

/-! ### The encoder -/

/-- The loop of `my_base64_encode` from byte `i` of `s`, with `len` characters on the line. -/
def encodeLoop (s : List ℕ) (i len : ℕ) : List ℕ :=
  if i < s.length then
    -- a newline before the 77th character of a line
    let (newline, len) := if len = 76 then ([0x0A], 0) else ([], len)
    let c := s.getD i 0
    let i := i + 1
    let c := c <<< 8
    let c := if i < s.length then c + s.getD i 0 else c
    let c := c <<< 8
    let i := i + 1
    let c := if i < s.length then c + s.getD i 0 else c
    let i := i + 1
    newline ++
      [base64Table.getD ((c >>> 18) &&& 0x3f) 0, base64Table.getD ((c >>> 12) &&& 0x3f) 0,
        if i > s.length + 1 then 0x3D else base64Table.getD ((c >>> 6) &&& 0x3f) 0,
        if i > s.length then 0x3D else base64Table.getD ((c >>> 0) &&& 0x3f) 0] ++
      encodeLoop s i (len + 4)
  else []
termination_by s.length - i

/-- `my_base64_encode(src, src_len, dst)`: the characters written to `dst`, the NUL last. -/
def myBase64Encode (src : List ℕ) : List ℕ := encodeLoop src 0 0 ++ [0]

/-! ### The decoder -/

/-- `MY_BASE64_DECODE_ALLOW_MULTIPLE_CHUNKS`. -/
def myBase64DecodeAllowMultipleChunks : ℕ := 1

/-- `MY_BASE64_DECODER`, with `src` a position in the text and `end` its length. `c` takes at most
four characters of six bits, so the `uint` never wraps. -/
structure MyBase64Decoder where
  src : ℕ
  c : ℕ
  error : Bool
  state : ℕ
  mark : ℕ
  deriving DecidableEq, Repr

/-- `my_base64_decoder_skip_spaces`: `true` at the end of the text, an error there when a group is
begun. -/
def myBase64DecoderSkipSpaces (str : List ℕ) (decoder : MyBase64Decoder) :
    Bool × MyBase64Decoder :=
  if decoder.src < str.length then
    if fromBase64 (str.getD decoder.src 0) ≠ -2 then (false, decoder)
    else myBase64DecoderSkipSpaces str { decoder with src := decoder.src + 1 }
  else (true, if decoder.state > 0 then { decoder with error := true } else decoder)
termination_by str.length - decoder.src

/-- `my_base64_add`: six more bits of `c` from the character at `src`, `true` with an error for a
character outside the alphabet. -/
def myBase64Add (str : List ℕ) (decoder : MyBase64Decoder) : Bool × MyBase64Decoder :=
  let c := decoder.c <<< 6
  let res := fromBase64 (str.getD decoder.src 0)
  let decoder := { decoder with c := c, src := decoder.src + 1 }
  if res < 0 then (true, { decoder with error := true })
  else (false, { decoder with c := c + res.toNat })

/-- `my_base64_decoder_getch`: the next character of a group, a pad mark allowed third and
fourth; `true` stops the group. -/
def myBase64DecoderGetch (str : List ℕ) (decoder : MyBase64Decoder) : Bool × MyBase64Decoder :=
  match myBase64DecoderSkipSpaces str decoder with
  | (true, decoder) => (true, decoder)
  | (false, decoder) =>
    match myBase64Add str decoder with
    | (false, decoder) =>
      -- after a pad mark only a pad mark may follow
      if decoder.mark ≠ 0 then (true, { decoder with error := true, src := decoder.src - 1 })
      else (false, { decoder with state := decoder.state + 1 })
    | (true, decoder) =>
      if decoder.state = 0 ∨ decoder.state = 1 then (true, { decoder with src := decoder.src - 1 })
      else if decoder.state = 2 ∨ decoder.state = 3 then
        if str.getD (decoder.src - 1) 0 = 0x3D then
          (false,
            { decoder with error := false, mark := decoder.mark + 1, state := decoder.state + 1 })
        else (true, { decoder with src := decoder.src - 1 })
      else (true, decoder)

/-- `my_base64_decoder_getch(&decoder) || ...` `count` times: `true` at the first that stops. -/
def getchAll (str : List ℕ) : ℕ → MyBase64Decoder → Bool × MyBase64Decoder
  | 0, decoder => (false, decoder)
  | count + 1, decoder =>
    match myBase64DecoderGetch str decoder with
    | (true, decoder) => (true, decoder)
    | (false, decoder) => getchAll str count decoder

/-- The loop of `my_base64_decode`, a group a turn: the decoder and the bytes written up to `d`.
Every turn that goes on reads four characters, so `fuel` turns past the length of the text never
end it. -/
def decodeLoop (str : List ℕ) (flags : ℕ) :
    ℕ → MyBase64Decoder → List ℕ → MyBase64Decoder × List ℕ
  | 0, decoder, dst => (decoder, dst)
  | fuel + 1, decoder, dst =>
    match getchAll str 4 { decoder with c := 0, state := 0 } with
    | (true, decoder) => (decoder, dst)
    | (false, decoder) =>
      let dst := dst ++ [(decoder.c >>> 16) &&& 0xff, (decoder.c >>> 8) &&& 0xff,
        (decoder.c >>> 0) &&& 0xff]
      if decoder.mark ≠ 0 then
        -- `d-= decoder.mark`: the pad marks take their bytes back
        let dst := dst.take (dst.length - decoder.mark)
        if flags &&& myBase64DecodeAllowMultipleChunks = 0 then (decoder, dst)
        else decodeLoop str flags fuel { decoder with mark := 0 } dst
      else decodeLoop str flags fuel decoder dst

/-- `my_base64_decode(src, len, dst, &end_ptr, flags)` on the text `str` of length `len`: the
value returned (the bytes written, or `-1`), the bytes at `dst` up to `d`, and `*end_ptr`. -/
def myBase64Decode (str : List ℕ) (flags : ℕ) : ℤ × List ℕ × ℕ :=
  let (decoder, dst) := decodeLoop str flags (str.length + 1) ⟨0, 0, false, 0, 0⟩ []
  -- only spaces may follow the groups
  let decoder := { decoder with state := 0 }
  let (atEnd, decoder) := myBase64DecoderSkipSpaces str decoder
  let decoder := if !atEnd then { decoder with error := true } else decoder
  (if decoder.error then -1 else dst.length, dst, decoder.src)

/-! ### The tables -/

/-- `from_base64_table` inverts `base64_table`. -/
theorem fromBase64_base64Table {x : ℕ} (small : x < 64) :
    fromBase64 (base64Table.getD x 0) = x := by
  have table : ∀ x : Fin 64, fromBase64 (base64Table.getD x 0) = x := by decide +kernel
  exact table ⟨x, small⟩

/-- The newline of the encoder is a space to the decoder. -/
theorem fromBase64_newline (len : ℕ) :
    ∀ ch ∈ (if len = 76 then [0x0A] else []), fromBase64 ch = -2 := by
  split_ifs
  · intro ch mem
    rw [List.mem_singleton.mp mem]
    decide
  · intro ch mem
    cases mem

/-! ### The groups of the encoder -/

/-- The 24 bits of the group of `s` at byte `i`, the bytes past the end read as zero. -/
def groupValue (s : List ℕ) (i : ℕ) : ℕ :=
  s.getD i 0 * 2 ^ 16 + s.getD (i + 1) 0 * 2 ^ 8 + s.getD (i + 2) 0

theorem add_getD_of_lt (s : List ℕ) (i c : ℕ) :
    (if i < s.length then c + s.getD i 0 else c) = c + s.getD i 0 := by
  split_ifs with lt
  · rfl
  · rw [List.getD_eq_default _ _ (by omega), Nat.add_zero]

theorem sextet_eq (v shift : ℕ) : (v >>> shift) &&& 0x3f = v / 2 ^ shift % 64 := by
  rw [and_mask_eq_mod _ 0x3f 6 rfl, Nat.shiftRight_eq_div_pow]
  rfl

/-- One turn of the encoder: a newline at the end of a line, four characters of the group, the
third and fourth a pad mark past the end of `s`. -/
theorem encodeLoop_of_lt {s : List ℕ} {i : ℕ} (len : ℕ) (lt : i < s.length) :
    encodeLoop s i len =
      (if len = 76 then [0x0A] else []) ++
        [base64Table.getD (groupValue s i / 2 ^ 18 % 64) 0,
          base64Table.getD (groupValue s i / 2 ^ 12 % 64) 0,
          if i + 3 > s.length + 1 then 0x3D else base64Table.getD (groupValue s i / 2 ^ 6 % 64) 0,
          if i + 3 > s.length then 0x3D else base64Table.getD (groupValue s i % 64) 0] ++
        encodeLoop s (i + 3) ((if len = 76 then 0 else len) + 4) := by
  have value : (s.getD i 0 <<< 8 + s.getD (i + 1) 0) <<< 8 + s.getD (i + 2) 0 =
      groupValue s i := by
    simp only [Nat.shiftLeft_eq, groupValue]
    omega
  rw [encodeLoop, if_pos lt]
  simp only [add_getD_of_lt, Nat.add_assoc, Nat.reduceAdd]
  simp only [value, sextet_eq, Nat.pow_zero, Nat.div_one]
  by_cases long : len = 76 <;> simp only [long, if_true, if_false]

theorem encodeLoop_of_le {s : List ℕ} {i : ℕ} (len : ℕ) (le : s.length ≤ i) :
    encodeLoop s i len = [] := by
  rw [encodeLoop, if_neg (by omega)]

/-- The characters of the groups from byte `i` on, with a newline before every 77th character of a
line. -/
theorem encodeLoop_length (s : List ℕ) :
    ∀ groups i len, (s.length - i + 2) / 3 = groups → len ≤ 76 → len % 4 = 0 →
      (encodeLoop s i len).length = 4 * groups + (len + 4 * groups - 4) / 76
  | 0, i, len, noGroup, _, _ => by
    rw [encodeLoop_of_le len (by omega), List.length_nil]
    omega
  | groups + 1, i, len, more, short, aligned => by
    have rest := encodeLoop_length s groups (i + 3) ((if len = 76 then 0 else len) + 4)
      (by omega) (by split_ifs <;> omega) (by split_ifs <;> omega)
    rw [encodeLoop_of_lt len (by omega), List.length_append, List.length_append, rest]
    by_cases long : len = 76
    · simp only [long, if_true, List.length_cons, List.length_nil]
      omega
    · simp only [long, if_false, List.length_cons, List.length_nil]
      omega


/-! ### The bytes of a group -/

theorem byte_eq (v shift : ℕ) : (v >>> shift) &&& 0xff = v / 2 ^ shift % 256 := by
  rw [and_mask_eq_mod _ 0xff 8 rfl, Nat.shiftRight_eq_div_pow]
  rfl

section Bytes

variable {s : List ℕ} (bytes : ∀ b ∈ s, b < 256)
include bytes

theorem getD_lt_of_bytes (j : ℕ) : s.getD j 0 < 256 := by
  rw [List.getD_eq_getElem?_getD]
  cases found : s[j]? with
  | none => simp
  | some b => simpa using bytes b (List.mem_of_getElem? found)

/-- The four sextets of a group put back together. -/
theorem groupValue_of_sextets (i : ℕ) :
    (((0 * 64 + groupValue s i / 2 ^ 18 % 64) * 64 + groupValue s i / 2 ^ 12 % 64) * 64 +
      groupValue s i / 2 ^ 6 % 64) * 64 + groupValue s i % 64 = groupValue s i := by
  have b0 := getD_lt_of_bytes bytes i
  have b1 := getD_lt_of_bytes bytes (i + 1)
  have b2 := getD_lt_of_bytes bytes (i + 2)
  simp only [groupValue, Nat.reducePow]
  omega

/-- The three bytes of a group cut out of its value. -/
theorem groupValue_bytes (i : ℕ) :
    [(groupValue s i >>> 16) &&& 0xff, (groupValue s i >>> 8) &&& 0xff,
      (groupValue s i >>> 0) &&& 0xff] = [s.getD i 0, s.getD (i + 1) 0, s.getD (i + 2) 0] := by
  have b0 := getD_lt_of_bytes bytes i
  have b1 := getD_lt_of_bytes bytes (i + 1)
  have b2 := getD_lt_of_bytes bytes (i + 2)
  simp only [byte_eq, groupValue, Nat.reducePow, List.cons.injEq, and_true]
  omega

end Bytes

theorem drop_eq_getD_cons {s : List ℕ} {i : ℕ} (lt : i < s.length) :
    s.drop i = s.getD i 0 :: s.drop (i + 1) := by
  rw [List.drop_eq_getElem_cons lt, List.getD_eq_getElem _ _ lt]

/-! ### The steps of the decoder -/

section Decoder

variable {str : List ℕ} {d : MyBase64Decoder}

theorem drop_eq_cons {p ch : ℕ} {rest : List ℕ} (here : str.drop p = ch :: rest) :
    p < str.length ∧ str.getD p 0 = ch ∧ str.drop (p + 1) = rest := by
  have lt : p < str.length := by
    by_contra past
    rw [List.drop_eq_nil_of_le (by omega)] at here
    cases here
  have head := congrArg List.head? here
  rw [List.head?_drop, List.head?_cons, List.getElem?_eq_getElem lt, Option.some_inj] at head
  refine ⟨lt, ?_, ?_⟩
  · rw [List.getD_eq_getElem _ _ lt, head]
  · rw [← List.tail_drop, here, List.tail_cons]

theorem skipSpaces_of_space {ch : ℕ} {rest : List ℕ} (here : str.drop d.src = ch :: rest)
    (space : fromBase64 ch = -2) :
    myBase64DecoderSkipSpaces str d =
      myBase64DecoderSkipSpaces str { d with src := d.src + 1 } := by
  obtain ⟨lt, getD, -⟩ := drop_eq_cons here
  rw [myBase64DecoderSkipSpaces, if_pos lt, getD, if_neg (by simp [space])]

theorem skipSpaces_of_char {ch : ℕ} {rest : List ℕ} (here : str.drop d.src = ch :: rest)
    (char : fromBase64 ch ≠ -2) : myBase64DecoderSkipSpaces str d = (false, d) := by
  obtain ⟨lt, getD, -⟩ := drop_eq_cons here
  rw [myBase64DecoderSkipSpaces, if_pos lt, getD, if_pos char]

theorem skipSpaces_of_nil (here : str.drop d.src = []) :
    myBase64DecoderSkipSpaces str d =
      (true, if d.state > 0 then { d with error := true } else d) := by
  rw [myBase64DecoderSkipSpaces, if_neg (by simpa using here)]

/-- A run of spaces is skipped whole. -/
theorem skipSpaces_append {spaces rest : List ℕ} (allSpaces : ∀ c ∈ spaces, fromBase64 c = -2)
    (here : str.drop d.src = spaces ++ rest) :
    myBase64DecoderSkipSpaces str d =
      myBase64DecoderSkipSpaces str { d with src := d.src + spaces.length } := by
  induction spaces generalizing d with
  | nil => rfl
  | cons c spaces ih =>
    rw [List.cons_append] at here
    obtain ⟨-, -, next⟩ := drop_eq_cons here
    rw [skipSpaces_of_space here (allSpaces c List.mem_cons_self),
      ih (fun c mem => allSpaces c (List.mem_cons_of_mem _ mem)) next]
    simp only [List.length_cons, Nat.add_assoc, Nat.add_comm 1]

/-- The rest of the text after a prefix of it. -/
theorem drop_add_length {p : ℕ} {pre rest : List ℕ} (here : str.drop p = pre ++ rest) :
    str.drop (p + pre.length) = rest := by
  rw [← List.drop_drop, here, List.drop_left]

theorem getch_of_spaces {spaces rest : List ℕ} (allSpaces : ∀ c ∈ spaces, fromBase64 c = -2)
    (here : str.drop d.src = spaces ++ rest) :
    myBase64DecoderGetch str d =
      myBase64DecoderGetch str { d with src := d.src + spaces.length } := by
  rw [myBase64DecoderGetch, skipSpaces_append allSpaces here]
  rfl

/-- A character of the alphabet adds its six bits. -/
theorem getch_of_char {p c state x ch : ℕ} {error : Bool} {rest : List ℕ}
    (here : str.drop p = ch :: rest) (value : fromBase64 ch = x) :
    myBase64DecoderGetch str ⟨p, c, error, state, 0⟩ =
      (false, ⟨p + 1, c * 64 + x, error, state + 1, 0⟩) := by
  obtain ⟨-, getD, -⟩ := drop_eq_cons here
  have char : fromBase64 ch ≠ -2 := by omega
  rw [myBase64DecoderGetch, skipSpaces_of_char here char]
  have nonneg : ¬ (x : ℤ) < 0 := by omega
  simp only [myBase64Add, getD, value, nonneg, if_false, Nat.shiftLeft_eq]
  simp

/-- A pad mark third or fourth in a group counts in `mark`. -/
theorem getch_of_pad {p c state mark : ℕ} {error : Bool} {rest : List ℕ}
    (here : str.drop p = 0x3D :: rest) (third : state = 2 ∨ state = 3) :
    myBase64DecoderGetch str ⟨p, c, error, state, mark⟩ =
      (false, ⟨p + 1, c * 64, false, state + 1, mark + 1⟩) := by
  obtain ⟨-, getD, -⟩ := drop_eq_cons here
  have pad : fromBase64 0x3D = -1 := by decide
  rw [myBase64DecoderGetch, skipSpaces_of_char here (by rw [pad]; decide)]
  simp only [myBase64Add, getD, pad, Int.reduceLT, if_true, Nat.add_sub_cancel,
    Nat.shiftLeft_eq]
  rcases third with rfl | rfl <;> simp

/-- At the end of the text the group stops, an error when it is begun. -/
theorem getch_of_nil (here : str.drop d.src = []) :
    myBase64DecoderGetch str d =
      (true, if d.state > 0 then { d with error := true } else d) := by
  rw [myBase64DecoderGetch, skipSpaces_of_nil here]

theorem getchAll_of_spaces {spaces rest : List ℕ} (allSpaces : ∀ c ∈ spaces, fromBase64 c = -2)
    (here : str.drop d.src = spaces ++ rest) (count : ℕ) :
    getchAll str (count + 1) d =
      getchAll str (count + 1) { d with src := d.src + spaces.length } := by
  simp only [getchAll]
  rw [getch_of_spaces allSpaces here]

/-- A group of four characters of the alphabet. -/
theorem getchAll_full {p c state x0 x1 x2 x3 : ℕ} {error : Bool} {rest : List ℕ}
    (here : str.drop p = base64Table.getD x0 0 :: base64Table.getD x1 0 ::
      base64Table.getD x2 0 :: base64Table.getD x3 0 :: rest)
    (small0 : x0 < 64) (small1 : x1 < 64) (small2 : x2 < 64) (small3 : x3 < 64) :
    getchAll str 4 ⟨p, c, error, state, 0⟩ =
      (false, ⟨p + 4, (((c * 64 + x0) * 64 + x1) * 64 + x2) * 64 + x3, error, state + 4, 0⟩) := by
  obtain ⟨-, -, here1⟩ := drop_eq_cons here
  obtain ⟨-, -, here2⟩ := drop_eq_cons here1
  obtain ⟨-, -, here3⟩ := drop_eq_cons here2
  simp only [getchAll, getch_of_char here (fromBase64_base64Table small0),
    getch_of_char here1 (fromBase64_base64Table small1),
    getch_of_char here2 (fromBase64_base64Table small2),
    getch_of_char here3 (fromBase64_base64Table small3)]

/-- A group of three characters and a pad mark. -/
theorem getchAll_pad1 {p c x0 x1 x2 : ℕ} {error : Bool} {rest : List ℕ}
    (here : str.drop p = base64Table.getD x0 0 :: base64Table.getD x1 0 ::
      base64Table.getD x2 0 :: 0x3D :: rest)
    (small0 : x0 < 64) (small1 : x1 < 64) (small2 : x2 < 64) :
    getchAll str 4 ⟨p, c, error, 0, 0⟩ =
      (false, ⟨p + 4, (((c * 64 + x0) * 64 + x1) * 64 + x2) * 64, false, 4, 1⟩) := by
  obtain ⟨-, -, here1⟩ := drop_eq_cons here
  obtain ⟨-, -, here2⟩ := drop_eq_cons here1
  obtain ⟨-, -, here3⟩ := drop_eq_cons here2
  simp only [getchAll, getch_of_char here (fromBase64_base64Table small0),
    getch_of_char here1 (fromBase64_base64Table small1),
    getch_of_char here2 (fromBase64_base64Table small2), Nat.zero_add, Nat.reduceAdd,
    getch_of_pad here3 (Or.inr rfl)]

/-- A group of two characters and two pad marks. -/
theorem getchAll_pad2 {p c x0 x1 : ℕ} {error : Bool} {rest : List ℕ}
    (here : str.drop p = base64Table.getD x0 0 :: base64Table.getD x1 0 :: 0x3D :: 0x3D :: rest)
    (small0 : x0 < 64) (small1 : x1 < 64) :
    getchAll str 4 ⟨p, c, error, 0, 0⟩ =
      (false, ⟨p + 4, ((c * 64 + x0) * 64 + x1) * 64 * 64, false, 4, 2⟩) := by
  obtain ⟨-, -, here1⟩ := drop_eq_cons here
  obtain ⟨-, -, here2⟩ := drop_eq_cons here1
  obtain ⟨-, -, here3⟩ := drop_eq_cons here2
  simp only [getchAll, getch_of_char here (fromBase64_base64Table small0),
    getch_of_char here1 (fromBase64_base64Table small1), Nat.zero_add, Nat.reduceAdd,
    getch_of_pad here2 (Or.inl rfl), getch_of_pad here3 (Or.inr rfl)]

/-! ### One turn of the decoder's loop -/

section Loop

variable {str dst : List ℕ} {flags fuel p c state mark : ℕ} {error : Bool}
  {decoder : MyBase64Decoder}

/-- The bytes of `c` the loop writes for a group. -/
theorem decodeLoop_of_full
    (group : getchAll str 4 ⟨p, 0, error, 0, mark⟩ = (false, decoder)) (noMark : decoder.mark = 0) :
    decodeLoop str flags (fuel + 1) ⟨p, c, error, state, mark⟩ dst =
      decodeLoop str flags fuel decoder (dst ++ [(decoder.c >>> 16) &&& 0xff,
        (decoder.c >>> 8) &&& 0xff, (decoder.c >>> 0) &&& 0xff]) := by
  simp only [decodeLoop, group, noMark, ne_eq, not_true_eq_false, if_false]

/-- A group with pad marks ends the text unless more chunks are allowed. -/
theorem decodeLoop_of_marked
    (group : getchAll str 4 ⟨p, 0, error, 0, mark⟩ = (false, decoder)) (marked : decoder.mark ≠ 0)
    (oneChunk : flags &&& myBase64DecodeAllowMultipleChunks = 0) :
    decodeLoop str flags (fuel + 1) ⟨p, c, error, state, mark⟩ dst =
      (decoder, (dst ++ [(decoder.c >>> 16) &&& 0xff, (decoder.c >>> 8) &&& 0xff,
        (decoder.c >>> 0) &&& 0xff]).take (dst.length + 3 - decoder.mark)) := by
  simp [decodeLoop, group, marked, oneChunk]

/-- A group that stops ends the loop with the bytes written so far. -/
theorem decodeLoop_of_stop
    (group : getchAll str 4 ⟨p, 0, error, 0, mark⟩ = (true, decoder)) :
    decodeLoop str flags (fuel + 1) ⟨p, c, error, state, mark⟩ dst = (decoder, dst) := by
  simp only [decodeLoop, group]

end Loop

end Decoder

/-! ### The round trip -/

/-- The decoder reads back the groups of the encoder from byte `i` on; the induction is on the
groups left, and the fuel is one turn more than they are, for the turn that finds the end. -/
theorem decodeLoop_encodeLoop {s : List ℕ} (bytes : ∀ b ∈ s, b < 256) (str : List ℕ) :
    ∀ groups i len fuel p c state dst, (s.length - i + 2) / 3 = groups → groups < fuel →
      str.drop p = encodeLoop s i len →
      ∃ decoder, decodeLoop str 0 fuel ⟨p, c, false, state, 0⟩ dst = (decoder, dst ++ s.drop i) ∧
        decoder.src = p + (encodeLoop s i len).length ∧ decoder.error = false
  | _, _, _, 0, _, _, _, _, _, enough, _ => absurd enough (Nat.not_lt_zero _)
  | 0, i, len, fuel + 1, p, c, state, dst, noGroup, _, here => by
    rw [encodeLoop_of_le len (by omega)] at here ⊢
    have stop : getchAll str 4 ⟨p, 0, false, 0, 0⟩ = (true, ⟨p, 0, false, 0, 0⟩) := by
      simp only [getchAll, getch_of_nil (d := ⟨p, 0, false, 0, 0⟩) here]
      rfl
    refine ⟨⟨p, 0, false, 0, 0⟩, ?_, rfl, rfl⟩
    rw [decodeLoop_of_stop stop, List.drop_eq_nil_of_le (by omega), List.append_nil]
  | groups + 1, i, len, fuel + 1, p, c, state, dst, more, enough, here => by
    rw [encodeLoop_of_lt len (by omega), List.append_assoc] at here ⊢
    have group := drop_add_length here
    have skip := getchAll_of_spaces (d := ⟨p, 0, false, 0, 0⟩) (fromBase64_newline len) here 3
    dsimp only at skip
    set newline := if len = 76 then [0x0A] else []
    have small : ∀ shift, groupValue s i / 2 ^ shift % 64 < 64 := fun _ => Nat.mod_lt _ (by decide)
    rcases (by omega : i + 3 ≤ s.length ∨ i + 2 = s.length ∨ i + 1 = s.length)
      with full | two | one
    · -- a full group, and the groups after it
      rw [if_neg (by omega), if_neg (by omega)] at group ⊢
      have after := drop_add_length group
      simp only [List.length_cons, List.length_nil, Nat.zero_add, Nat.reduceAdd] at after
      simp only [List.cons_append, List.nil_append] at group
      have read : getchAll str 4 ⟨p + newline.length, 0, false, 0, 0⟩ = _ :=
        getchAll_full group (small 18) (small 12) (small 6) (Nat.mod_lt _ (by decide))
      rw [groupValue_of_sextets bytes] at read
      obtain ⟨decoder, loop, src, noError⟩ := decodeLoop_encodeLoop bytes str groups (i + 3)
        ((if len = 76 then 0 else len) + 4) fuel _ (groupValue s i) (0 + 4) _ (by omega) (by omega)
        after
      refine ⟨decoder, ?_, ?_, noError⟩
      · rw [skip.trans read |> decodeLoop_of_full <| rfl, loop, groupValue_bytes bytes,
          drop_eq_getD_cons (by omega : i < s.length),
          drop_eq_getD_cons (by omega : i + 1 < s.length),
          drop_eq_getD_cons (by omega : i + 2 < s.length)]
        simp
      · simp only [src, List.length_append, List.length_cons, List.length_nil]
        omega
    · -- two bytes left: three characters and a pad mark end the text
      rw [if_neg (by omega), if_pos (by omega), encodeLoop_of_le _ (by omega)] at group ⊢
      simp only [List.cons_append, List.nil_append] at group
      have read : getchAll str 4 ⟨p + newline.length, 0, false, 0, 0⟩ = _ :=
        getchAll_pad1 group (small 18) (small 12) (small 6)
      have noThird : s.getD (i + 2) 0 = 0 := List.getD_eq_default _ _ (by omega)
      have value : (((0 * 64 + groupValue s i / 2 ^ 18 % 64) * 64 + groupValue s i / 2 ^ 12 % 64) *
          64 + groupValue s i / 2 ^ 6 % 64) * 64 = groupValue s i := by
        have sextets := groupValue_of_sextets bytes i
        have zero : groupValue s i % 64 = 0 := by
          simp only [groupValue, noThird]
          omega
        omega
      rw [value] at read
      refine ⟨⟨p + newline.length + 4, groupValue s i, false, 4, 1⟩, ?_, ?_, rfl⟩
      · rw [decodeLoop_of_marked (skip.trans read) (by simp) (by decide), groupValue_bytes bytes,
          drop_eq_getD_cons (by omega : i < s.length),
          drop_eq_getD_cons (by omega : i + 1 < s.length), List.drop_eq_nil_of_le (by omega)]
        simp [List.take_append, List.take_of_length_le]
      · simp only [List.length_append, List.length_cons, List.length_nil]
        omega
    · -- one byte left: two characters and two pad marks end the text
      rw [if_pos (by omega), if_pos (by omega), encodeLoop_of_le _ (by omega)] at group ⊢
      simp only [List.cons_append, List.nil_append] at group
      have read : getchAll str 4 ⟨p + newline.length, 0, false, 0, 0⟩ = _ :=
        getchAll_pad2 group (small 18) (small 12)
      have noSecond : s.getD (i + 1) 0 = 0 := List.getD_eq_default _ _ (by omega)
      have noThird : s.getD (i + 2) 0 = 0 := List.getD_eq_default _ _ (by omega)
      have value : ((0 * 64 + groupValue s i / 2 ^ 18 % 64) * 64 + groupValue s i / 2 ^ 12 % 64) *
          64 * 64 = groupValue s i := by
        have sextets := groupValue_of_sextets bytes i
        have zero : groupValue s i / 2 ^ 6 % 64 = 0 ∧ groupValue s i % 64 = 0 := by
          simp only [groupValue, noSecond, noThird, Nat.reducePow]
          omega
        omega
      rw [value] at read
      refine ⟨⟨p + newline.length + 4, groupValue s i, false, 4, 2⟩, ?_, ?_, rfl⟩
      · rw [decodeLoop_of_marked (skip.trans read) (by simp) (by decide), groupValue_bytes bytes,
          drop_eq_getD_cons (by omega : i < s.length), List.drop_eq_nil_of_le (by omega)]
        simp [List.take_append, List.take_of_length_le]
      · simp only [List.length_append, List.length_cons, List.length_nil]
        omega

/-- The decoder reads back every byte string from its encoding, to the end of the text. -/
theorem myBase64Decode_encodeLoop {s : List ℕ} (bytes : ∀ b ∈ s, b < 256) :
    myBase64Decode (encodeLoop s 0 0) 0 = ((s.length : ℤ), s, (encodeLoop s 0 0).length) := by
  have length := encodeLoop_length s _ 0 0 rfl (by omega) (by omega)
  obtain ⟨decoder, loop, src, noError⟩ := decodeLoop_encodeLoop bytes (encodeLoop s 0 0) _ 0 0
    ((encodeLoop s 0 0).length + 1) 0 0 0 [] rfl (by omega) List.drop_zero
  have atEnd : myBase64DecoderSkipSpaces (encodeLoop s 0 0) { decoder with state := 0 } =
      (true, { decoder with state := 0 }) := by
    rw [skipSpaces_of_nil (List.drop_eq_nil_of_le (by simp [src]))]
    simp
  simp only [myBase64Decode, loop, atEnd]
  simp [noError, src]

/-- The longest string the encoder takes: its text is `2 ^ 31 - 3` characters long, within what the
decoder takes, and the decoder writes its `1589695686` bytes back, while
`my_base64_needed_decoded_length` of the text's length is negative. -/
theorem base64_decode_overflows_needed_length :
    (1589695686 : ℤ) ≤ myBase64EncodeMaxArgLength ∧ (2147483645 : ℤ) ≤ myBase64DecodeMaxArgLength ∧
      (encodeLoop (List.replicate 1589695686 0) 0 0).length = 2147483645 ∧
      myBase64Decode (encodeLoop (List.replicate 1589695686 0) 0 0) 0 =
        (1589695686, List.replicate 1589695686 0, 2147483645) ∧
      myBase64NeededDecodedLength 2147483645 = -1610612736 := by
  have bytes : ∀ b ∈ List.replicate 1589695686 0, b < 256 := by
    intro b mem
    rw [List.eq_of_mem_replicate mem]
    decide
  have length := encodeLoop_length (List.replicate 1589695686 0) _ 0 0 rfl (by omega) (by omega)
  rw [List.length_replicate] at length
  refine ⟨by decide, by decide, by rw [length], ?_, by decide⟩
  rw [myBase64Decode_encodeLoop bytes, List.length_replicate, length]
  rfl

end MariaDB.Base64
