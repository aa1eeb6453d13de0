/-
The JSON scanner of `strings/json_lib.c`, as `json_valid` runs it.

The engine reads the decoded characters of the text: `get_first_nonspace` reads the class of
the next character that is not a space, and `json_actions[state][class]` runs the handler of
the engine's state on it. Objects and arrays push the state to return to on a stack of at
most `JSON_DEPTH_LIMIT` entries; string constants, numbers and the names `true`, `false`,
`null` are skipped by their own loops (`skip_str_constant` with `json_handle_esc`,
`skip_num_constant` with the automaton `json_num_states`, `skip_string_verbatim`).
`json_valid` calls `json_scan_next` until it returns nonzero and accepts when no error was set.

The text is the list of characters the charset decodes, so a byte that does not decode
(`C_BAD`) does not arise. The handlers of `JST_READ_VALUE`, which `json_valid` never enters,
and the fields the scanner fills for its readers (`value`, `value_type`, `num_flags`,
`value_escaped`) are left out. Loops that the code runs until the text ends are given fuel,
and run out of it with `none`.
-/

import MariaDB.Library.Rfc8259
import Mathlib.Data.Int.Notation
import Mathlib.Tactic.IntervalCases

namespace MariaDB.Json

/-! ### Errors, character classes and states -/

/-- `enum json_errors`. -/
def jeBadChr : ℤ := -1
def jeNotJsonChr : ℤ := -2
def jeEos : ℤ := -3
def jeSyn : ℤ := -4
def jeStringConst : ℤ := -5
def jeEscaping : ℤ := -6
def jeDepth : ℤ := -7

def jsonDepthLimit : ℕ := 32

/-- `enum json_char_classes`. -/
inductive CharClass
  | eos | lcurb | rcurb | lsqrb | rsqrb | colon | comma | quote | digit | lowF | lowN | lowT
  | etc | err | bad | space
  deriving DecidableEq, Repr

/-- `json_chr_map`, over the characters below 128. -/
def jsonChrMap (c : ℕ) : CharClass :=
  if c = 9 ∨ c = 10 ∨ c = 13 ∨ c = 32 then .space
  else if c < 32 then .err
  else
    match c with
    | 0x22 => .quote
    | 0x2C => .comma
    | 0x2D => .digit
    | 0x3A => .colon
    | 0x5B => .lsqrb
    | 0x5D => .rsqrb
    | 0x66 => .lowF
    | 0x6E => .lowN
    | 0x74 => .lowT
    | 0x7B => .lcurb
    | 0x7D => .rcurb
    | _ => if 0x30 ≤ c ∧ c ≤ 0x39 then .digit else .etc

/-- `enum json_string_char_classes`: `S_0` to `S_F` are the values of the hex digits. -/
def sEtc : ℕ := 36
def sQuote : ℕ := 37
def sBksl : ℕ := 38
def sErr : ℕ := 100

/-- `json_instr_chr_map`, over the characters below 128. -/
def jsonInstrChrMap (c : ℕ) : ℕ :=
  if c < 32 then sErr
  else if c = 0x22 then sQuote
  else if c = 0x5C then sBksl
  else if 0x30 ≤ c ∧ c ≤ 0x39 then c - 0x30
  else if 0x41 ≤ c ∧ c ≤ 0x46 then c - 0x41 + 10
  else if 0x61 ≤ c ∧ c ≤ 0x66 then c - 0x61 + 10
  else sEtc

/-- `enum json_num_char_classes`. -/
inductive NumClass
  | minus | plus | zero | digit | point | e | «end» | eend | err
  deriving DecidableEq, Repr

/-- The column of a class in `json_num_states`. -/
def NumClass.column : NumClass → ℕ
  | .minus => 0 | .plus => 1 | .zero => 2 | .digit => 3 | .point => 4 | .e => 5 | .end => 6
  | .eend => 7 | .err => 8

/-- `json_num_chr_map`, over the characters below 128. -/
def jsonNumChrMap (c : ℕ) : NumClass :=
  if c = 9 ∨ c = 10 ∨ c = 13 ∨ c = 32 then .end
  else if c < 32 then .err
  else
    match c with
    | 0x2B => .plus
    | 0x2C => .end
    | 0x2D => .minus
    | 0x2E => .point
    | 0x30 => .zero
    | 0x45 => .e
    | 0x5D => .end
    | 0x65 => .e
    | 0x7D => .end
    | _ => if 0x31 ≤ c ∧ c ≤ 0x39 then .digit else .eend

/-- `enum json_num_states`. -/
def nsOk : ℤ := 0
def nsGo : ℤ := 1
def nsGo1 : ℤ := 2
def nsZ : ℤ := 3
def nsZ1 : ℤ := 4
def nsInt : ℤ := 5
def nsFrac : ℤ := 6
def nsEx : ℤ := 7
def nsEx1 : ℤ := 8

/-- `json_num_states`. Each row of the source lists eight entries for the nine columns: the
last of them, `JE_BAD_CHR`, lands in the `N_EEND` column, and `N_ERR` keeps the `0` of a
static array, `NS_OK`. -/
def jsonNumStates (state : ℤ) (cls : NumClass) : ℤ :=
  let row : List ℤ :=
    match state with
    | 0 => [jeSyn, jeSyn, jeSyn, jeSyn, jeSyn, jeSyn, jeSyn, jeBadChr]
    | 1 => [nsGo1, jeSyn, nsZ, nsInt, jeSyn, jeSyn, jeSyn, jeBadChr]
    | 2 => [jeSyn, jeSyn, nsZ1, nsInt, jeSyn, jeSyn, jeSyn, jeBadChr]
    | 3 => [jeSyn, jeSyn, jeSyn, jeSyn, nsFrac, nsEx, nsOk, jeBadChr]
    | 4 => [jeSyn, jeSyn, jeSyn, jeSyn, nsFrac, nsEx, nsOk, jeBadChr]
    | 5 => [jeSyn, jeSyn, nsInt, nsInt, nsFrac, nsEx, nsOk, jeBadChr]
    | 6 => [jeSyn, jeSyn, nsFrac, nsFrac, jeSyn, nsEx, nsOk, jeBadChr]
    | 7 => [nsEx, nsEx, nsEx1, nsEx1, jeSyn, jeSyn, jeSyn, jeBadChr]
    | _ => [jeSyn, jeSyn, nsEx1, nsEx1, jeSyn, jeSyn, nsOk, jeBadChr]
  row.getD cls.column 0

/-- `enum json_states` and the states `json_all_states` adds, less `JST_READ_VALUE`. -/
inductive JsonState
  | value | key | objStart | objEnd | arrayStart | arrayEnd | done | objCont | arrayCont
  deriving DecidableEq, Repr

/-! ### The string and the engine -/

/-- `json_string_t`: the characters from `c_str` on, the last character read and the error. -/
structure JsonString where
  rest : List ℕ
  cNext : ℕ
  error : ℤ
  deriving DecidableEq, Repr

/-- `json_engine_t`: the string, the state and `stack[0 .. stack_p]`, its top first. -/
structure JsonEngine where
  s : JsonString
  state : JsonState
  stack : List JsonState
  deriving DecidableEq, Repr

/-- `j->stack[j->stack_p]`. -/
def JsonEngine.top (j : JsonEngine) : JsonState := j.stack.headD .done

/-- Set the error and return `1`. -/
def JsonEngine.fail (j : JsonEngine) (error : ℤ) : JsonEngine × Bool :=
  ({ j with s := { j.s with error := error } }, true)

/-! ### Reading characters -/

/-- The loop of `get_first_nonspace` over the characters left: what is left after the
character it stops at, that character and its class. -/
def firstNonspace (cNext : ℕ) : List ℕ → List ℕ × ℕ × CharClass
  | [] => ([], cNext, .eos)
  | c :: rest =>
    let t := if c < 128 then jsonChrMap c else .etc
    if t = .space then firstNonspace c rest else (rest, c, t)

/-- `get_first_nonspace`. -/
def getFirstNonspace (s : JsonString) : JsonString × CharClass :=
  let (rest, c, t) := firstNonspace s.cNext s.rest
  ({ s with rest := rest, cNext := c }, t)

/-- The error of a class read where a quote or a colon was due. -/
def classError (t : CharClass) : ℤ :=
  if t = .eos then jeEos else if t = .bad then jeBadChr else jeSyn

/-- The loop of `read_4_hexdigits`: `count` digits left, `unit` the code unit read so far.
Returns the result of the function and the code unit. -/
def readHexdigits : ℕ → ℕ → JsonString → JsonString × ℤ × ℕ
  | 0, unit, s => (s, 0, unit)
  | count + 1, unit, s =>
    match s.rest with
    | [] => ({ s with error := jeEos }, jeEos, unit)
    | c :: rest =>
      if 128 ≤ c ∨ 15 < jsonInstrChrMap c then ({ s with cNext := c, error := jeSyn }, jeSyn, unit)
      else readHexdigits count (16 * unit + jsonInstrChrMap c) { s with rest := rest, cNext := c }

/-- `read_4_hexdigits`. -/
def read4Hexdigits (s : JsonString) : JsonString × ℤ × ℕ := readHexdigits 4 0 s

/-- The two bytes of a code unit, as `read_4_hexdigits` writes them. -/
def unitBytes (unit : ℕ) : List ℕ := [unit / 256, unit % 256]

/-- `MY_UTF16_HIGH_HEAD` and `MY_UTF16_LOW_HEAD`. -/
def utf16HighHead (x : ℕ) : Bool := x % 256 &&& 0xFC == 0xD8
def utf16LowHead (x : ℕ) : Bool := x % 256 &&& 0xFC == 0xDC

def myCsIlseq : ℤ := 0
def myCsToosmall2 : ℤ := -102
def myCsToosmall4 : ℤ := -104

/-- `my_mb_wc_utf16_quick` (what `my_utf16_uni` runs) over the bytes from `s` to `e`: the
length read or the error, and the character. -/
def myMbWcUtf16Quick : List ℕ → ℤ × ℕ
  | a :: b :: rest =>
    if utf16HighHead a then
      match rest with
      | c :: d :: _ =>
        if utf16LowHead c then (4, (a &&& 3) * 2 ^ 18 + b * 2 ^ 10 + (c &&& 3) * 2 ^ 8 + d + 0x10000)
        else (myCsIlseq, 0)
      | _ => (myCsToosmall4, 0)
    else if utf16LowHead a then (myCsIlseq, 0)
    else (2, a * 256 + b)
  | _ => (myCsToosmall2, 0)

/-- The characters `json_handle_esc` names: `\b \f \n \r \t` and what they stand for. -/
def namedEscape (c : ℕ) : Option ℕ :=
  match c with
  | 0x62 => some 8
  | 0x66 => some 12
  | 0x6E => some 10
  | 0x72 => some 13
  | 0x74 => some 9
  | _ => none

/-- The surrogate pair of `json_handle_esc`, once the high unit is read: `\`, `u` and the
low unit. -/
def handleLowSurrogate (high : ℕ) (s : JsonString) : JsonString × ℤ :=
  match s.rest with
  | [] => ({ s with error := jeEos }, jeEos)
  | d :: rest =>
    if d ≠ 0x5C then ({ s with cNext := d, error := jeSyn }, jeSyn)
    else
      match rest with
      | [] => ({ s with rest := [], cNext := d, error := jeEos }, jeEos)
      | u :: rest =>
        if u ≠ 0x75 then ({ s with rest := u :: rest, cNext := u, error := jeSyn }, jeSyn)
        else
          let (s, read, low) := read4Hexdigits { s with rest := rest, cNext := u }
          if read ≠ 0 then (s, 1)
          else
            match myMbWcUtf16Quick (unitBytes high ++ unitBytes low) with
            | (4, wc) => ({ s with cNext := wc }, 0)
            | _ => ({ s with error := jeBadChr }, jeBadChr)

/-- `json_handle_esc`, after a reverse solidus: `0`, or the error it sets. -/
def jsonHandleEsc (s : JsonString) : JsonString × ℤ :=
  match s.rest with
  | [] => ({ s with error := jeEos }, jeEos)
  | c :: rest =>
    let s := { s with rest := rest, cNext := c }
    match namedEscape c with
    | some code => ({ s with cNext := code }, 0)
    | none =>
      if c < 128 ∧ jsonInstrChrMap c = sErr then
        ({ s with rest := c :: rest, error := jeEscaping }, jeEscaping)
      -- every other character than `u` is taken as it stands
      else if c ≠ 0x75 then (s, 0)
      else
        let (s, read, high) := read4Hexdigits s
        if read ≠ 0 then (s, 1)
        else
          match myMbWcUtf16Quick (unitBytes high) with
          | (2, wc) => ({ s with cNext := wc }, 0)
          | (len, _) =>
            if len ≠ myCsToosmall4 then ({ s with error := jeBadChr }, jeBadChr)
            else handleLowSurrogate high s

/-! ### Constants -/

/-- `skip_str_constant`, after the opening quote. -/
def skipStrConstant : ℕ → JsonEngine → Option (JsonEngine × Bool)
  | 0, _ => none
  | fuel + 1, j =>
    match j.s.rest with
    | [] => some (j.fail jeEos)
    | c :: rest =>
      let j := { j with s := { j.s with rest := rest, cNext := c } }
      if 128 ≤ c ∨ jsonInstrChrMap c ≤ sEtc then skipStrConstant fuel j
      else if c = 0x22 then some ({ j with state := j.top }, false)
      else if c = 0x5C then
        let (s, escaped) := jsonHandleEsc j.s
        if escaped ≠ 0 then some ({ j with s := s }, true)
        else skipStrConstant fuel { j with s := s }
      else some (j.fail jeNotJsonChr)

/-- The loop of `skip_num_constant` from the number state `state`: what is left of the text,
the last character read, the error and whether the function returns `1`. -/
def skipNumLoop (state : ℤ) (cNext : ℕ) (error : ℤ) : List ℕ → List ℕ × ℕ × ℤ × Bool
  | [] =>
    let error := jsonNumStates state .end
    ([], cNext, error, decide (error < 0))
  | c :: rest =>
    if c < 128 then
      let next := jsonNumStates state (jsonNumChrMap c)
      -- a class that leads to no state ends the number without an error
      if 0 < next then skipNumLoop next c error rest else (c :: rest, c, error, false)
    else (c :: rest, c, jeBadChr, true)

/-- `skip_num_constant`, on the first character of the number. -/
def skipNumConstant (j : JsonEngine) : JsonEngine × Bool :=
  let (rest, c, error, failed) :=
    skipNumLoop (jsonNumStates nsGo (jsonNumChrMap j.s.cNext)) j.s.cNext j.s.error j.s.rest
  let j := { j with s := ⟨rest, c, error⟩ }
  if failed then (j, true) else ({ j with state := j.top }, false)

/-- `skip_string_verbatim`. -/
def skipStringVerbatim : List ℕ → JsonString → JsonString × Bool
  | [], s => (s, false)
  | l :: lits, s =>
    match s.rest with
    | [] => ({ s with error := jeEos }, true)
    | c :: rest =>
      if c = l then skipStringVerbatim lits { s with rest := rest, cNext := c }
      else ({ s with cNext := c, error := jeSyn }, true)

/-- `v_false`, `v_null` and `v_true` up to their `json_scan_next`: the rest of the name. -/
def skipName (name : List ℕ) (j : JsonEngine) : JsonEngine × Bool :=
  let (s, failed) := skipStringVerbatim name j.s
  if failed then ({ j with s := s }, true) else ({ j with s := s, state := j.top }, false)

/-! ### Keys -/

/-- The loop of `json_read_keyname_chr` that skips spaces up to the colon after a key. -/
def skipToColon (cNext : ℕ) (error : ℤ) : List ℕ → JsonString × Bool
  | [] => (⟨[], cNext, jeEos⟩, false)
  | c :: rest =>
    if c = 0x3A then (⟨rest, c, error⟩, true)
    else if c < 128 ∧ jsonChrMap c = .space then skipToColon c error rest
    else (⟨c :: rest, c, jeSyn⟩, false)

/-- `json_read_keyname_chr`: `0` while the key goes on. -/
def jsonReadKeynameChr (j : JsonEngine) : JsonEngine × ℤ :=
  match j.s.rest with
  | [] => ({ j with s := { j.s with error := jeEos } }, 1)
  | c :: rest =>
    let j := { j with s := { j.s with rest := rest, cNext := c } }
    if 128 ≤ c ∨ jsonInstrChrMap c ≤ sEtc then (j, 0)
    else if jsonInstrChrMap c = sQuote then
      let (s, colon) := skipToColon j.s.cNext j.s.error j.s.rest
      (if colon then { j with s := s, state := .value } else { j with s := s }, 1)
    else if jsonInstrChrMap c = sBksl then
      let (s, escaped) := jsonHandleEsc j.s
      ({ j with s := s }, escaped)
    else ({ j with s := ⟨c :: rest, c, jeStringConst⟩ }, 1)

/-- `while (json_read_keyname_chr(j) == 0) {}`. -/
def readKeynameLoop : ℕ → JsonEngine → Option JsonEngine
  | 0, _ => none
  | fuel + 1, j =>
    let (j, read) := jsonReadKeynameChr j
    if read = 0 then readKeynameLoop fuel j else some j

/-! ### Handlers -/

def unexpectedEos (j : JsonEngine) : JsonEngine × Bool := j.fail jeEos
def syntaxError (j : JsonEngine) : JsonEngine × Bool := j.fail jeSyn
def notJsonChr (j : JsonEngine) : JsonEngine × Bool := j.fail jeNotJsonChr
def badChr (j : JsonEngine) : JsonEngine × Bool := j.fail jeBadChr

/-- `mark_object` and `mark_array`: enter the structure and push the state to return to. -/
def markStruct (start cont : JsonState) (j : JsonEngine) : JsonEngine × Bool :=
  let j := { j with state := start }
  if j.stack.length < jsonDepthLimit then ({ j with stack := cont :: j.stack }, false)
  else j.fail jeDepth

def markObject (j : JsonEngine) : JsonEngine × Bool := markStruct .objStart .objCont j
def markArray (j : JsonEngine) : JsonEngine × Bool := markStruct .arrayStart .arrayCont j

/-- `end_object` and `end_array`: pop the stack. -/
def endObject (j : JsonEngine) : JsonEngine × Bool :=
  ({ j with stack := j.stack.tail, state := .objEnd }, false)
def endArray (j : JsonEngine) : JsonEngine × Bool :=
  ({ j with stack := j.stack.tail, state := .arrayEnd }, false)

/-- `read_keyname`. -/
def readKeyname (j : JsonEngine) : JsonEngine × Bool := ({ j with state := .key }, false)

/-- `next_key`. -/
def nextKey (j : JsonEngine) : JsonEngine × Bool :=
  let (s, t) := getFirstNonspace j.s
  if t = .quote then ({ j with s := s, state := .key }, false)
  else { j with s := s }.fail (classError t)

def nextItem (j : JsonEngine) : JsonEngine × Bool := ({ j with state := .value }, false)

/-- `array_item`: the character read belongs to the item, so it is read again. -/
def arrayItem (j : JsonEngine) : JsonEngine × Bool :=
  ({ j with state := .value, s := { j.s with rest := j.s.cNext :: j.s.rest } }, false)

/-- `a(j) || b(j)`: run `next` when `first` returned `0`. -/
def orScan (first : JsonEngine × Bool) (next : JsonEngine → Option (JsonEngine × Bool)) :
    Option (JsonEngine × Bool) :=
  if first.2 then some first else next first.1

/-- `skip_colon`, with `act` the action table. -/
def skipColon (act : JsonState → CharClass → JsonEngine → Option (JsonEngine × Bool))
    (j : JsonEngine) : Option (JsonEngine × Bool) :=
  let (s, t) := getFirstNonspace j.s
  if t = .colon then
    let (s, t) := getFirstNonspace s
    act .value t { j with s := s }
  else some ({ j with s := s }.fail (classError t))

/-- `skip_key`, with `act` the action table: the first character of the key is read. -/
def skipKey (act : JsonState → CharClass → JsonEngine → Option (JsonEngine × Bool))
    (j : JsonEngine) : Option (JsonEngine × Bool) :=
  let (s, escaped) :=
    if j.s.cNext < 128 ∧ jsonInstrChrMap j.s.cNext = sBksl then jsonHandleEsc j.s else (j.s, 0)
  if escaped ≠ 0 then some ({ j with s := s }, true)
  else
    match readKeynameLoop (s.rest.length + 1) { j with s := s } with
    | none => none
    | some j =>
      if j.s.error ≠ 0 then some (j, true)
      else
        let (s, t) := getFirstNonspace j.s
        act .value t { j with s := s }

/-! ### The scanner -/

mutual

/-- `json_scan_next`. -/
def jsonScanNext : ℕ → JsonEngine → Option (JsonEngine × Bool)
  | 0, _ => none
  | fuel + 1, j =>
    let (s, t) := getFirstNonspace j.s
    jsonActions fuel j.state t { j with s := s }

/-- `json_actions[state][t](j)`. -/
def jsonActions : ℕ → JsonState → CharClass → JsonEngine → Option (JsonEngine × Bool)
  | 0, _, _, _ => none
  | fuel + 1, state, t, j =>
    match state, t with
    | _, .err => some (notJsonChr j)
    | _, .bad => some (badChr j)
    | .value, .eos => some (unexpectedEos j)
    | .value, .lcurb => some (markObject j)
    | .value, .lsqrb => some (markArray j)
    | .value, .quote => (skipStrConstant (j.s.rest.length + 1) j).bind (orScan · (jsonScanNext fuel))
    | .value, .digit => orScan (skipNumConstant j) (jsonScanNext fuel)
    | .value, .lowF => orScan (skipName [0x61, 0x6C, 0x73, 0x65] j) (jsonScanNext fuel)
    | .value, .lowN => orScan (skipName [0x75, 0x6C, 0x6C] j) (jsonScanNext fuel)
    | .value, .lowT => orScan (skipName [0x72, 0x75, 0x65] j) (jsonScanNext fuel)
    | .key, .eos => some (unexpectedEos j)
    | .key, .quote => skipColon (jsonActions fuel) j
    | .key, _ => skipKey (jsonActions fuel) j
    | .objStart, .eos => some (unexpectedEos j)
    | .objStart, .rcurb => some (endObject j)
    | .objStart, .quote => some (readKeyname j)
    | .objEnd, .eos => jsonActions fuel j.top .eos j
    | .objEnd, .rcurb => jsonActions fuel j.top .rcurb j
    | .objEnd, .rsqrb => jsonActions fuel j.top .rsqrb j
    | .objEnd, .comma => jsonActions fuel j.top .comma j
    | .arrayStart, .eos => some (unexpectedEos j)
    | .arrayStart, .lcurb => some (arrayItem j)
    | .arrayStart, .lsqrb => some (arrayItem j)
    | .arrayStart, .rsqrb => some (endArray j)
    | .arrayStart, .quote => some (arrayItem j)
    | .arrayStart, .digit => some (arrayItem j)
    | .arrayStart, .lowF => some (arrayItem j)
    | .arrayStart, .lowN => some (arrayItem j)
    | .arrayStart, .lowT => some (arrayItem j)
    | .arrayEnd, .eos => jsonActions fuel j.top .eos j
    | .arrayEnd, .rcurb => jsonActions fuel j.top .rcurb j
    | .arrayEnd, .rsqrb => jsonActions fuel j.top .rsqrb j
    | .arrayEnd, .comma => jsonActions fuel j.top .comma j
    | .done, .eos => some (j, true)
    | .objCont, .eos => some (unexpectedEos j)
    | .objCont, .rcurb => some (endObject j)
    | .objCont, .comma => some (nextKey j)
    | .arrayCont, .eos => some (unexpectedEos j)
    | .arrayCont, .rsqrb => some (endArray j)
    | .arrayCont, .comma => some (nextItem j)
    | _, _ => some (syntaxError j)

end

/-- `json_scan_start`. -/
def jsonScanStart (text : List ℕ) : JsonEngine := ⟨⟨text, 0, 0⟩, .value, [.done]⟩

/-- The loop of `json_valid`: scan while `json_scan_next` returns `0`, each call with
`budget` fuel. -/
def jsonValidLoop (budget : ℕ) : ℕ → JsonEngine → Option JsonEngine
  | 0, _ => none
  | rounds + 1, j =>
    match jsonScanNext budget j with
    | none => none
    | some (j, true) => some j
    | some (j, false) => jsonValidLoop budget rounds j

/-- `json_valid`: whether the scan ends with no error. -/
def jsonValid (text : List ℕ) : Option Bool :=
  (jsonValidLoop (2 * text.length + 4) (2 * text.length + 4) (jsonScanStart text)).map
    fun j => decide (j.s.error = 0)

/-! ### Escapes and numbers the scanner accepts -/

/-- `S_ERR` marks exactly the control characters. -/
theorem jsonInstrChrMap_eq_sErr {c : ℕ} : jsonInstrChrMap c = sErr ↔ c < 32 := by
  unfold jsonInstrChrMap sErr sQuote sBksl sEtc
  split_ifs <;> omega

/-- The characters `json_handle_esc` names are escape names of RFC 8259. -/
theorem namedEscape_of_not_escapeName {c : ℕ} (unnamed : c ∉ Rfc8259.escapeNames) :
    namedEscape c = none := by
  unfold namedEscape
  split <;> simp_all [Rfc8259.escapeNames]

/-- `json_handle_esc` takes every character from U+0020 on that it does not name, other than
`u`, as it stands. -/
theorem jsonHandleEsc_unnamed {s : JsonString} {c : ℕ} {rest : List ℕ} (next : s.rest = c :: rest)
    (printable : 0x20 ≤ c) (unnamed : namedEscape c = none) (notU : c ≠ 0x75) :
    jsonHandleEsc s = ({ s with rest := rest, cNext := c }, 0) := by
  have allowed : ¬ (c < 128 ∧ jsonInstrChrMap c = sErr) := by
    rw [jsonInstrChrMap_eq_sErr]
    omega
  simp only [jsonHandleEsc, next, unnamed, if_neg allowed, if_pos notU]

/-- In a string constant, a reverse solidus and such a character are skipped together. -/
theorem skipStrConstant_unnamed_escape {fuel : ℕ} {j : JsonEngine} {c : ℕ} {rest : List ℕ}
    (next : j.s.rest = 0x5C :: c :: rest) (printable : 0x20 ≤ c) (unnamed : namedEscape c = none)
    (notU : c ≠ 0x75) :
    skipStrConstant (fuel + 1) j = skipStrConstant fuel { j with s := ⟨rest, c, j.s.error⟩ } := by
  have escaped : jsonHandleEsc ⟨c :: rest, 0x5C, j.s.error⟩ = (⟨rest, c, j.s.error⟩, 0) :=
    jsonHandleEsc_unnamed rfl printable unnamed notU
  rw [skipStrConstant, next]
  simp +decide only [escaped, if_false, if_true, ne_eq]

/-- `json_valid` accepts a string of one escape of any character from U+0020 on that
RFC 8259 does not let a reverse solidus escape. -/
theorem jsonValid_unnamed_escape {c : ℕ} (printable : 0x20 ≤ c)
    (unnamed : c ∉ Rfc8259.escapeNames) : jsonValid [0x22, 0x5C, c, 0x22] = some true := by
  have notU : c ≠ 0x75 := by
    rintro rfl
    exact unnamed (by simp [Rfc8259.escapeNames])
  have body : skipStrConstant 4 ⟨⟨[0x5C, c, 0x22], 0x22, 0⟩, .value, [.done]⟩ =
      some (⟨⟨[], 0x22, 0⟩, .done, [.done]⟩, false) := by
    rw [skipStrConstant_unnamed_escape rfl printable (namedEscape_of_not_escapeName unnamed) notU]
    rfl
  -- the first call reads the string and then the end of the text, where `JST_DONE` stops
  have scan : jsonScanNext (2 * 4 + 4) (jsonScanStart [0x22, 0x5C, c, 0x22]) =
      some (⟨⟨[], 0x22, 0⟩, .done, [.done]⟩, true) := by
    show (skipStrConstant 4 ⟨⟨[0x5C, c, 0x22], 0x22, 0⟩, .value, [.done]⟩).bind
      (orScan · (jsonScanNext 10)) = _
    rw [body]
    rfl
  rw [jsonValid, List.length_cons, List.length_cons, List.length_cons, List.length_singleton,
    jsonValidLoop, scan]
  rfl

/-- `json_valid` accepts a digit followed by a decimal point: at the end of the text the
number automaton ends its fraction state with `NS_OK`, with no digit after the point. -/
theorem jsonValid_digit_point {d : ℕ} (digit : Rfc8259.IsDigit d) :
    jsonValid [d, 0x2E] = some true := by
  obtain ⟨low, high⟩ := digit
  interval_cases d <;> decide +kernel

/-- `json_valid` accepts texts that are not JSON: a string that escapes a character RFC 8259
does not let a reverse solidus escape, and a number with no digit after its decimal point. -/
theorem json_valid_accepts_non_json {c d : ℕ} (printable : 0x20 ≤ c)
    (unnamed : c ∉ Rfc8259.escapeNames) (digit : Rfc8259.IsDigit d) :
    (jsonValid [0x22, 0x5C, c, 0x22] = some true ∧
        ∀ n, ¬ Rfc8259.JsonText n [0x22, 0x5C, c, 0x22]) ∧
      (jsonValid [d, 0x2E] = some true ∧ ∀ n, ¬ Rfc8259.JsonText n [d, 0x2E]) :=
  ⟨⟨jsonValid_unnamed_escape printable unnamed,
      fun _ => Rfc8259.not_jsonText_of_bad_escape unnamed [0x22]⟩,
    ⟨jsonValid_digit_point digit, fun _ => Rfc8259.not_jsonText_digit_point digit⟩⟩

/-- `JSON_VALID('"\\a"')` and `JSON_VALID('1.')` are `1`. -/
theorem json_valid_accepts_escaped_a_and_one_point :
    (jsonValid [0x22, 0x5C, 0x61, 0x22] = some true ∧
        ∀ n, ¬ Rfc8259.JsonText n [0x22, 0x5C, 0x61, 0x22]) ∧
      (jsonValid [0x31, 0x2E] = some true ∧ ∀ n, ¬ Rfc8259.JsonText n [0x31, 0x2E]) :=
  json_valid_accepts_non_json (by decide) (by decide) ⟨by decide, by decide⟩

end MariaDB.Json
