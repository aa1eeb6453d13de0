/-
What the readers of `my_time.c` do on numerals.

A field of a temporal string is a run of digits, which `get_number` accumulates in a `uint`:
a run of `w` digits for the number `n` gives `n` modulo `2 ^ 32`. The lemmas here say what each
reader does on such a run followed by a separator, and put them together into the reading of a
whole `YYYY-MM-DD` date by `str_to_datetime_or_date`. A year of ten digits or more is read
modulo `2 ^ 32` with no warning: when the residue is a year of the range, the date is accepted
with another year than the one written.
-/

import MariaDB.Temporal.Text

namespace MariaDB.Temporal

open DecimalText

/-! ### Single readers -/

section Readers

variable {t : MysqlTime} {fields w n : ℕ} {rest : List ℕ}

theorem padded_eq_cons (positive : 0 < w) :
    ∃ c s, padded w n = c :: s ∧ isDigit c = true := by
  cases split : padded w n with
  | nil =>
    have empty := congrArg List.length split
    rw [length_padded, List.length_nil] at empty
    omega
  | cons c s => exact ⟨c, s, rfl, isDigit_of_mem_padded (split ▸ List.mem_cons_self)⟩

/-- `get_number` reads a numeral back, in `uint` arithmetic. -/
theorem getNumber_padded {val : ℕ} (positive : 0 < w) (small : n < 10 ^ w)
    (stop : StartsWithNonDigit rest) :
    getNumber val fields (padded w n ++ rest) = (false, n % 2 ^ 32, fields + 1, rest) := by
  have read := @readDigits_padded (2 ^ 32) 0 w n rest (by decide) stop
  obtain ⟨c, s, split, digit⟩ := @padded_eq_cons w n positive
  have low : c - 0x30 < 2 ^ 32 := by
    simp only [isDigit, Bool.and_eq_true, decide_eq_true_eq] at digit
    omega
  rw [split, List.cons_append, readDigits, if_pos digit, Nat.zero_mul, Nat.zero_add,
    Nat.mod_eq_of_lt low, Nat.zero_mul, Nat.zero_add, Nat.mod_eq_of_lt small] at read
  rw [split, List.cons_append, getNumber, myIsdigit, if_pos digit, read]

/-- `get_number` into a part of the value reads a numeral back, in `uint` arithmetic. -/
theorem numberInto_padded (part : Part) (positive : 0 < w) (small : n < 10 ^ w)
    (stop : StartsWithNonDigit rest) :
    numberInto part ⟨t, padded w n ++ rest, fields⟩ =
      (⟨t.set part (n % 2 ^ 32), rest, fields + 1⟩, false) := by
  rw [numberInto, getNumber_padded positive small stop]

@[simp] theorem MysqlTime.set_get (part : Part) : t.set part (t.get part) = t := by
  cases part <;> rfl

/-- At the end of the string `get_number` reads nothing and counts no field. -/
theorem numberInto_nil (part : Part) : numberInto part ⟨t, [], fields⟩ = (⟨t, [], fields⟩, false) := by
  rw [numberInto, getNumber]
  simp

theorem getPunct_nil : getPunct ⟨t, [], fields⟩ = (⟨t, [], fields⟩, false) := rfl

theorem getPunct_cons {c : ℕ} (punct : myIspunct c = true) :
    getPunct ⟨t, c :: rest, fields⟩ = (⟨t, rest, fields⟩, false) := by
  dsimp only [getPunct]
  rw [if_pos punct]

theorem getDateTimeSeparator_nil (separator : Bool) :
    getDateTimeSeparator separator ⟨t, [], fields⟩ = (⟨t, [], fields⟩, false) := rfl

theorem myIsspace_of_isDigit {c : ℕ} (digit : isDigit c = true) : myIsspace c = false := by
  simp only [isDigit, Bool.and_eq_true, decide_eq_true_eq] at digit
  simp only [myIsspace, Bool.or_eq_false_iff, Bool.and_eq_false_iff, decide_eq_false_iff_not,
    beq_eq_false_iff_ne, ne_eq]
  omega

/-- A space between the date and the time, before the hours. -/
theorem getDateTimeSeparator_space (separator : Bool) (positive : 0 < w) :
    getDateTimeSeparator separator ⟨t, 0x20 :: (padded w n ++ rest), fields⟩ =
      (⟨t, padded w n ++ rest, fields⟩, false) := by
  obtain ⟨c, s, split, digit⟩ := @padded_eq_cons w n positive
  have notSpace := myIsspace_of_isDigit digit
  dsimp only [getDateTimeSeparator]
  simp only [show (0x20 : ℕ) ≠ 0x54 by decide, if_false, show myIspunct 0x20 = false by decide,
    Bool.false_eq_true, show myIsspace 0x20 = true by decide, if_true, split, List.cons_append,
    List.dropWhile_cons, notSpace]

/-- A punctuation character where the time should start stops the date reading and clears
`number_of_fields`, unless punctuation may separate the date from the time. -/
theorem getDateTimeSeparator_punct {c : ℕ} (punct : myIspunct c = true) (notT : c ≠ 0x54) :
    getDateTimeSeparator false ⟨t, c :: rest, fields⟩ = (⟨t, c :: rest, 0⟩, true) := by
  dsimp only [getDateTimeSeparator]
  rw [if_neg notT, if_pos punct]
  rfl

theorem orElse_cons_of_ok {σ : Type} {step : σ → σ × Bool} {steps : List (σ → σ × Bool)}
    {s s' : σ} (ok : step s = (s', false)) : orElse (step :: steps) s = orElse steps s' := by
  rw [orElse, ok]
  rfl

theorem orElse_cons_of_failed {σ : Type} {step : σ → σ × Bool} {steps : List (σ → σ × Bool)}
    {s s' : σ} (failed : step s = (s', true)) : orElse (step :: steps) s = (s', true) := by
  rw [orElse, failed]
  rfl

theorem skipDigits_padded (stop : StartsWithNonDigit rest) :
    skipDigits (padded w n ++ rest) = (w, rest) := by
  rw [skipDigits, show myIsdigit = isDigit from rfl, takeWhile_isDigit_padded stop,
    dropWhile_isDigit_padded stop, length_padded]

/-- A field followed by a separator that is not a digit, a `T` or a point does not have the
numeric layout. -/
theorem numericLayout_padded {c : ℕ} (notDigit : isDigit c = false) (notT : c ≠ 0x54)
    (notPoint : c ≠ 0x2E) : numericLayout (padded w n ++ c :: rest) = (w, c :: rest) := by
  have stop : StartsWithNonDigit (c :: rest) := fun d member => by
    cases member
    exact notDigit
  rw [numericLayout, skipDigits_padded stop]
  dsimp only
  split <;> simp_all

end Readers

/-! ### A whole date -/

section Date

variable {t : MysqlTime} {fields : ℕ}

/-- The text `-MM-DD` after the year. -/
def monthDayText (month day : ℕ) : List ℕ := 0x2D :: (padded 2 month ++ 0x2D :: padded 2 day)

/-- After the year, the delimited readers take `-MM-DD` and nothing follows. -/
theorem orElse_delimitedReaders_date (separator : Bool) {m d : ℕ} (month : m < 100)
    (day : d < 100) :
    orElse (delimitedReaders separator) ⟨t, monthDayText m d, fields⟩ =
      (⟨(t.set .month m).set .day d, [], fields + 2⟩, false) := by
  have dash : StartsWithNonDigit (0x2D :: padded 2 d) := startsWithNonDigit_cons _ (by decide)
  rw [delimitedReaders, monthDayText, orElse_cons_of_ok (getPunct_cons (by decide)),
    orElse_cons_of_ok (numberInto_padded .month (by decide) month dash),
    orElse_cons_of_ok (getPunct_cons (by decide)), ← List.append_nil (padded 2 d),
    orElse_cons_of_ok (numberInto_padded .day (by decide) day startsWithNonDigit_nil),
    orElse_cons_of_ok (getDateTimeSeparator_nil separator),
    orElse_cons_of_ok (numberInto_nil .hour), orElse_cons_of_ok getPunct_nil,
    orElse_cons_of_ok (numberInto_nil .minute), orElse_cons_of_ok getPunct_nil,
    orElse_cons_of_ok (numberInto_nil .second), Nat.mod_eq_of_lt (by omega : m < 2 ^ 32),
    Nat.mod_eq_of_lt (by omega : d < 2 ^ 32)]
  rfl

/-- `str_to_datetime_or_date_body` on `Y...Y-MM-DD`: the year as `get_number` reads it, the
month and the day, three fields and nothing left. -/
theorem strToDatetimeOrDateBody_date {w y m d flags : ℕ} (separator : Bool)
    (status : MysqlTimeStatus) (positive : 0 < w) (small : y < 10 ^ w) (month : m < 100)
    (day : d < 100) :
    strToDatetimeOrDateBody (padded w y ++ monthDayText m d) flags separator status =
      finishDatetimeOrDateBody
        ⟨{ setZeroTime .date with year := y % 2 ^ 32, month := m, day := d }, [], 3⟩ 0 w flags
        status := by
  have dash : StartsWithNonDigit (monthDayText m d) := startsWithNonDigit_cons _ (by decide)
  have yearLength : (padded w y ++ monthDayText m d).length - (monthDayText m d).length = w := by
    rw [List.length_append, length_padded, Nat.add_sub_cancel]
  have layout : numericLayout (padded w y ++ monthDayText m d) = (w, monthDayText m d) :=
    numericLayout_padded (by decide) (by decide) (by decide)
  unfold strToDatetimeOrDateBody
  rw [layout]
  dsimp only
  have nonempty : monthDayText m d ≠ [] := List.cons_ne_nil _ _
  rw [if_neg nonempty, numberInto_padded .year positive small dash]
  dsimp only
  rw [yearLength, if_neg Bool.false_ne_true, orElse_delimitedReaders_date separator month day]
  simp only [Bool.false_eq_true, if_false, Nat.or_zero, Nat.lt_irrefl]
  rfl

/-- The end of the date reading when nothing follows the fields, the year has more than two
digits and every part is in range: `check_date` decides, and the value is a `DATE` for three
fields. -/
theorem finishDatetimeOrDateBody_ended {scan : Scan} {yearLength flags warnings : ℕ}
    {status : MysqlTimeStatus} (ended : scan.str = []) (wide : yearLength ≠ 2)
    (inRange : scan.time.year ≤ 9999 ∧ scan.time.month ≤ 12 ∧ scan.time.day ≤ 31 ∧
      scan.time.hour ≤ 23 ∧ scan.time.minute ≤ 59 ∧ scan.time.second ≤ 59)
    (check : checkDate scan.time scan.time.notZero flags status.warnings = (false, warnings)) :
    finishDatetimeOrDateBody scan 0 yearLength flags status =
      ⟨false, { scan.time with timeType := if scan.fields ≤ 3 then .date else .datetime },
        { status with warnings }, scan.fields, []⟩ := by
  obtain ⟨time, str, fields⟩ := scan
  dsimp only at ended inRange check
  subst ended
  unfold finishDatetimeOrDateBody
  dsimp only
  have century : ¬ (yearLength = 2 ∧ time.notZero = true) := fun both => wide both.1
  rw [if_neg century, if_neg (by omega), check]
  simp

end Date

/-! ### Reading a value -/

section Body

/-- Nothing but digits at both ends of the string. -/
structure DigitEnds (str : List ℕ) : Prop where
  head : ∀ c ∈ str.head?, isDigit c = true
  last : ∀ c ∈ str.getLast?, isDigit c = true
  nonempty : str ≠ []

theorem getSuffix_of_digitEnds {str : List ℕ} (ends : DigitEnds str) : getSuffix str = (false, str) := by
  obtain ⟨c, before, reversed⟩ := List.exists_cons_of_ne_nil (List.reverse_ne_nil_iff.mpr ends.nonempty)
  have digit : isDigit c = true := by
    apply ends.last
    rw [← List.head?_reverse, reversed]
    rfl
  rw [getSuffix, reversed]
  dsimp only
  rw [getSuffixLoop, if_pos (by simp [myIsdigit, digit]), ← reversed, List.reverse_reverse]

theorem dropWhile_myIsspace_of_digitEnds {str : List ℕ} (ends : DigitEnds str) :
    str.dropWhile myIsspace = str := by
  obtain ⟨c, rest, rfl⟩ := List.exists_cons_of_ne_nil ends.nonempty
  simp [myIsspace_of_isDigit (ends.head c rfl)]

/-- `find_body` keeps a string of digits at both ends as it is, with no sign and no warning. -/
theorem findBody_of_digitEnds {str : List ℕ} (ends : DigitEnds str) :
    findBody str = some (false, 0, str) := by
  obtain ⟨c, rest, split⟩ := List.exists_cons_of_ne_nil ends.nonempty
  have digit : isDigit c = true := ends.head c (by rw [split]; rfl)
  have sign : getSign str = (false, str) := by
    have notSign : c ≠ 0x2D ∧ c ≠ 0x2B := by
      simp only [isDigit, Bool.and_eq_true, decide_eq_true_eq] at digit
      omega
    rw [split, getSign, if_neg notSign.1, if_neg notSign.2]
  unfold findBody
  rw [dropWhile_myIsspace_of_digitEnds ends]
  dsimp only
  rw [sign]
  dsimp only
  rw [dropWhile_myIsspace_of_digitEnds ends, getSuffix_of_digitEnds ends]
  dsimp only
  rw [split]
  simp [myIsdigit, digit]

theorem digitEnds_padded_append {w n : ℕ} {rest : List ℕ} (positive : 0 < w)
    (last : ∀ c ∈ (padded w n ++ rest).getLast?, isDigit c = true) :
    DigitEnds (padded w n ++ rest) := by
  obtain ⟨c, s, split, digit⟩ := @padded_eq_cons w n positive
  refine ⟨?_, last, ?_⟩
  · rw [split, List.cons_append]
    intro d member
    cases member
    exact digit
  · rw [split, List.cons_append]
    exact List.cons_ne_nil _ _

end Body

/-! ### Over-long fields -/

/-- A year of ten digits or more is read modulo `2 ^ 32`: when what is left is a year of the
range, `str_to_datetime_or_date` accepts the date with that year and no warning, whatever the
flags. -/
theorem strToDatetimeOrDate_wraps_year (n flags : ℕ) (big : 2 ^ 32 ≤ n)
    (lands : n % 2 ^ 32 ≤ 9999) :
    strToDatetimeOrDate (decimal n ++ [0x2D, 0x30, 0x31, 0x2D, 0x30, 0x31]) flags =
        ⟨false, ⟨n % 2 ^ 32, 1, 1, 0, 0, 0, 0, false, .date⟩, ⟨0, 0, 0⟩⟩ ∧
      n % 2 ^ 32 ≠ n := by
  have text : decimal n ++ [0x2D, 0x30, 0x31, 0x2D, 0x30, 0x31] =
      padded (Nat.log 10 n + 1) n ++ monthDayText 1 1 := rfl
  have ends : DigitEnds (padded (Nat.log 10 n + 1) n ++ monthDayText 1 1) :=
    digitEnds_padded_append (Nat.succ_pos _) (by simp [monthDayText, padded, digitByte, isDigit])
  -- ten digits at least, so no century is added
  have wide : Nat.log 10 n + 1 ≠ 2 := by
    have : 9 ≤ Nat.log 10 n := Nat.le_log_of_pow_le (by decide) (by omega)
    omega
  have check : ∀ y, let t := { setZeroTime .date with year := y, month := 1, day := 1 }
      checkDate t t.notZero flags 0 = (false, 0) := by
    intro y t
    simp [t, checkDate, MysqlTime.notZero, setZeroTime, daysInMonth]
  have body := @strToDatetimeOrDateBody_date (Nat.log 10 n + 1) n 1 1 flags true
    { myTimeStatusInit with warnings := 0 } (Nat.succ_pos _) (lt_pow_log_succ n)
    (by decide : 1 < 100) (by decide : 1 < 100)
  rw [finishDatetimeOrDateBody_ended rfl wide
    (by dsimp only [setZeroTime]; exact ⟨lands, by decide⟩) (check _)] at body
  refine ⟨?_, ?_⟩
  · rw [text, strToDatetimeOrDate, findBody_of_digitEnds ends]
    dsimp only
    rw [body]
    rfl
  · have : n % 2 ^ 32 < 2 ^ 32 := Nat.mod_lt _ (by decide)
    omega

theorem strToDatetimeOrDate_wraps_year_4294967297 :
    (2 : ℕ) ^ 32 ≤ 4294967297 ∧ 4294967297 % 2 ^ 32 ≤ 9999 ∧
      strToDatetimeOrDate (decimal 4294967297 ++ [0x2D, 0x30, 0x31, 0x2D, 0x30, 0x31]) 0 =
          ⟨false, ⟨4294967297 % 2 ^ 32, 1, 1, 0, 0, 0, 0, false, .date⟩, ⟨0, 0, 0⟩⟩ ∧
        4294967297 % 2 ^ 32 ≠ 4294967297 :=
  ⟨by decide, by decide, strToDatetimeOrDate_wraps_year 4294967297 0 (by decide) (by decide)⟩

end MariaDB.Temporal
