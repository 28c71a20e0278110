import Mathlib.Data.List.TakeWhile
import Mathlib.Tactic.NormNum
import Mathlib.Tactic.Ring
import StateFlow.Library.Value

namespace StateFlow.Calendar
open Python

def leapYear (year : Nat) : Bool := year % 4 = 0 ∧ (year % 100 ≠ 0 ∨ year % 400 = 0)

def daysInMonth (year month : Nat) : Nat :=
  if month = 2 then (if leapYear year then 29 else 28)
  else if month ∈ [4, 6, 9, 11] then 30 else 31

/-- These fields make a date and a time of day. An offset counts microseconds east of UTC. -/
structure ValidTime (year month day hour minute second microsecond : Nat) (offset : Option Int) :
    Prop where
  inYears : 1 ≤ year ∧ year ≤ 9999
  inMonths : 1 ≤ month ∧ month ≤ 12
  inDays : 1 ≤ day ∧ day ≤ daysInMonth year month
  inHours : hour < 24
  inMinutes : minute < 60
  inSeconds : second < 60
  inMicros : microsecond < 1000000
  inZones : ∀ zone ∈ offset, |zone| < 86400000000

/-- A `datetime` without an offset is naive. -/
structure DateTime where
  year : Nat
  month : Nat
  day : Nat
  hour : Nat
  minute : Nat
  second : Nat
  microsecond : Nat
  offset : Option Int
  valid : ValidTime year month day hour minute second microsecond offset

theorem validTime_iff {year month day hour minute second microsecond : Nat} {offset : Option Int} :
    ((1 ≤ year ∧ year ≤ 9999) ∧ (1 ≤ month ∧ month ≤ 12) ∧
      (1 ≤ day ∧ day ≤ daysInMonth year month) ∧ hour < 24 ∧ minute < 60 ∧ second < 60 ∧
      microsecond < 1000000 ∧ ∀ zone ∈ offset, |zone| < 86400000000) ↔
    ValidTime year month day hour minute second microsecond offset :=
  ⟨fun ⟨years, months, days, hours, minutes, seconds, micros, zones⟩ =>
    ⟨years, months, days, hours, minutes, seconds, micros, zones⟩,
    fun valid => ⟨valid.inYears, valid.inMonths, valid.inDays, valid.inHours, valid.inMinutes,
      valid.inSeconds, valid.inMicros, valid.inZones⟩⟩

instance (year month day hour minute second microsecond : Nat) (offset : Option Int) :
    Decidable (ValidTime year month day hour minute second microsecond offset) :=
  decidable_of_iff _ validTime_iff

/-- The constructor of a `datetime` rejects a field out of its range. -/
def DateTime.make (year month day hour minute second microsecond : Nat) (offset : Option Int) :
    Option DateTime :=
  if valid : ValidTime year month day hour minute second microsecond offset then
    some ⟨year, month, day, hour, minute, second, microsecond, offset, valid⟩
  else none

/-- The proleptic number of a day. The first day of the first year has the number one. -/
def DateTime.toordinal (time : DateTime) : Nat :=
  let before := time.year - 1
  365 * before + before / 4 - before / 100 + before / 400
  + ((List.range (time.month - 1)).map fun month => daysInMonth time.year (month + 1)).sum
  + time.day

/-- The wall clock, in microseconds from the epoch. -/
def DateTime.wall (time : DateTime) : Int :=
  ((((time.toordinal : Int) - 719163) * 24 + time.hour) * 60 + time.minute) * 60000000
  + time.second * 1000000 + time.microsecond

/-- A naive `datetime` counts as UTC. -/
def DateTime.instant (time : DateTime) : Int := time.wall - time.offset.getD 0

/-- A number with leading zeros. -/
def pad : Nat → Nat → List Char
  | 0, _ => []
  | width + 1, number => Nat.digitChar (number / 10 ^ width % 10) :: pad width number

/-- A fraction of a second is written when it is not zero. -/
def fraction (microsecond : Nat) : List Char :=
  if microsecond = 0 then [] else '.' :: pad 6 microsecond

/-- An offset shows its seconds when they are not zero. -/
def formatOffset (offset : Int) : List Char :=
  let sign := if offset < 0 then '-' else '+'
  let micros := offset.natAbs
  let seconds := micros / 1000000
  let microsecond := micros % 1000000
  sign :: pad 2 (seconds / 3600) ++ ':' :: pad 2 (seconds / 60 % 60)
    ++ (if seconds % 60 = 0 ∧ microsecond = 0 then []
        else ':' :: pad 2 (seconds % 60) ++ fraction microsecond)

/-- `isoformat` -/
def DateTime.isoformat (time : DateTime) : List Char :=
  pad 4 time.year ++ '-' :: pad 2 time.month ++ '-' :: pad 2 time.day ++ 'T' :: pad 2 time.hour
  ++ ':' :: pad 2 time.minute ++ ':' :: pad 2 time.second ++ fraction time.microsecond
  ++ (time.offset.map formatOffset).getD []

/-- A fixed number of digits continues a number. -/
def readDigits : Nat → Nat → List Char → Option (Nat × List Char)
  | 0, number, rest => some (number, rest)
  | _ + 1, _, [] => none
  | width + 1, number, letter :: rest =>
      if letter.isDigit then readDigits width (10 * number + (letter.toNat - 48)) rest else none

/-- Three or six digits make a fraction. -/
def readFraction (letters : List Char) : Option Nat :=
  if letters.length = 3 then (readDigits 3 0 letters).map fun found => found.1 * 1000
  else if letters.length = 6 then (readDigits 6 0 letters).map Prod.fst
  else none

/-- A clock is `HH[:MM[:SS[.fff[fff]]]]`. -/
def readClock (letters : List Char) : Option (Nat × Nat × Nat × Nat) := do
  let (hour, rest) ← readDigits 2 0 letters
  match rest with
  | [] => return (hour, 0, 0, 0)
  | ':' :: rest =>
      let (minute, rest) ← readDigits 2 0 rest
      match rest with
      | [] => return (hour, minute, 0, 0)
      | ':' :: rest =>
          let (second, rest) ← readDigits 2 0 rest
          match rest with
          | [] => return (hour, minute, second, 0)
          | '.' :: rest => return (hour, minute, second, ← readFraction rest)
          | _ => none
      | _ => none
  | _ => none

/-- An offset is a sign and `HH:MM[:SS[.ffffff]]`. -/
def readOffset : List Char → Option Int
  | [] => none
  | sign :: letters => do
      if letters.length ∉ [5, 8, 15] then none
      let (hour, minute, second, microsecond) ← readClock letters
      let micros : Int := ((hour * 60 + minute) * 60 + second) * 1000000 + microsecond
      return if sign = '-' then -micros else micros

/-- A sign starts the offset of a time. -/
def signed (letter : Char) : Bool := letter = '+' || letter = '-'

def readTime (letters : List Char) : Option ((Nat × Nat × Nat × Nat) × Option Int) := do
  let clock ← readClock (letters.takeWhile fun letter => !signed letter)
  match letters.dropWhile fun letter => !signed letter with
  | [] => return (clock, none)
  | rest => return (clock, some (← readOffset rest))

/-- `fromisoformat` reads `YYYY-MM-DD[*HH[:MM[:SS[.fff[fff]]]][+HH:MM[:SS[.ffffff]]]]`. -/
def fromisoformat (letters : List Char) : Option DateTime := do
  let (year, rest) ← readDigits 4 0 letters
  match rest with
  | '-' :: rest =>
      let (month, rest) ← readDigits 2 0 rest
      match rest with
      | '-' :: rest =>
          let (day, rest) ← readDigits 2 0 rest
          match rest with
          | [] | [_] => DateTime.make year month day 0 0 0 0 none
          | _ :: rest =>
              let ((hour, minute, second, microsecond), offset) ← readTime rest
              DateTime.make year month day hour minute second microsecond offset
      | _ => none
  | _ => none

section Digits

theorem digitChar_digit (digit : Fin 10) :
    (Nat.digitChar digit).isDigit = true ∧ (Nat.digitChar digit).toNat - 48 = digit := by
  decide +revert

theorem length_pad (width number : Nat) : (pad width number).length = width := by
  induction width with
  | zero => rfl
  | succ width ih => rw [pad, List.length_cons, ih]

theorem isDigit_of_mem_pad {width number : Nat} {letter : Char} (member : letter ∈ pad width number) :
    letter.isDigit = true := by
  induction width with
  | zero => cases member
  | succ width ih =>
      rcases List.mem_cons.mp member with rfl | later
      · exact (digitChar_digit ⟨_, Nat.mod_lt _ (by norm_num)⟩).1
      · exact ih later

/-- Padded digits are read back in front of any rest. -/
theorem readDigits_pad (width start number : Nat) (rest : List Char) :
    readDigits width start (pad width number ++ rest) =
      some (start * 10 ^ width + number % 10 ^ width, rest) := by
  induction width generalizing start with
  | zero => simp [readDigits, pad, Nat.mod_one]
  | succ width ih =>
      obtain ⟨isDigit, value⟩ :=
        digitChar_digit ⟨number / 10 ^ width % 10, Nat.mod_lt _ (by norm_num)⟩
      simp only at isDigit value
      rw [pad, List.cons_append, readDigits, if_pos isDigit, value, ih, Nat.mod_pow_succ]
      congr 2
      ring

theorem readDigits_two {number : Nat} (small : number < 100) (rest : List Char) :
    readDigits 2 0 (pad 2 number ++ rest) = some (number, rest) := by
  rw [readDigits_pad, Nat.mod_eq_of_lt (by norm_num; exact small), zero_mul, zero_add]

theorem readFraction_pad {microsecond : Nat} (small : microsecond < 1000000) :
    readFraction (pad 6 microsecond) = some microsecond := by
  have read := readDigits_pad 6 0 microsecond []
  rw [List.append_nil, Nat.mod_eq_of_lt (by norm_num; exact small), zero_mul, zero_add] at read
  rw [readFraction, length_pad, if_neg (by norm_num), if_pos rfl, read]
  rfl

end Digits

section Clock
variable {hour minute second microsecond : Nat}

/-- A clock with its seconds is read back. -/
theorem readClock_full (hours : hour < 100) (minutes : minute < 100) (seconds : second < 100)
    (micros : microsecond < 1000000) :
    readClock (pad 2 hour ++ ':' :: pad 2 minute ++ ':' :: pad 2 second ++ fraction microsecond) =
      some (hour, minute, second, microsecond) := by
  simp only [List.append_assoc, List.cons_append]
  unfold readClock
  rw [readDigits_two hours, Option.bind_eq_bind, Option.bind_some]
  simp only [readDigits_two minutes, Option.bind_eq_bind, Option.bind_some]
  simp only [readDigits_two seconds, Option.bind_some]
  unfold fraction
  by_cases none : microsecond = 0
  · rw [if_pos none, none]
    rfl
  · rw [if_neg none]
    simp only [readFraction_pad micros, Option.bind_some]
    rfl

theorem readClock_short (hours : hour < 100) (minutes : minute < 100) :
    readClock (pad 2 hour ++ ':' :: pad 2 minute) = some (hour, minute, 0, 0) := by
  have read := readDigits_two minutes []
  rw [List.append_nil] at read
  unfold readClock
  rw [readDigits_two hours, Option.bind_eq_bind, Option.bind_some]
  simp only [read, Option.bind_eq_bind, Option.bind_some]
  rfl

/-- No letter of a clock starts an offset. -/
theorem unsigned_clock {letter : Char}
    (member : letter ∈ pad 2 hour ++ ':' :: pad 2 minute ++ ':' :: pad 2 second
      ++ fraction microsecond) : (!signed letter) = true := by
  have digit (width number : Nat) (inside : letter ∈ pad width number) :
      (!signed letter) = true := by
    have digits := isDigit_of_mem_pad inside
    unfold signed
    by_contra starts
    simp only [Bool.not_eq_true', Bool.or_eq_false_iff, decide_eq_false_iff_not, not_and_or,
      not_not] at starts
    rcases starts with rfl | rfl <;> cases digits
  simp only [List.mem_append, List.mem_cons] at member
  rcases member with ((hours | rfl | minutes) | rfl | seconds) | rest
  · exact digit _ _ hours
  · rfl
  · exact digit _ _ minutes
  · rfl
  · exact digit _ _ seconds
  · unfold fraction at rest
    split at rest
    · cases rest
    · rcases List.mem_cons.mp rest with rfl | micros
      · rfl
      · exact digit _ _ micros

end Clock

/-- A formatted offset is read back. -/
theorem readOffset_format {offset : Int} (inside : |offset| < 86400000000) :
    readOffset (formatOffset offset) = some offset := by
  have small : offset.natAbs < 86400000000 := by
    rw [Int.abs_eq_natAbs] at inside
    exact_mod_cast inside
  have value : (if (if offset < 0 then '-' else '+') = '-' then -(offset.natAbs : Int)
      else offset.natAbs) = offset := by
    by_cases negative : offset < 0
    · rw [if_pos negative, if_pos rfl]
      omega
    · rw [if_neg negative, if_neg (by decide)]
      omega
  unfold formatOffset
  simp only
  by_cases short : offset.natAbs / 1000000 % 60 = 0 ∧ offset.natAbs % 1000000 = 0
  · rw [if_pos short, List.append_nil, List.cons_append]
    unfold readOffset
    simp only [List.length_append, List.length_cons, length_pad]
    rw [if_neg (by decide), readClock_short (by omega) (by omega)]
    simp only [Option.pure_def, Option.bind_eq_bind, Option.bind_some]
    rw [show ((((offset.natAbs / 1000000 / 3600 : Nat) : Int) * 60
      + (offset.natAbs / 1000000 / 60 % 60 : Nat)) * 60 + (0 : Nat)) * 1000000 + (0 : Nat)
        = offset.natAbs by omega]
    exact congrArg some value
  · rw [if_neg short]
    have letters : (if offset < 0 then '-' else '+') :: pad 2 (offset.natAbs / 1000000 / 3600)
        ++ ':' :: pad 2 (offset.natAbs / 1000000 / 60 % 60)
        ++ (':' :: pad 2 (offset.natAbs / 1000000 % 60) ++ fraction (offset.natAbs % 1000000)) =
      (if offset < 0 then '-' else '+') :: (pad 2 (offset.natAbs / 1000000 / 3600)
        ++ ':' :: pad 2 (offset.natAbs / 1000000 / 60 % 60)
        ++ ':' :: pad 2 (offset.natAbs / 1000000 % 60) ++ fraction (offset.natAbs % 1000000)) := by
      simp only [List.append_assoc, List.cons_append]
    rw [letters]
    unfold readOffset
    have length : (pad 2 (offset.natAbs / 1000000 / 3600)
        ++ ':' :: pad 2 (offset.natAbs / 1000000 / 60 % 60)
        ++ ':' :: pad 2 (offset.natAbs / 1000000 % 60)
        ++ fraction (offset.natAbs % 1000000)).length ∈ [5, 8, 15] := by
      simp only [List.length_append, List.length_cons, length_pad]
      unfold fraction
      split
      · decide
      · rw [List.length_cons, length_pad]
        decide
    simp only
    rw [if_neg (not_not.mpr length), readClock_full (by omega) (by omega) (by omega) (by omega)]
    simp only [Option.pure_def, Option.bind_eq_bind, Option.bind_some]
    rw [show ((((offset.natAbs / 1000000 / 3600 : Nat) : Int) * 60
      + (offset.natAbs / 1000000 / 60 % 60 : Nat)) * 60 + (offset.natAbs / 1000000 % 60 : Nat))
        * 1000000 + (offset.natAbs % 1000000 : Nat) = offset.natAbs by omega]
    exact congrArg some value

theorem formatOffset_cons (offset : Int) :
    ∃ sign rest, formatOffset offset = sign :: rest ∧ signed sign = true := by
  refine ⟨if offset < 0 then '-' else '+', _, rfl, ?_⟩
  split <;> rfl

/-- A formatted time is read back with its offset. -/
theorem readTime_format (time : DateTime) :
    readTime (pad 2 time.hour ++ ':' :: pad 2 time.minute ++ ':' :: pad 2 time.second
      ++ fraction time.microsecond ++ (time.offset.map formatOffset).getD []) =
    some ((time.hour, time.minute, time.second, time.microsecond), time.offset) := by
  have valid := time.valid
  have read := readClock_full (lt_trans valid.inHours (by norm_num))
    (lt_trans valid.inMinutes (by norm_num)) (lt_trans valid.inSeconds (by norm_num)) valid.inMicros
  have unsigned : ∀ letter ∈ pad 2 time.hour ++ ':' :: pad 2 time.minute
      ++ ':' :: pad 2 time.second ++ fraction time.microsecond, (!signed letter) = true :=
    fun letter member => unsigned_clock member
  generalize pad 2 time.hour ++ ':' :: pad 2 time.minute ++ ':' :: pad 2 time.second
    ++ fraction time.microsecond = clock at read unsigned ⊢
  unfold readTime
  rw [List.takeWhile_append_of_pos unsigned, List.dropWhile_append_of_pos unsigned]
  cases zone : time.offset with
  | none =>
      simp only [Option.map_none, Option.getD_none, List.takeWhile_nil, List.dropWhile_nil,
        List.append_nil, read]
      rfl
  | some offset =>
      obtain ⟨sign, rest, format, starts⟩ := formatOffset_cons offset
      have back := readOffset_format (valid.inZones offset zone)
      rw [format] at back
      simp only [Option.map_some, Option.getD_some, format]
      rw [List.takeWhile_cons_of_neg (by simp [starts]), List.append_nil, read,
        List.dropWhile_cons_of_neg (by simp [starts])]
      simp only [back]
      rfl

/-- `fromisoformat` reads back what `isoformat` writes. -/
theorem fromisoformat_isoformat (time : DateTime) : fromisoformat time.isoformat = some time := by
  have valid := time.valid
  have year := readDigits_pad 4 0 time.year
  rw [Nat.mod_eq_of_lt (lt_of_le_of_lt valid.inYears.2 (by norm_num)), zero_mul, zero_add] at year
  have days : time.day < 100 := by
    have most : daysInMonth time.year time.month ≤ 31 := by
      unfold daysInMonth
      split_ifs <;> norm_num
    exact lt_of_le_of_lt (le_trans valid.inDays.2 most) (by norm_num)
  have months := lt_of_le_of_lt valid.inMonths.2 (by norm_num : 12 < 100)
  have format := readTime_format time
  unfold DateTime.isoformat
  simp only [List.append_assoc, List.cons_append] at format ⊢
  unfold fromisoformat
  rw [year, Option.bind_eq_bind, Option.bind_some]
  simp only [readDigits_two months, readDigits_two days, Option.bind_eq_bind, Option.bind_some]
  obtain ⟨letter, rest, clock⟩ : ∃ letter rest, pad 2 time.hour ++ ':' :: (pad 2 time.minute
      ++ ':' :: (pad 2 time.second ++ (fraction time.microsecond
        ++ (time.offset.map formatOffset).getD []))) = letter :: rest := ⟨_, _, rfl⟩
  rw [clock] at format ⊢
  simp only [format, Option.bind_some]
  exact dif_pos valid

/-- A formatted time has no Zulu suffix. -/
theorem isoformat_ne_zulu {time : DateTime} {letter : Char} (member : letter ∈ time.isoformat) :
    letter ≠ 'Z' := by
  have digit {width number : Nat} (inside : letter ∈ pad width number) : letter ≠ 'Z' := by
    rintro rfl
    cases isDigit_of_mem_pad inside
  have part {microsecond : Nat} (inside : letter ∈ fraction microsecond) : letter ≠ 'Z' := by
    unfold fraction at inside
    split at inside
    · cases inside
    · rcases List.mem_cons.mp inside with rfl | micros
      · decide
      · exact digit micros
  have zone (inside : letter ∈ (time.offset.map formatOffset).getD []) : letter ≠ 'Z' := by
    cases offset : time.offset with
    | none => rw [offset] at inside; cases inside
    | some value =>
        rw [offset, Option.map_some, Option.getD_some, formatOffset] at inside
        simp only [List.mem_append, List.mem_cons] at inside
        rcases inside with ((rfl | hours) | rfl | minutes) | seconds
        · split <;> decide
        · exact digit hours
        · decide
        · exact digit minutes
        · split at seconds
          · cases seconds
          · rcases List.mem_append.mp seconds with full | micros
            · rcases List.mem_cons.mp full with rfl | seconds
              · decide
              · exact digit seconds
            · exact part micros
  unfold DateTime.isoformat at member
  simp only [List.mem_append, List.mem_cons] at member
  rcases member with ((((((year | rfl | month) | rfl | day) | rfl | hour) | rfl | minute)
    | rfl | second) | micros) | offset
  · exact digit year
  · decide
  · exact digit month
  · decide
  · exact digit day
  · decide
  · exact digit hour
  · decide
  · exact digit minute
  · decide
  · exact digit second
  · exact part micros
  · exact zone offset

end StateFlow.Calendar
