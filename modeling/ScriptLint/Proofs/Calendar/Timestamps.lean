import ScriptLint.Calendar.Timestamp
import ScriptLint.Proofs.Calendar.Dates
import ScriptLint.Proofs.Text.Digits
import ScriptLint.Proofs.Text.Divisions

/-!
# Reading written timestamps

The timestamp of an instant is read as the instant, to the nanosecond, in every kept year and for
leap seconds too.  Each part is read off by itself, because it is written with digits that the
mark behind it does not continue.
-/

namespace ScriptLint.Calendar

open Text

/-- Whether no digit stands at the front of a text. -/
def EndsDigits (rest : List Char) : Prop :=
  ∀ c ∈ rest.head?, c.isDigit = false

theorem endsDigits_cons {c : Char} (noDigit : c.isDigit = false) (rest : List Char) :
    EndsDigits (c :: rest) := by
  intro other atHead
  obtain rfl : c = other := Option.some.inj atHead
  exact noDigit

theorem EndsDigits.take {rest : List Char} (ends : EndsDigits rest) (most : Nat) :
    EndsDigits (rest.take most) := by
  intro c atHead
  rw [List.head?_take] at atHead
  split at atHead
  · cases atHead
  · exact ends c atHead

theorem length_padded {width n : Nat} (positive : 0 < width) (fits : n < 10 ^ width) :
    (padded width n).length = width := by
  have short := (Nat.length_toDigits_le_iff (n := n) (by decide) positive).mpr fits
  rw [padded]
  simp only [Nat.toString_eq_repr, Nat.toList_repr, List.length_append, List.length_replicate]
  omega

theorem width_le_length_padded (width n : Nat) : width ≤ (padded width n).length := by
  rw [padded]
  simp only [List.length_append, List.length_replicate]
  omega

theorem isDigit_of_mem_padded (width n : Nat) : ∀ c ∈ padded width n, c.isDigit = true := by
  intro c member
  rw [padded] at member
  simp only [Nat.toString_eq_repr, Nat.toList_repr, List.mem_append, List.mem_replicate] at member
  rcases member with ⟨-, rfl⟩ | inDigits
  · decide
  · exact isDigit_of_mem_toDigits n c inDigits

theorem decimalValue_padded (width n : Nat) : decimalValue (padded width n) = n := by
  have value : Nat.ofDigitChars 10 (padded width n) 0 = n := by
    simp [padded, Nat.ofDigitChars_append]
  rw [Nat.ofDigitChars_eq_foldl] at value
  simpa only [decimalValue, Nat.mul_comm, Char.reduceToNat] using value

theorem take_append_of_le {run rest : List Char} {most : Nat} (short : run.length ≤ most) :
    (run ++ rest).take most = run ++ rest.take (most - run.length) := by
  rw [List.take_append, List.take_of_length_le short]

/-- A padded number is read as the number when its width is allowed and no digit follows. -/
theorem readNumber?_padded {least most width n : Nat} {rest : List Char}
    (long : least ≤ (padded width n).length) (short : (padded width n).length ≤ most)
    (small : n < 2 ^ 63) (ends : EndsDigits rest) :
    readNumber? least most (padded width n ++ rest) = some (n, rest) := by
  have digits : ((padded width n ++ rest).take most).takeWhile Char.isDigit = padded width n := by
    rw [take_append_of_le short,
      takeWhile_append_of_stops (isDigit_of_mem_padded width n) (ends.take _)]
  rw [readNumber?]
  simp only [digits, decimalValue_padded, List.drop_left, Nat.pow_eq]
  rw [if_neg (by omega)]

theorem trimStart_cons {c : Char} (notBlank : isBlank c = false) (rest : List Char) :
    trimStart (c :: rest) = c :: rest :=
  List.dropWhile_cons_of_neg (by simp [notBlank])

theorem exists_padded_eq_cons {width : Nat} (n : Nat) (positive : 0 < width) :
    ∃ first later, padded width n = first :: later ∧ first.isDigit = true := by
  have long := width_le_length_padded width n
  cases digits : padded width n with
  | nil =>
      rw [digits, List.length_nil] at long
      omega
  | cons first later =>
      exact ⟨first, later, rfl, isDigit_of_mem_padded width n first (by simp [digits])⟩

theorem trimStart_padded {width n : Nat} (positive : 0 < width) (rest : List Char) :
    trimStart (padded width n ++ rest) = padded width n ++ rest := by
  obtain ⟨first, later, digits, digit⟩ := exists_padded_eq_cons n positive
  rw [digits, List.cons_append, trimStart_cons (isBlank_eq_false_of_isDigit digit)]

theorem readShort?_padded {n : Nat} {rest : List Char} (small : n < 100)
    (ends : EndsDigits rest) : readShort? (padded 2 n ++ rest) = some (n, rest) := by
  have width : (padded 2 n).length = 2 := length_padded (by decide) small
  rw [readShort?, trimStart_padded (by decide)]
  exact readNumber?_padded (by omega) (by omega) (by omega) ends

theorem readMark?_cons (mark : Char) (notBlank : isBlank mark = false) (rest : List Char) :
    readMark? mark (mark :: rest) = some rest := by
  rw [readMark?, trimStart_cons notBlank, readChar?, if_pos rfl]

/-- A number of any width is read as the number when no digit follows. -/
theorem readLongNumber?_padded {width n : Nat} {rest : List Char} (positive : 0 < width)
    (small : n < 2 ^ 63) (ends : EndsDigits rest) :
    readLongNumber? 1 (padded width n ++ rest) = some (n, rest) := by
  have long := width_le_length_padded width n
  rw [readLongNumber?]
  exact readNumber?_padded (by omega) (by simp) small ends

theorem readYear?_of_isDigit {first : Char} (digit : first.isDigit = true) (later : List Char) :
    readYear? (first :: later) =
      (readNumber? 1 4 (first :: later)).map fun (year, behind) => ((year : Int), behind) := by
  have noMinus : first ≠ '-' := ne_of_isDigit digit (by decide)
  have noPlus : first ≠ '+' := ne_of_isDigit digit (by decide)
  unfold readYear?
  split <;> simp_all

/-- A year is read off with its sign, if it has one. -/
theorem readYear?_yearText {year : Int} (first : firstYear ≤ year) (last : year ≤ lastYear)
    {rest : List Char} (ends : EndsDigits rest) :
    readYear? (yearText year ++ rest) = some (year, rest) := by
  unfold firstYear at first
  unfold lastYear at last
  rw [yearText]
  split
  · rename_i fourDigits
    have width : (padded 4 year.toNat).length = 4 := length_padded (by decide) (by omega)
    have read : readNumber? 1 4 (padded 4 year.toNat ++ rest) = some (year.toNat, rest) :=
      readNumber?_padded (by omega) (by omega) (by omega) ends
    obtain ⟨c, later, digits, digit⟩ := exists_padded_eq_cons year.toNat (show 0 < 4 by decide)
    rw [digits, List.cons_append] at read ⊢
    rw [readYear?_of_isDigit digit, read, Option.map_some]
    simp only [Int.toNat_of_nonneg fourDigits.1]
  · have read : readLongNumber? 1 (padded 4 year.natAbs ++ rest) = some (year.natAbs, rest) :=
      readLongNumber?_padded (by decide) (by omega) ends
    by_cases negative : year < 0
    · rw [if_pos negative, List.cons_append, readYear?, read, Option.map_some]
      simp only [Option.some.injEq, Prod.mk.injEq, and_true]
      omega
    · rw [if_neg negative, List.cons_append, readYear?, read, Option.map_some]
      simp only [Option.some.injEq, Prod.mk.injEq, and_true]
      omega

theorem trimStart_yearText (year : Int) (rest : List Char) :
    trimStart (yearText year ++ rest) = yearText year ++ rest := by
  rw [yearText]
  split
  · exact trimStart_padded (by decide) rest
  · split
    · exact trimStart_cons (by decide) _
    · exact trimStart_cons (by decide) _

/-- Decimals of up to nine digits are read as nanoseconds. -/
theorem readNanos?_padded {width value : Nat} (positive : 0 < width) (short : width ≤ 9)
    (fits : value < 10 ^ width) {mark : Char} (noDigit : mark.isDigit = false)
    (rest : List Char) :
    readNanos? (padded width value ++ mark :: rest) =
      some (value * 10 ^ (9 - width), mark :: rest) := by
  have widthEq := length_padded positive fits
  have small : value < 2 ^ 63 := by
    have : 10 ^ width ≤ 10 ^ 9 := Nat.pow_le_pow_right (by decide) short
    omega
  have read : readNumber? 1 9 (padded width value ++ mark :: rest) = some (value, mark :: rest) :=
    readNumber?_padded (by omega) (by omega) small (endsDigits_cons noDigit rest)
  simp [readNanos?, read, widthEq, noDigit]

/-- The decimals of a second are read off with their point, if there are any. -/
theorem readOptionalNanos?_decimalsText {nanos : Nat} (small : nanos < nanosPerSecond)
    (mark : Char) (noDigit : mark.isDigit = false) (noPoint : mark ≠ '.') (rest : List Char) :
    readOptionalNanos? (decimalsText nanos ++ mark :: rest) = some (nanos, mark :: rest) := by
  unfold nanosPerSecond at small
  rw [decimalsText]
  split
  · rename_i zero
    rw [List.nil_append, readOptionalNanos?.eq_2 _ (by simp [noPoint]), zero]
  split
  · rw [List.cons_append, readOptionalNanos?,
      readNanos?_padded (by decide) (by decide) (by omega) noDigit]
    simp only [Option.some.injEq, Prod.mk.injEq, and_true]
    omega
  split
  · rw [List.cons_append, readOptionalNanos?,
      readNanos?_padded (by decide) (by decide) (by omega) noDigit]
    simp only [Option.some.injEq, Prod.mk.injEq, and_true]
    omega
  · rw [List.cons_append, readOptionalNanos?,
      readNanos?_padded (by decide) (by decide) (by omega) noDigit]
    simp only [Option.some.injEq, Prod.mk.injEq, and_true]
    omega

/-- The marks that may stand behind a second do not continue it. -/
theorem endsDigits_decimalsText (nanos : Nat) {rest : List Char} (ends : EndsDigits rest) :
    EndsDigits (decimalsText nanos ++ rest) := by
  rw [decimalsText]
  split
  · exact ends
  split
  · exact endsDigits_cons (by decide) _
  split <;> exact endsDigits_cons (by decide) _

theorem readLooseZone?_zulu : readLooseZone? (trimStart ['Z']) = some (0, []) := by
  decide

theorem bind_of_eq_some {α β : Type} {read : Option α} {value : α} {next : α → Option β}
    (readEq : read = some value) : (do next (← read)) = next value := by
  rw [readEq, Option.bind_eq_bind, Option.bind_some]

/-- A timestamp whose parts are read off one after the other is read as the instant that they
make up. -/
theorem readLooseTimestamp?_of_parts {text : List Char} {year ahead : Int}
    {month day hour minute second nanos : Nat}
    {afterYear afterMonth afterDay afterHour afterMinute afterSecond afterNanos : List Char}
    (yearRead : readYear? (trimStart text) = some (year, '-' :: afterYear))
    (monthRead : readShort? afterYear = some (month, '-' :: afterMonth))
    (dayRead : readShort? afterMonth = some (day, 'T' :: afterDay))
    (hourRead : readShort? afterDay = some (hour, ':' :: afterHour))
    (minuteRead : readShort? afterHour = some (minute, ':' :: afterMinute))
    (secondRead : readShort? afterMinute = some (second, afterSecond))
    (nanosRead : readOptionalNanos? afterSecond = some (nanos, afterNanos))
    (zoneRead : readLooseZone? (trimStart afterNanos) = some (ahead, [])) :
    readLooseTimestamp? text =
      Stamp.instant? ⟨year, month, day, none, hour, minute, second, nanos, ahead⟩ := by
  have timeMark : readTimeMark? ('T' :: afterDay) = some afterDay := by
    simp [readTimeMark?]
  refine (bind_of_eq_some yearRead).trans ?_
  refine (bind_of_eq_some (readMark?_cons '-' (by decide) afterYear)).trans ?_
  refine (bind_of_eq_some monthRead).trans ?_
  refine (bind_of_eq_some (readMark?_cons '-' (by decide) afterMonth)).trans ?_
  refine (bind_of_eq_some dayRead).trans ?_
  refine (bind_of_eq_some timeMark).trans ?_
  refine (bind_of_eq_some hourRead).trans ?_
  refine (bind_of_eq_some (readMark?_cons ':' (by decide) afterHour)).trans ?_
  refine (bind_of_eq_some minuteRead).trans ?_
  refine (bind_of_eq_some (readMark?_cons ':' (by decide) afterMinute)).trans ?_
  refine (bind_of_eq_some secondRead).trans ?_
  refine (bind_of_eq_some nanosRead).trans ?_
  exact bind_of_eq_some zoneRead

namespace Instant

/-- The second of the minute as it is written: sixty in a leap second. -/
def writtenSecond (instant : Instant) : Nat :=
  instant.second % 60 + if nanosPerSecond ≤ instant.nanos then 1 else 0

/-- The nanosecond as it is written: counted from the beginning of a leap second. -/
def writtenNanos (instant : Instant) : Nat :=
  if nanosPerSecond ≤ instant.nanos then instant.nanos - nanosPerSecond else instant.nanos

theorem writtenNanos_lt (instant : Instant) : instant.writtenNanos < nanosPerSecond := by
  have bound := instant.nanosInSecond
  rw [writtenNanos]
  split <;> omega

theorem ofLocal?_self (instant : Instant) {date : Date} (falls : date.dayNumber = instant.day) :
    ofLocal? date instant.second instant.nanos 0 = some instant := by
  obtain ⟨day, second, nanos, dayKept, secondInDay, nanosInSecond⟩ := instant
  have dayEq : date.dayNumber + ((second : Int) - 0) / 86400 = day := by
    dsimp only at falls
    omega
  have secondEq : (((second : Int) - 0) % 86400).toNat = second := by
    omega
  rw [ofLocal?]
  simp only [dayEq, secondEq]
  rw [dif_pos ⟨dayKept, nanosInSecond⟩]

/-- The written parts of an instant make up the instant. -/
theorem instant?_written (instant : Instant) :
    Stamp.instant? ⟨(Date.ofDayNumber instant.day).year, (Date.ofDayNumber instant.day).month,
      (Date.ofDayNumber instant.day).day, none, instant.second / 3600, instant.second / 60 % 60,
      instant.writtenSecond, instant.writtenNanos, 0⟩ = some instant := by
  have inDay := instant.secondInDay
  have inSecond := instant.nanosInSecond
  have secondEq : instant.second / 3600 * 3600 + instant.second / 60 % 60 * 60 +
      (if instant.writtenSecond = 60 then 59 else instant.writtenSecond) = instant.second := by
    rw [writtenSecond]
    split <;> split <;> omega
  have nanosEq : instant.writtenNanos + (if instant.writtenSecond = 60 then nanosPerSecond else 0) =
      instant.nanos := by
    rw [writtenNanos, writtenSecond]
    split <;> split <;> omega
  have inMinute : instant.writtenSecond ≤ 60 := by
    rw [writtenSecond]
    split <;> omega
  rw [Stamp.instant?]
  simp only [Date.ofParts?_ofDayNumber instant.dayKept, Option.bind_eq_bind, Option.bind_some,
    secondEq, nanosEq]
  rw [if_pos ⟨trivial, by omega, by omega, inMinute, by decide, by decide⟩]
  exact ofLocal?_self instant (Date.dayNumber_ofDayNumber instant.day)

theorem zuluText_toList (instant : Instant) :
    instant.zuluText.toList =
      yearText (Date.ofDayNumber instant.day).year ++
        '-' :: (padded 2 (Date.ofDayNumber instant.day).month ++
        '-' :: (padded 2 (Date.ofDayNumber instant.day).day ++
        'T' :: (padded 2 (instant.second / 3600) ++
        ':' :: (padded 2 (instant.second / 60 % 60) ++
        ':' :: (padded 2 instant.writtenSecond ++
        (decimalsText instant.writtenNanos ++ ['Z'])))))) := by
  simp [zuluText, timestampStem, writtenSecond, writtenNanos]

/-- The timestamp of an instant is read as the instant. -/
theorem readLooseTimestamp?_zuluText (instant : Instant) :
    readLooseTimestamp? instant.zuluText.toList = some instant := by
  have inDay := instant.secondInDay
  have secondSmall : instant.writtenSecond < 100 := by
    rw [writtenSecond]
    split <;> omega
  obtain ⟨monthSmall, daySmall⟩ := Date.ofDayNumber_lt instant.day
  rw [zuluText_toList]
  refine (readLooseTimestamp?_of_parts ?_
    (readShort?_padded monthSmall (endsDigits_cons (by decide) _))
    (readShort?_padded daySmall (endsDigits_cons (by decide) _))
    (readShort?_padded (by omega) (endsDigits_cons (by decide) _))
    (readShort?_padded (by omega) (endsDigits_cons (by decide) _))
    (readShort?_padded secondSmall
      (endsDigits_decimalsText instant.writtenNanos (endsDigits_cons (by decide) [])))
    (readOptionalNanos?_decimalsText instant.writtenNanos_lt 'Z' (by decide) (by decide) [])
    readLooseZone?_zulu).trans (instant?_written instant)
  rw [trimStart_yearText]
  exact readYear?_yearText instant.dayKept.1 instant.dayKept.2 (endsDigits_cons (by decide) _)

end Instant

end ScriptLint.Calendar
