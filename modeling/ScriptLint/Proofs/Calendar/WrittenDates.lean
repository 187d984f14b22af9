import Mathlib.Data.List.Nodup
import ScriptLint.Calendar.HttpDate
import ScriptLint.Proofs.Calendar.Timestamps

/-!
# Dates as headers write them

A date in a header may be written in the mail form, with hyphens and a year of two digits, with the
year last, or as a timestamp.  The names of days and months, the time of day and the year are read
off the front of a text as they are written, whatever stands behind them.
-/

namespace ScriptLint.Calendar

open Text

def weekdayLongNames : List String :=
  ["Monday", "Tuesday", "Wednesday", "Thursday", "Friday", "Saturday", "Sunday"]

def monthShortNames : List String :=
  ["Jan", "Feb", "Mar", "Apr", "May", "Jun", "Jul", "Aug", "Sep", "Oct", "Nov", "Dec"]

/-- How a timestamp in universal time is spelled: what stands before the time of day, how many zeros
stand behind a decimal point, if there is one, and how universal time is called. -/
structure TimestampSpelling where
  mark : Char
  zeros : Nat
  zone : List Char
  isTimeMark : mark ∈ ['T', 't', ' ']
  isUniversal : zone ∈ ["Z".toList, "z".toList, "+00:00".toList, "-00:00".toList]

/-- The forms in which a header may give a date. -/
inductive DateForm where
  /-- As in `Sun, 06 Nov 1994 08:49:37 GMT`. -/
  | mail
  /-- As in `Sunday, 06-Nov-94 08:49:37 GMT`. -/
  | hyphenated
  /-- As in `Sun Nov  6 08:49:37 1994`. -/
  | yearLast
  /-- As in `1994-11-06T08:49:37Z`. -/
  | timestamp (spelling : TimestampSpelling)

namespace Instant

def date (instant : Instant) : Date :=
  Date.ofDayNumber instant.day

def longWeekday (instant : Instant) : List Char :=
  (weekdayLongNames.getD (weekdayOfDay instant.day) "").toList

def shortWeekday (instant : Instant) : List Char :=
  instant.longWeekday.take 3

def shortMonth (instant : Instant) : List Char :=
  (monthShortNames.getD (instant.date.month - 1) "").toList

def clockText (instant : Instant) : List Char :=
  padded 2 (instant.second / 3600) ++ ':' :: (padded 2 (instant.second / 60 % 60) ++
    ':' :: padded 2 (instant.second % 60))

/-- The day of the month with a blank in place of a leading zero. -/
def blankPaddedDay (instant : Instant) : List Char :=
  if instant.date.day < 10 then ' ' :: padded 1 instant.date.day else padded 2 instant.date.day

end Instant

namespace TimestampSpelling

def fraction (spelling : TimestampSpelling) : List Char :=
  if spelling.zeros = 0 then [] else '.' :: List.replicate spelling.zeros '0'

end TimestampSpelling

/-- The text of an instant in a form. -/
def DateForm.write (instant : Instant) : DateForm → List Char
  | mail =>
    instant.shortWeekday ++ ',' :: ' ' :: (padded 2 instant.date.day ++
      ' ' :: (instant.shortMonth ++ ' ' :: (yearText instant.date.year ++
        ' ' :: (instant.clockText ++ " GMT".toList))))
  | hyphenated =>
    instant.longWeekday ++ ',' :: ' ' :: (padded 2 instant.date.day ++
      '-' :: (instant.shortMonth ++ '-' :: (padded 2 (instant.date.year % 100).toNat ++
        ' ' :: (instant.clockText ++ " GMT".toList))))
  | yearLast =>
    instant.shortWeekday ++ ' ' :: (instant.shortMonth ++ ' ' :: (instant.blankPaddedDay ++
      ' ' :: (instant.clockText ++ ' ' :: yearText instant.date.year)))
  | timestamp spelling =>
    yearText instant.date.year ++ '-' :: (padded 2 instant.date.month ++
      '-' :: (padded 2 instant.date.day ++ spelling.mark :: (instant.clockText ++
        (spelling.fraction ++ spelling.zone))))

/-- One of some names of one length is told from the others by its letters, in any case. -/
theorem readWord?_written {names : List String} {index : Nat} {written : List Char}
    (inList : index < names.length)
    (lowered : written.map Char.toLower = names[index].toList) (distinct : names.Nodup)
    (alike : ∀ name ∈ names, name.toList.length = written.length) (rest : List Char) :
    readWord? names (written ++ rest) = some (index, rest) := by
  have begins : ∀ name ∈ names,
      name.toList.isPrefixOf ((written ++ rest).map Char.toLower) = true ↔ name = names[index] := by
    intro name member
    rw [List.isPrefixOf_iff_prefix, List.map_append, lowered]
    constructor
    · intro first
      have sameLength : name.toList.length = names[index].toList.length := by
        rw [alike name member, ← lowered, List.length_map]
      obtain ⟨more, same⟩ := first
      exact String.toList_injective (List.append_inj_left same sameLength)
    · rintro rfl
      exact List.prefix_append _ _
  have found : names.findIdx? (fun word =>
      word.toList.isPrefixOf ((written ++ rest).map Char.toLower)) = some index := by
    rw [List.findIdx?_eq_some_iff_getElem]
    refine ⟨inList, (begins _ (List.getElem_mem inList)).mpr rfl, ?_⟩
    intro earlier before alsoBegins
    have sameName := (begins _ (List.getElem_mem _)).mp alsoBegins
    exact absurd ((List.Nodup.getElem_inj_iff distinct).mp sameName) (Nat.ne_of_lt before)
  have width : (names.getD index "").length = written.length := by
    rw [List.getD_eq_getElem _ _ inList, ← alike _ (List.getElem_mem inList), String.length_toList]
  rw [readWord?, found, Option.map_some, width, List.drop_left]

/-- Names that begin with another letter are not there. -/
theorem readWord?_eq_none {names : List String} {c : Char}
    (apart : ∀ name ∈ names, name.toList ≠ [] ∧ name.toList.head? ≠ some c.toLower)
    (rest : List Char) : readWord? names (c :: rest) = none := by
  have notFound : names.findIdx? (fun word =>
      word.toList.isPrefixOf ((c :: rest).map Char.toLower)) = none := by
    rw [List.findIdx?_eq_none_iff]
    intro name member
    obtain ⟨filled, otherFirst⟩ := apart name member
    cases letters : name.toList with
    | nil => exact absurd letters filled
    | cons first later =>
        rw [letters] at otherFirst
        rw [List.map_cons, ← Bool.not_eq_true, List.isPrefixOf_iff_prefix, List.cons_prefix_cons]
        rintro ⟨same, -⟩
        exact otherFirst (congrArg some same)
  rw [readWord?, notFound, Option.map_none]

theorem toLower_of_isDigit {c : Char} (digit : c.isDigit = true) : c.toLower = c := by
  simp only [Char.isDigit, Bool.and_eq_true, decide_eq_true_eq, ge_iff_le,
    UInt32.le_iff_toNat_le] at digit
  have notUpper : ¬(c.val ≥ 'A'.val ∧ c.val ≤ 'Z'.val) := by
    rintro ⟨upper, -⟩
    have large : 65 ≤ c.val.toNat := UInt32.le_iff_toNat_le.mp upper
    have small : c.val.toNat ≤ 57 := digit.2
    omega
  exact dif_neg notUpper

theorem weekdayOfDay_lt (day : Int) : weekdayOfDay day < 7 := by
  unfold weekdayOfDay
  omega

theorem readWeekday?_of_isDigit {c : Char} (digit : c.isDigit = true) (rest : List Char) :
    readWeekday? (c :: rest) = none := by
  apply readWord?_eq_none
  rw [toLower_of_isDigit digit]
  have letters : ∀ name ∈ weekdayNames, name.toList ≠ [] ∧
      (name.toList.head?.all fun first => !first.isDigit) = true := by decide
  intro name member
  refine ⟨(letters name member).1, fun first => ?_⟩
  have noDigit := (letters name member).2
  simp [first, digit] at noDigit

theorem readChar?_cons (c : Char) (rest : List Char) : readChar? c (c :: rest) = some rest :=
  if_pos rfl

theorem readShort?_blank (chars : List Char) : readShort? (' ' :: chars) = readShort? chars := by
  rw [readShort?, readShort?, trimStart, trimStart, List.dropWhile_cons_of_pos (by decide)]

namespace Instant

variable (instant : Instant) (rest : List Char)

/-- What the long name of the weekday adds to the short one. -/
def weekdayEnding : List Char :=
  instant.longWeekday.drop 3

theorem longWeekday_eq : instant.longWeekday = instant.shortWeekday ++ instant.weekdayEnding :=
  (List.take_append_drop 3 instant.longWeekday).symm

theorem readWeekday?_shortWeekday :
    readWeekday? (instant.shortWeekday ++ rest) = some (weekdayOfDay instant.day, rest) := by
  have short : ∀ weekday < 7, ((weekdayLongNames.getD weekday "").toList.take 3).length = 3 ∧
      ((weekdayLongNames.getD weekday "").toList.take 3).map Char.toLower =
        (weekdayNames.getD weekday "").toList := by decide
  obtain ⟨width, lowered⟩ := short _ (weekdayOfDay_lt instant.day)
  have inList : weekdayOfDay instant.day < weekdayNames.length := weekdayOfDay_lt instant.day
  rw [List.getD_eq_getElem _ _ inList] at lowered
  apply readWord?_written inList lowered (by decide)
  rw [width]
  decide

theorem weekdayEnding_spec :
    instant.weekdayEnding.map Char.toLower =
        (weekdayEndings.getD (weekdayOfDay instant.day) "").toList ∧
      instant.weekdayEnding ≠ [] ∧ ',' ∉ instant.weekdayEnding ∧
      (weekdayEndings.getD (weekdayOfDay instant.day) "").toList.head? ≠ some ' ' := by
  have endings : ∀ weekday < 7,
      ((weekdayLongNames.getD weekday "").toList.drop 3).map Char.toLower =
          (weekdayEndings.getD weekday "").toList ∧
        (weekdayLongNames.getD weekday "").toList.drop 3 ≠ [] ∧
        ',' ∉ (weekdayLongNames.getD weekday "").toList.drop 3 ∧
        (weekdayEndings.getD weekday "").toList.head? ≠ some ' ' := by decide
  exact endings _ (weekdayOfDay_lt instant.day)

theorem readLongWeekday?_longWeekday :
    readLongWeekday? (instant.longWeekday ++ rest) = some (weekdayOfDay instant.day, rest) := by
  have lowered := instant.weekdayEnding_spec.1
  have ending : readWord? [weekdayEndings.getD (weekdayOfDay instant.day) ""]
      (instant.weekdayEnding ++ rest) = some (0, rest) := by
    generalize weekdayEndings.getD (weekdayOfDay instant.day) "" = ending at lowered
    apply readWord?_written (by simp) lowered (by simp)
    intro name member
    rw [List.mem_singleton.mp member, ← lowered, List.length_map]
  rw [longWeekday_eq, List.append_assoc, readLongWeekday?, readWeekday?_shortWeekday,
    Option.bind_eq_bind, Option.bind_some]
  dsimp only
  rw [ending]
  rfl

/-- A blank behind the short name is not the beginning of the long one. -/
theorem readLongWeekday?_shortWeekday :
    readLongWeekday? (instant.shortWeekday ++ ' ' :: rest) =
      some (weekdayOfDay instant.day, ' ' :: rest) := by
  obtain ⟨lowered, filled, -, noBlank⟩ := instant.weekdayEnding_spec
  have ending : readWord? [weekdayEndings.getD (weekdayOfDay instant.day) ""] (' ' :: rest) =
      none := by
    apply readWord?_eq_none
    intro name member
    obtain rfl := List.mem_singleton.mp member
    refine ⟨?_, noBlank⟩
    rw [← lowered]
    simpa using filled
  rw [readLongWeekday?, readWeekday?_shortWeekday, Option.bind_eq_bind, Option.bind_some]
  dsimp only
  rw [ending]
  rfl

theorem month_bounds : 1 ≤ instant.date.month ∧ instant.date.month ≤ 12 := by
  obtain ⟨index, dayOfMonth, dateEq, indexLt, -⟩ := Date.ofDayNumber_spec instant.day
  rw [date, dateEq]
  dsimp only
  omega

theorem readMonth?_shortMonth :
    readMonth? (instant.shortMonth ++ rest) = some (instant.date.month, rest) := by
  obtain ⟨positive, atMostTwelve⟩ := instant.month_bounds
  have short : ∀ index < 12, (monthShortNames.getD index "").toList.length = 3 ∧
      (monthShortNames.getD index "").toList.map Char.toLower =
        (monthNames.getD index "").toList := by decide
  obtain ⟨width, lowered⟩ := short (instant.date.month - 1) (by omega)
  have inList : instant.date.month - 1 < monthNames.length := by
    show _ < 12
    omega
  rw [List.getD_eq_getElem _ _ inList] at lowered
  have read : readWord? monthNames (instant.shortMonth ++ rest) =
      some (instant.date.month - 1, rest) := by
    apply readWord?_written inList lowered (by decide)
    rw [width]
    decide
  rw [readMonth?, read, Option.map_some]
  simp only [Nat.sub_add_cancel positive]

theorem day_bounds : 1 ≤ instant.date.day ∧ instant.date.day < 100 := by
  obtain ⟨index, dayOfMonth, dateEq, -⟩ := Date.ofDayNumber_spec instant.day
  refine ⟨?_, (Date.ofDayNumber_lt instant.day).2⟩
  rw [date, dateEq]
  exact Nat.succ_pos dayOfMonth

theorem readShort?_paddedDay {mark : Char} (noDigit : mark.isDigit = false) :
    readShort? (' ' :: (padded 2 instant.date.day ++ mark :: rest)) =
      some (instant.date.day, mark :: rest) := by
  rw [readShort?_blank]
  exact readShort?_padded instant.day_bounds.2 (endsDigits_cons noDigit rest)

variable {rest}

theorem readShort?_blankPaddedDay (ends : EndsDigits rest) :
    readShort? (instant.blankPaddedDay ++ rest) = some (instant.date.day, rest) := by
  unfold blankPaddedDay
  split
  · rename_i small
    have width : (padded 1 instant.date.day).length = 1 := length_padded (by decide) (by omega)
    rw [List.cons_append, readShort?_blank, readShort?, trimStart_padded (by decide)]
    exact readNumber?_padded (by omega) (by omega) (by omega) ends
  · exact readShort?_padded instant.day_bounds.2 ends

theorem clockText_append (rest : List Char) :
    instant.clockText ++ rest =
      padded 2 (instant.second / 3600) ++ ':' :: (padded 2 (instant.second / 60 % 60) ++
        ':' :: (padded 2 (instant.second % 60) ++ rest)) := by
  simp [clockText]

theorem readClock?_clockText (ends : EndsDigits rest) :
    readClock? (' ' :: (instant.clockText ++ rest)) =
      some ((instant.second / 3600, instant.second / 60 % 60, instant.second % 60), rest) := by
  have inDay := instant.secondInDay
  have hourRead := readShort?_padded (show instant.second / 3600 < 100 by omega)
    (endsDigits_cons (by decide : ':'.isDigit = false)
      (padded 2 (instant.second / 60 % 60) ++ ':' :: (padded 2 (instant.second % 60) ++ rest)))
  have minuteRead := readShort?_padded (show instant.second / 60 % 60 < 100 by omega)
    (endsDigits_cons (by decide : ':'.isDigit = false) (padded 2 (instant.second % 60) ++ rest))
  have secondRead := readShort?_padded (show instant.second % 60 < 100 by omega) ends
  rw [clockText_append, readClock?, readShort?_blank]
  simp only [hourRead, minuteRead, secondRead, readChar?_cons, Option.bind_eq_bind,
    Option.bind_some, Option.pure_def]

/-- The parts of a whole second, with the right day of the week or none, make up its instant. -/
theorem instant?_whole (whole : instant.nanos = 0) {weekday : Option Nat}
    (right : ∀ named ∈ weekday, named = weekdayOfDay instant.day) :
    Stamp.instant? ⟨instant.date.year, instant.date.month, instant.date.day, weekday,
      instant.second / 3600, instant.second / 60 % 60, instant.second % 60, 0, 0⟩ =
        some instant := by
  have written := instant.instant?_written
  have noLeap : ¬nanosPerSecond ≤ instant.nanos := by
    rw [whole]
    decide
  rw [writtenSecond, writtenNanos, if_neg noLeap, if_neg noLeap, whole, Nat.add_zero] at written
  cases weekday with
  | none => exact written
  | some named =>
      obtain rfl := right named rfl
      have dateEq := Date.ofParts?_ofDayNumber instant.dayKept
      simpa [Stamp.instant?, date, dateEq, Date.dayNumber_ofDayNumber] using written

end Instant

/-- Whether a text begins with a character that is neither a blank nor a digit. -/
def beginsName (text : List Char) : Bool :=
  text.head?.any fun c => !isBlank c && !c.isDigit

theorem exists_eq_cons_of_beginsName {text : List Char} (begins : beginsName text = true) :
    ∃ c later, text = c :: later ∧ isBlank c = false ∧ c.isDigit = false := by
  cases text with
  | nil => cases begins
  | cons c later =>
      simp only [beginsName, List.head?_cons, Option.any_some, Bool.and_eq_true,
        Bool.not_eq_true'] at begins
      exact ⟨c, later, rfl, begins.1, begins.2⟩

theorem trimStart_append {front : List Char} (begins : beginsName front = true)
    (rest : List Char) : trimStart (front ++ rest) = front ++ rest := by
  obtain ⟨c, later, rfl, notBlank, -⟩ := exists_eq_cons_of_beginsName begins
  exact trimStart_cons notBlank _

theorem yearText_of_fourDigits {year : Int} (positive : 0 ≤ year) (small : year ≤ 9999) :
    yearText year = padded 4 year.toNat ∧ (padded 4 year.toNat).length = 4 :=
  ⟨by rw [yearText, if_pos ⟨positive, small⟩], length_padded (by decide) (by omega)⟩

section Names

variable {instant : Instant}

theorem beginsName_shortWeekday : beginsName instant.shortWeekday = true := by
  have names : ∀ weekday < 7,
      beginsName ((weekdayLongNames.getD weekday "").toList.take 3) = true := by decide
  exact names _ (weekdayOfDay_lt instant.day)

theorem beginsName_shortMonth : beginsName instant.shortMonth = true := by
  have names : ∀ index < 12, beginsName (monthShortNames.getD index "").toList = true := by decide
  obtain ⟨positive, atMostTwelve⟩ := instant.month_bounds
  exact names _ (by omega)

theorem readMonth?_trimStart_shortMonth (rest : List Char) :
    readMonth? (trimStart (instant.shortMonth ++ rest)) = some (instant.date.month, rest) := by
  rw [trimStart_append beginsName_shortMonth, instant.readMonth?_shortMonth]

end Names

end ScriptLint.Calendar
