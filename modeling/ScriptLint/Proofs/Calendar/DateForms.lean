import ScriptLint.Docs.Freshness
import ScriptLint.Proofs.Calendar.WrittenDates

/-!
# The forms of dates in headers

In the century for which a year of two digits is enough, every form of an instant is read as the
instant: the reader of another form stops at a mark that its own form does not have there, before
anything has been read that could mean another date.
-/

namespace ScriptLint.Calendar

open Text

theorem readNumber?_twoDigits {n : Nat} (small : n < 100) {rest : List Char}
    (ends : EndsDigits rest) : readNumber? 2 2 (padded 2 n ++ rest) = some (n, rest) := by
  have width : (padded 2 n).length = 2 := length_padded (by decide) small
  exact readNumber?_padded (by omega) (by omega) (by omega) ends

theorem readBlanks?_blank (rest : List Char) : readBlanks? (' ' :: rest) = some (trimStart rest) :=
  rfl

theorem readMailZone?_gmt : readMailZone? (trimStart "GMT".toList) = some (0, []) := by
  decide

theorem readMailDate?_of_parts {text : List Char} {weekday : Option Nat} {year ahead : Int}
    {day month hour minute second : Nat}
    {afterWeekday afterDay afterMonth afterYear afterHour afterMinute afterSecond : List Char}
    (weekdayRead : readMailWeekday? (trimStart text) = some (weekday, afterWeekday))
    (dayRead : readShort? afterWeekday = some (day, ' ' :: afterDay))
    (monthRead : readMonth? (trimStart afterDay) = some (month, ' ' :: afterMonth))
    (yearRead : readMailYear? (trimStart afterMonth) = some (year, ' ' :: afterYear))
    (hourRead : readNumber? 2 2 (trimStart afterYear) = some (hour, ':' :: afterHour))
    (minuteRead : readNumber? 2 2 (trimStart afterHour) = some (minute, afterMinute))
    (secondRead : readMailSecond? afterMinute = some (second, ' ' :: afterSecond))
    (zoneRead : readMailZone? (trimStart afterSecond) = some (ahead, [])) :
    readMailDate? text =
      Stamp.instant? ⟨year, month, day, weekday, hour, minute, second, 0, ahead⟩ := by
  refine (bind_of_eq_some weekdayRead).trans ?_
  refine (bind_of_eq_some dayRead).trans ?_
  refine (bind_of_eq_some (readBlanks?_blank afterDay)).trans ?_
  refine (bind_of_eq_some monthRead).trans ?_
  refine (bind_of_eq_some (readBlanks?_blank afterMonth)).trans ?_
  refine (bind_of_eq_some yearRead).trans ?_
  refine (bind_of_eq_some (readBlanks?_blank afterYear)).trans ?_
  refine (bind_of_eq_some hourRead).trans ?_
  refine (bind_of_eq_some (readMark?_cons ':' (by decide) afterHour)).trans ?_
  refine (bind_of_eq_some minuteRead).trans ?_
  refine (bind_of_eq_some secondRead).trans ?_
  refine (bind_of_eq_some (readBlanks?_blank afterSecond)).trans ?_
  exact bind_of_eq_some zoneRead

theorem readMailYear?_yearText {year : Int} (positive : 0 ≤ year) (small : year ≤ 9999)
    {rest : List Char} (ends : EndsDigits rest) :
    readMailYear? (yearText year ++ rest) = some (year, rest) := by
  obtain ⟨textEq, width⟩ := yearText_of_fourDigits positive small
  have read : readLongNumber? 2 (padded 4 year.toNat ++ rest) = some (year.toNat, rest) :=
    readNumber?_padded (by omega) (by simp) (by omega) ends
  rw [textEq, readMailYear?, read, Option.bind_eq_bind, Option.bind_some]
  simp [width, Int.toNat_of_nonneg positive]

theorem readMailSecond?_padded {second : Nat} (small : second < 100) {rest : List Char}
    (ends : EndsDigits rest) :
    readMailSecond? (':' :: (padded 2 second ++ rest)) = some (second, rest) := by
  rw [readMailSecond?, readMark?_cons ':' (by decide)]
  exact readNumber?_twoDigits small ends

section Forms

variable {instant : Instant}

theorem readMailDate?_mail (whole : instant.nanos = 0) (positive : 0 ≤ instant.date.year)
    (small : instant.date.year ≤ 9999) :
    readMailDate? (DateForm.mail.write instant) = some instant := by
  have inDay := instant.secondInDay
  have weekdayRead : ∀ rest, readMailWeekday? (trimStart (instant.shortWeekday ++ ',' :: rest)) =
      some (some (weekdayOfDay instant.day), rest) := by
    intro rest
    rw [trimStart_append beginsName_shortWeekday, readMailWeekday?,
      instant.readWeekday?_shortWeekday]
    rfl
  have yearRead : ∀ rest, readMailYear? (trimStart (yearText instant.date.year ++ ' ' :: rest)) =
      some (instant.date.year, ' ' :: rest) := by
    intro rest
    rw [trimStart_yearText]
    exact readMailYear?_yearText positive small (endsDigits_cons (by decide) rest)
  have partRead : ∀ part < 100, ∀ rest, readNumber? 2 2 (trimStart (padded 2 part ++ ':' :: rest)) =
      some (part, ':' :: rest) := by
    intro part partSmall rest
    rw [trimStart_padded (by decide)]
    exact readNumber?_twoDigits partSmall (endsDigits_cons (by decide) rest)
  rw [DateForm.write, Instant.clockText_append]
  exact (readMailDate?_of_parts (weekdayRead _)
    (instant.readShort?_paddedDay _ (by decide)) (readMonth?_trimStart_shortMonth _) (yearRead _)
    (partRead _ (by omega) _) (partRead _ (by omega) _)
    (readMailSecond?_padded (by omega) (endsDigits_cons (by decide) _))
    readMailZone?_gmt).trans (instant.instant?_whole whole (by simp))

/-- A mail date has a comma behind the short name of the weekday. -/
theorem readMailDate?_eq_none {rest : List Char} (noComma : rest.head? ≠ some ',') :
    readMailDate? (instant.shortWeekday ++ rest) = none := by
  have weekdayRead : readMailWeekday? (trimStart (instant.shortWeekday ++ rest)) = none := by
    rw [trimStart_append beginsName_shortWeekday, readMailWeekday?,
      instant.readWeekday?_shortWeekday]
    cases rest with
    | nil => rfl
    | cons c rest =>
        have other : c ≠ ',' := fun same => noComma (congrArg some same)
        simp [readChar?, other]
  rw [readMailDate?, weekdayRead]
  rfl

/-- A mail date that begins with a number has no third digit there. -/
theorem readMailDate?_of_digits {first second third : Char} (firstDigit : first.isDigit = true)
    (secondDigit : second.isDigit = true) (thirdDigit : third.isDigit = true) (rest : List Char) :
    readMailDate? (first :: second :: third :: rest) = none := by
  have begins : trimStart (first :: second :: third :: rest) = first :: second :: third :: rest :=
    trimStart_cons (isBlank_eq_false_of_isDigit firstDigit) _
  have weekdayRead : readMailWeekday? (first :: second :: third :: rest) =
      some (none, first :: second :: third :: rest) := by
    rw [readMailWeekday?, readWeekday?_of_isDigit firstDigit]
  -- At most two digits are taken for the day, and then a blank has to follow.
  have dayRead : ∀ read, readShort? (first :: second :: third :: rest) = some read →
      read.2 = third :: rest := by
    intro read some
    rw [readShort?, begins, readNumber?] at some
    simp only [List.take_succ_cons, List.take_zero, List.takeWhile_cons, firstDigit, secondDigit,
      if_true, List.takeWhile_nil] at some
    split at some
    · cases some
    · rw [← Option.some.inj some]
      rfl
  rw [readMailDate?, begins, weekdayRead, Option.bind_eq_bind, Option.bind_some]
  dsimp only
  cases dayEq : readShort? (first :: second :: third :: rest) with
  | none => rfl
  | some read =>
      rw [Option.bind_eq_bind, Option.bind_some]
      rw [dayRead read dayEq, readBlanks?, isBlank_eq_false_of_isDigit thirdDigit]
      rfl

theorem readTimestamp?_eq_none {front : List Char} (begins : beginsName front = true)
    (rest : List Char) : readTimestamp? (front ++ rest) = none := by
  obtain ⟨c, later, rfl, -, noDigit⟩ := exists_eq_cons_of_beginsName begins
  have noYear : readNumber? 4 4 (c :: later ++ rest) = none := by
    simp [readNumber?, noDigit]
  rw [readTimestamp?, noYear]
  rfl

theorem readTimestamp?_of_parts {text : List Char} {timeMark : Char} {ahead : Int}
    {year month day hour minute second nanos : Nat}
    {afterYear afterMonth afterDay afterHour afterMinute afterSecond afterNanos : List Char}
    (isTimeMark : timeMark ∈ ['T', 't', ' '])
    (yearRead : readNumber? 4 4 text = some (year, '-' :: afterYear))
    (monthRead : readNumber? 2 2 afterYear = some (month, '-' :: afterMonth))
    (dayRead : readNumber? 2 2 afterMonth = some (day, timeMark :: afterDay))
    (hourRead : readNumber? 2 2 afterDay = some (hour, ':' :: afterHour))
    (minuteRead : readNumber? 2 2 afterHour = some (minute, ':' :: afterMinute))
    (secondRead : readNumber? 2 2 afterMinute = some (second, afterSecond))
    (nanosRead : readOptionalNanos? afterSecond = some (nanos, afterNanos))
    (zoneRead : readZone? (readChar? ':') afterNanos = some (ahead, [])) :
    readTimestamp? text =
      Stamp.instant? ⟨year, month, day, none, hour, minute, second, nanos, ahead⟩ := by
  have markRead : readTimeMark? (timeMark :: afterDay) = some afterDay := by
    rw [readTimeMark?, if_pos (by simpa using isTimeMark)]
  refine (bind_of_eq_some yearRead).trans ?_
  refine (bind_of_eq_some (readChar?_cons '-' afterYear)).trans ?_
  refine (bind_of_eq_some monthRead).trans ?_
  refine (bind_of_eq_some (readChar?_cons '-' afterMonth)).trans ?_
  refine (bind_of_eq_some dayRead).trans ?_
  refine (bind_of_eq_some markRead).trans ?_
  refine (bind_of_eq_some hourRead).trans ?_
  refine (bind_of_eq_some (readChar?_cons ':' afterHour)).trans ?_
  refine (bind_of_eq_some minuteRead).trans ?_
  refine (bind_of_eq_some (readChar?_cons ':' afterMinute)).trans ?_
  refine (bind_of_eq_some secondRead).trans ?_
  refine (bind_of_eq_some nanosRead).trans ?_
  exact bind_of_eq_some zoneRead

theorem decimalValue_zeros (count : Nat) : decimalValue (List.replicate count '0') = 0 := by
  induction count with
  | zero => rfl
  | succ count ih =>
      rw [List.replicate_succ]
      exact ih

theorem readNanos?_zeros (count : Nat) {rest : List Char} (ends : EndsDigits rest) :
    readNanos? (List.replicate (count + 1) '0' ++ rest) = some (0, rest) := by
  have zerosAreDigits : ∀ count, ∀ c ∈ List.replicate count '0', c.isDigit = true := by
    intro count c member
    rw [List.eq_of_mem_replicate member]
    decide
  have digits : ((List.replicate (count + 1) '0' ++ rest).take 9).takeWhile Char.isDigit =
      List.replicate (min 9 (count + 1)) '0' := by
    rw [List.take_append, List.take_replicate,
      takeWhile_append_of_stops (zerosAreDigits _) (ends.take _)]
  have left : (List.replicate (count + 1) '0' ++ rest).drop (min 9 (count + 1)) =
      List.replicate (count + 1 - min 9 (count + 1)) '0' ++ rest := by
    rw [List.drop_append_of_le_length (by simp), List.drop_replicate]
  have read : readNumber? 1 9 (List.replicate (count + 1) '0' ++ rest) =
      some (0, List.replicate (count + 1 - min 9 (count + 1)) '0' ++ rest) := by
    rw [readNumber?]
    simp only [digits, decimalValue_zeros, List.length_replicate, left]
    rw [if_neg]
    simp only [Nat.pow_eq]
    omega
  rw [readNanos?, read, Option.bind_eq_bind, Option.bind_some]
  simp [dropWhile_append_of_stops (zerosAreDigits _) ends]

namespace TimestampSpelling

variable (spelling : TimestampSpelling)

theorem zone_spec :
    readZone? (readChar? ':') spelling.zone = some (0, []) ∧ EndsDigits spelling.zone ∧
      spelling.zone.head? ≠ some '.' := by
  have zones : ∀ zone ∈ ["Z".toList, "z".toList, "+00:00".toList, "-00:00".toList],
      readZone? (readChar? ':') zone = some (0, []) ∧
        (zone.head?.all fun c => !c.isDigit) = true ∧ zone.head? ≠ some '.' := by decide
  obtain ⟨read, noDigit, noPoint⟩ := zones _ spelling.isUniversal
  refine ⟨read, ?_, noPoint⟩
  intro c first
  simpa [Option.mem_def.mp first] using noDigit

theorem endsDigits_fraction : EndsDigits (spelling.fraction ++ spelling.zone) := by
  unfold fraction
  split
  · exact spelling.zone_spec.2.1
  · exact endsDigits_cons (by decide) _

theorem readOptionalNanos?_fraction :
    readOptionalNanos? (spelling.fraction ++ spelling.zone) = some (0, spelling.zone) := by
  obtain ⟨-, ends, noPoint⟩ := spelling.zone_spec
  unfold fraction
  split
  · rw [List.nil_append]
    unfold readOptionalNanos?
    split
    · rename_i point
      rw [point] at noPoint
      exact absurd rfl noPoint
    · rfl
  · rename_i pointed
    obtain ⟨count, countEq⟩ := Nat.exists_eq_succ_of_ne_zero pointed
    rw [countEq, List.cons_append, readOptionalNanos?]
    exact readNanos?_zeros count ends

theorem mark_isDigit : spelling.mark.isDigit = false := by
  have marks := spelling.isTimeMark
  simp only [List.mem_cons, List.not_mem_nil, or_false] at marks
  rcases marks with isMark | isMark | isMark
  all_goals
    rw [isMark]
    rfl

end TimestampSpelling

variable {spelling : TimestampSpelling}

theorem readTimestamp?_timestamp (whole : instant.nanos = 0) (positive : 0 ≤ instant.date.year)
    (small : instant.date.year ≤ 9999) :
    readTimestamp? ((DateForm.timestamp spelling).write instant) = some instant := by
  have inDay := instant.secondInDay
  have yearRead : ∀ rest, readNumber? 4 4 (yearText instant.date.year ++ '-' :: rest) =
      some (instant.date.year.toNat, '-' :: rest) := by
    intro rest
    obtain ⟨textEq, width⟩ := yearText_of_fourDigits positive small
    rw [textEq]
    exact readNumber?_padded (by omega) (by omega) (by omega) (endsDigits_cons (by decide) rest)
  have made := instant.instant?_whole whole (show ∀ named ∈ none, named = _ by simp)
  rw [← Int.toNat_of_nonneg positive] at made
  obtain ⟨monthSmall, daySmall⟩ := Date.ofDayNumber_lt instant.day
  rw [DateForm.write, Instant.clockText_append]
  exact (readTimestamp?_of_parts spelling.isTimeMark (yearRead _)
    (readNumber?_twoDigits monthSmall (endsDigits_cons (by decide) _))
    (readNumber?_twoDigits daySmall (endsDigits_cons spelling.mark_isDigit _))
    (readNumber?_twoDigits (by omega) (endsDigits_cons (by decide) _))
    (readNumber?_twoDigits (by omega) (endsDigits_cons (by decide) _))
    (readNumber?_twoDigits (by omega) spelling.endsDigits_fraction)
    spelling.readOptionalNanos?_fraction spelling.zone_spec.1).trans made

theorem readMailDate?_timestamp (positive : 0 ≤ instant.date.year)
    (small : instant.date.year ≤ 9999) :
    readMailDate? ((DateForm.timestamp spelling).write instant) = none := by
  obtain ⟨textEq, width⟩ := yearText_of_fourDigits positive small
  have digits := isDigit_of_mem_padded 4 instant.date.year.toNat
  rw [DateForm.write, textEq]
  generalize padded 4 instant.date.year.toNat = year at width digits
  match year, width with
  | [first, second, third, fourth], _ =>
      apply readMailDate?_of_digits
      all_goals exact digits _ (by simp)

theorem readHyphenDate?_of_parts {text : List Char}
    {weekday day month year hour minute second : Nat}
    {afterWeekday afterDay afterMonth afterYear afterClock : List Char}
    (weekdayRead : readLongWeekday? text = some (weekday, ',' :: afterWeekday))
    (dayRead : readShort? afterWeekday = some (day, '-' :: afterDay))
    (monthRead : readMonth? afterDay = some (month, '-' :: afterMonth))
    (yearRead : readShort? afterMonth = some (year, afterYear))
    (clockRead : readClock? afterYear = some ((hour, minute, second), afterClock))
    (zoneRead : trimStart afterClock = "GMT".toList) :
    readHyphenDate? text =
      Stamp.instant? ⟨(if year < 70 then year + 2000 else year + 1900 : Nat), month, day,
        some weekday, hour, minute, second, 0, 0⟩ := by
  refine (bind_of_eq_some weekdayRead).trans ?_
  refine (bind_of_eq_some (readChar?_cons ',' afterWeekday)).trans ?_
  refine (bind_of_eq_some dayRead).trans ?_
  refine (bind_of_eq_some (readChar?_cons '-' afterDay)).trans ?_
  refine (bind_of_eq_some monthRead).trans ?_
  refine (bind_of_eq_some (readChar?_cons '-' afterMonth)).trans ?_
  refine (bind_of_eq_some yearRead).trans ?_
  refine (bind_of_eq_some clockRead).trans ?_
  exact if_pos zoneRead

/-- Two digits are enough for the years of a century. -/
theorem fullYear_eq {year : Int} (first : 1970 ≤ year) (last : year ≤ 2069) :
    ((if (year % 100).toNat < 70 then (year % 100).toNat + 2000
      else (year % 100).toNat + 1900 : Nat) : Int) = year := by
  split <;> omega

theorem readHyphenDate?_hyphenated (whole : instant.nanos = 0) (first : 1970 ≤ instant.date.year)
    (last : instant.date.year ≤ 2069) :
    readHyphenDate? (DateForm.hyphenated.write instant) = some instant := by
  have yearRead : ∀ rest, readShort? (padded 2 (instant.date.year % 100).toNat ++ ' ' :: rest) =
      some ((instant.date.year % 100).toNat, ' ' :: rest) := fun rest =>
    readShort?_padded (by omega) (endsDigits_cons (by decide) rest)
  have made := instant.instant?_whole whole
    (show ∀ named ∈ some (weekdayOfDay instant.day), named = weekdayOfDay instant.day by simp)
  rw [← fullYear_eq first last] at made
  rw [DateForm.write]
  exact (readHyphenDate?_of_parts (instant.readLongWeekday?_longWeekday _)
    (instant.readShort?_paddedDay _ (by decide))
    (instant.readMonth?_shortMonth _) (yearRead _)
    (instant.readClock?_clockText (endsDigits_cons (by decide) _)) (by decide)).trans made

theorem readMailDate?_hyphenated : readMailDate? (DateForm.hyphenated.write instant) = none := by
  obtain ⟨-, filled, noComma, -⟩ := instant.weekdayEnding_spec
  rw [DateForm.write, Instant.longWeekday_eq, List.append_assoc]
  apply readMailDate?_eq_none
  cases ending : instant.weekdayEnding with
  | nil => exact absurd ending filled
  | cons c later =>
      rintro comma
      obtain rfl := Option.some.inj comma
      exact noComma (by simp [ending])

theorem readTimestamp?_hyphenated :
    readTimestamp? (DateForm.hyphenated.write instant) = none := by
  rw [DateForm.write, Instant.longWeekday_eq, List.append_assoc]
  exact readTimestamp?_eq_none beginsName_shortWeekday _

theorem readYearLastDate?_of_parts {text : List Char} {year : Int}
    {weekday day month hour minute second : Nat}
    {afterWeekday afterDay afterMonth afterClock : List Char}
    (weekdayRead : readWeekday? text = some (weekday, afterWeekday))
    (monthRead : readMonth? (trimStart afterWeekday) = some (month, afterMonth))
    (dayRead : readShort? afterMonth = some (day, afterDay))
    (clockRead : readClock? afterDay = some ((hour, minute, second), afterClock))
    (yearRead : readYear? (trimStart afterClock) = some (year, [])) :
    readYearLastDate? text =
      Stamp.instant? ⟨year, month, day, some weekday, hour, minute, second, 0, 0⟩ := by
  refine (bind_of_eq_some weekdayRead).trans ?_
  refine (bind_of_eq_some monthRead).trans ?_
  refine (bind_of_eq_some dayRead).trans ?_
  refine (bind_of_eq_some clockRead).trans ?_
  exact bind_of_eq_some yearRead

theorem trimStart_blank (rest : List Char) : trimStart (' ' :: rest) = trimStart rest :=
  rfl

theorem readYearLastDate?_yearLast (whole : instant.nanos = 0) :
    readYearLastDate? (DateForm.yearLast.write instant) = some instant := by
  have monthRead : ∀ rest, readMonth? (trimStart (' ' :: (instant.shortMonth ++ rest))) =
      some (instant.date.month, rest) := by
    intro rest
    rw [trimStart_blank, readMonth?_trimStart_shortMonth]
  have dayRead : ∀ rest, readShort? (' ' :: (instant.blankPaddedDay ++ ' ' :: rest)) =
      some (instant.date.day, ' ' :: rest) := by
    intro rest
    rw [readShort?_blank]
    exact instant.readShort?_blankPaddedDay (endsDigits_cons (by decide) rest)
  have yearRead : readYear? (trimStart (' ' :: yearText instant.date.year)) =
      some (instant.date.year, []) := by
    have keptYear := instant.dayKept
    have ends : EndsDigits [] := by simp [EndsDigits]
    have read := readYear?_yearText keptYear.1 keptYear.2 ends
    have noBlank := trimStart_yearText instant.date.year []
    rw [List.append_nil] at read noBlank
    rw [trimStart_blank, noBlank]
    exact read
  rw [DateForm.write]
  exact (readYearLastDate?_of_parts (instant.readWeekday?_shortWeekday _) (monthRead _) (dayRead _)
    (instant.readClock?_clockText (endsDigits_cons (by decide) _)) yearRead).trans
    (instant.instant?_whole whole (by simp))

theorem readMailDate?_yearLast : readMailDate? (DateForm.yearLast.write instant) = none := by
  rw [DateForm.write]
  apply readMailDate?_eq_none
  simp

theorem readTimestamp?_yearLast : readTimestamp? (DateForm.yearLast.write instant) = none := by
  rw [DateForm.write]
  exact readTimestamp?_eq_none beginsName_shortWeekday _

/-- A hyphenated date has a comma behind the name of the weekday. -/
theorem readHyphenDate?_yearLast : readHyphenDate? (DateForm.yearLast.write instant) = none := by
  rw [DateForm.write, readHyphenDate?, Instant.readLongWeekday?_shortWeekday]
  rfl

theorem DateForm.exists_write_eq_cons (positive : 0 ≤ instant.date.year)
    (small : instant.date.year ≤ 9999) (form : DateForm) :
    ∃ c rest, form.write instant = c :: rest ∧ isBlank c = false := by
  have named : ∀ rest, ∃ c later, instant.shortWeekday ++ rest = c :: later ∧
      isBlank c = false := by
    intro rest
    obtain ⟨c, later, textEq, notBlank, -⟩ := exists_eq_cons_of_beginsName beginsName_shortWeekday
    exact ⟨c, later ++ rest, by rw [textEq, List.cons_append], notBlank⟩
  cases form with
  | mail => exact named _
  | hyphenated =>
      rw [write, Instant.longWeekday_eq, List.append_assoc]
      exact named _
  | yearLast => exact named _
  | timestamp spelling =>
      obtain ⟨c, later, digits, digit⟩ :=
        exists_padded_eq_cons instant.date.year.toNat (show 0 < 4 by decide)
      rw [write, (yearText_of_fourDigits positive small).1, digits]
      exact ⟨c, _, rfl, isBlank_eq_false_of_isDigit digit⟩

theorem DateForm.exists_getLast?_write (positive : 0 ≤ instant.date.year)
    (small : instant.date.year ≤ 9999) (form : DateForm) :
    ∃ c, (form.write instant).getLast? = some c ∧ isBlank c = false := by
  cases form with
  | mail => exact ⟨'T', by simp [write, List.getLast?_cons], by decide⟩
  | hyphenated => exact ⟨'T', by simp [write, List.getLast?_cons], by decide⟩
  | yearLast =>
      obtain ⟨textEq, width⟩ := yearText_of_fourDigits positive small
      obtain ⟨c, isLast⟩ : ∃ c, (yearText instant.date.year).getLast? = some c := by
        rw [textEq, ← Option.isSome_iff_exists, List.getLast?_isSome]
        exact List.ne_nil_of_length_pos (by omega)
      have digit : c.isDigit = true := by
        rw [textEq] at isLast
        exact isDigit_of_mem_padded 4 _ c (List.mem_of_getLast? isLast)
      exact ⟨c, by simp [write, List.getLast?_cons, isLast], isBlank_eq_false_of_isDigit digit⟩
  | timestamp spelling =>
      have zones : ∀ zone ∈ ["Z".toList, "z".toList, "+00:00".toList, "-00:00".toList],
          (zone.getLast?.any fun c => !isBlank c) = true := by decide
      obtain ⟨c, isLast, solid⟩ := (Option.any_eq_true _ _).mp (zones _ spelling.isUniversal)
      exact ⟨c, by simp [write, List.getLast?_cons, isLast], by simpa using solid⟩

theorem readHttpDate?_write (whole : instant.nanos = 0) (first : 1970 ≤ instant.date.year)
    (last : instant.date.year ≤ 2069) (form : DateForm) {before behind : List Char}
    (blankBefore : before.all isBlank = true) (blankBehind : behind.all isBlank = true) :
    readHttpDate? (String.ofList (before ++ form.write instant ++ behind)) = some instant := by
  have positive : 0 ≤ instant.date.year := by omega
  have small : instant.date.year ≤ 9999 := by omega
  obtain ⟨c, rest, textEq, solidFront⟩ := form.exists_write_eq_cons positive small
  obtain ⟨d, isLast, solidBack⟩ := form.exists_getLast?_write positive small
  have trimmed : trim (before ++ form.write instant ++ behind) = form.write instant := by
    apply trim_append_of_solid (List.all_eq_true.mp blankBefore) (List.all_eq_true.mp blankBehind)
    · simp [textEq]
    · simpa [textEq] using solidFront
    · simpa [isLast] using solidBack
  rw [readHttpDate?, String.toList_ofList, trimmed]
  -- Each form is refused by all the readers that are tried before its own.
  cases form with
  | mail =>
      rw [readMailDate?_mail whole positive small]
      rfl
  | timestamp spelling =>
      rw [readMailDate?_timestamp positive small, readTimestamp?_timestamp whole positive small]
      rfl
  | hyphenated =>
      rw [readMailDate?_hyphenated, readTimestamp?_hyphenated,
        readHyphenDate?_hyphenated whole first last]
      rfl
  | yearLast =>
      rw [readMailDate?_yearLast, readTimestamp?_yearLast, readHyphenDate?_yearLast,
        readYearLastDate?_yearLast whole]
      rfl

end Forms

/-- The texts of an instant: any of its forms, with blanks around it. -/
def Instant.IsSpelled (instant : Instant) (text : String) : Prop :=
  ∃ (form : DateForm) (before behind : List Char),
    before.all isBlank = true ∧ behind.all isBlank = true ∧
      text = String.ofList (before ++ form.write instant ++ behind)

end ScriptLint.Calendar

namespace ScriptLint

open Calendar Freshness

/-- In the century for which a year of two digits is enough, every text of a whole second is read as
this second; so it does not matter for the freshness of a page in which form the date of the
remembered response was sent. -/
theorem dates_read_alike_in_every_form {instant : Instant} (whole : instant.nanos = 0)
    (first : 1970 ≤ instant.date.year) (last : instant.date.year ≤ 2069) :
    (∀ text, instant.IsSpelled text → readHttpDate? text = some instant) ∧
      ∀ text other, instant.IsSpelled text → instant.IsSpelled other →
        ∀ (cached live : ValidationHeaders) (now : Instant),
          assess (some { cached with date := some text }) live now =
            assess (some { cached with date := some other }) live now := by
  have read : ∀ text, instant.IsSpelled text → readHttpDate? text = some instant := by
    rintro text ⟨form, before, behind, blankBefore, blankBehind, rfl⟩
    exact readHttpDate?_write whole first last form blankBefore blankBehind
  refine ⟨read, ?_⟩
  intro text other spelled otherSpelled cached live now
  have sameDate : responseDate { cached with date := some text } =
      responseDate { cached with date := some other } := by
    simp only [responseDate, Option.bind_some, read text spelled, read other otherSpelled]
  simp only [assess, ofLifetime, sameDate]

theorem dates_read_alike_in_every_form_morning :
    ∃ instant : Instant, instant.nanos = 0 ∧ instant.date = ⟨1994, 11, 6⟩ ∧
      instant.second = 8 * 3600 + 49 * 60 + 37 ∧
      readHttpDate? " Sun, 06 Nov 1994 08:49:37 GMT" = some instant ∧
      readHttpDate? "Sunday, 06-Nov-94 08:49:37 GMT\t" = some instant ∧
      readHttpDate? "Sun Nov  6 08:49:37 1994" = some instant ∧
      readHttpDate? "1994-11-06T08:49:37Z" = some instant := by
  let instant : Instant := ⟨9075, 31777, 0, by decide, by decide, by decide⟩
  have read := (dates_read_alike_in_every_form (show instant.nanos = 0 from rfl)
    (by decide +kernel) (by decide +kernel)).1
  refine ⟨instant, rfl, by decide +kernel, rfl, read _ ?_, read _ ?_, read _ ?_, read _ ?_⟩
  · exact ⟨.mail, [' '], [], by decide, by decide, by decide +kernel⟩
  · exact ⟨.hyphenated, [], ['\t'], by decide, by decide, by decide +kernel⟩
  · exact ⟨.yearLast, [], [], by decide, by decide, by decide +kernel⟩
  · exact ⟨.timestamp ⟨'T', 0, ['Z'], by decide, by decide⟩, [], [], by decide, by decide,
      by decide +kernel⟩

end ScriptLint
